import SourceCheck.Builtin.Language
import SourceCheck.Backend

/-!
# How the tools are called

Each tool gets fixed words and a few paths: the file, the scratch directory, the project root or a
file in it.  A path never stands where its text could be taken for an option, for all of them are
absolute.

* `Builtin.plan`: the arguments of a language's tool, by their meaning.
* `Builtin.arguments`: the same as texts.
-/

namespace SourceCheck

/-- **One argument of a tool, by its meaning.** -/
inductive Argument
  /-- A fixed word. -/
  | word (text : String)
  /-- The file that is checked. -/
  | file
  /-- The project root. -/
  | root
  /-- An entry of the project root. -/
  | inRoot (name : String)
  /-- The scratch directory. -/
  | scratch
  deriving DecidableEq, Repr

namespace Argument

/-- The text of an argument in a check. -/
def text (c : CheckContext) : Argument → String
  | word s => s
  | file => c.file.text
  | root => c.root.text
  | inRoot name => (c.root.child name).text
  | scratch => c.scratch.text

/-- Some fixed words. -/
def words (ws : List String) : List Argument := ws.map word

end Argument

namespace Builtin

open Argument

/-- The suffix of the checked file in lower case. -/
def loweredSuffix (c : CheckContext) : String := Text.lowered c.file.suffix

/-- Suffixes of C as against C++. -/
def plainCSuffixes : List String := [".c", ".h"]

/-- Names of Rust files that are no programs. -/
def rustLibraryNames : List String := ["lib.rs", "mod.rs"]

/-- The expression that makes Elixir read a file without running it. -/
def elixirExpression : String :=
  "[path] = System.argv(); path |> File.read!() |> Code.string_to_quoted!(file: path)"

/-- **The arguments of a language's tool, by their meaning.** -/
def plan (b : Builtin) (c : CheckContext) : List Argument :=
  match b with
  | typeScript =>
    words ["--noEmit", "--pretty", "false"] ++
      if c.configured then [word "--project", inRoot "tsconfig.json"]
      else words ["--skipLibCheck", "--target", "es2022"] ++
        (if loweredSuffix c == ".tsx" then words ["--jsx", "preserve"] else []) ++ [file]
  | python =>
    [word "--outputjson"] ++ (if c.configured then [word "--project", root] else []) ++ [file]
  | go => [word "vet", file]
  | rust =>
    words ["--error-format=short", "--emit=metadata", "--edition=2021", "--out-dir"] ++
      [scratch] ++
      (if rustLibraryNames.contains c.file.name then [word "--crate-type=lib"] else []) ++ [file]
  | java => [word "-Xlint:all", word "-d", scratch, file]
  | cpp =>
    words ["-fsyntax-only", "-fdiagnostics-color=never", "-Wall"] ++
      words (if plainCSuffixes.contains (loweredSuffix c) then ["-x", "c"]
        else ["-x", "c++", "-std=c++17"]) ++ [file]
  | php => words ["-l", "-d", "display_errors=stderr", "-d", "log_errors=0"] ++ [file]
  | scala => [word "-d", scratch, file]
  | lua => [word "-p", file]
  | elixir => [word "-e", word elixirExpression, file]
  | terraform => words ["fmt", "-check", "-diff", "-no-color"] ++ [file]
  | zig => [word "ast-check", file]

/-- **The arguments of a language's tool.** -/
def arguments (b : Builtin) (c : CheckContext) : List String := (b.plan c).map (Argument.text c)

end Builtin

end SourceCheck

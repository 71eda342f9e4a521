import SourceCheck.Output.Position
import SourceCheck.Text.Lines
import SourceCheck.Text.Scan

/-!
# Lua compiler lines

The Lua compiler reports `program: path:line: message`, where the program is a word that ends in
`luac`, a version and perhaps `.exe`; some builds leave the program out.
-/

namespace SourceCheck

open Text

namespace Luac

/-- **The parts of a line.** -/
structure LuacLine where
  path : List Char
  line : List Char
  message : List Char
  deriving Repr, DecidableEq

/-- Whether a word ends in the program's name and a version. -/
def isVersioned (word : List Char) : Bool :=
  let stem := (word.reverse.dropWhile fun c => isDecimal c || c == '.').reverse
  "luac".toList.isSuffixOf stem

/-- Whether a word is the name of the program. -/
def isProgram (word : List Char) : Bool :=
  isVersioned word ||
    (".exe".toList.isSuffixOf word && isVersioned (word.take (word.length - 4)))

/-- The text behind the program's name, if it stands in front. -/
def behindProgram? (s : List Char) : Option (List Char) :=
  let (word, rest) := run (fun c => !isBlank c) s
  match word.reverse, rest with
  | ':' :: name, ' ' :: rest => if isProgram name.reverse then some rest else none
  | _, _ => none

/-- The line number and message behind a path. -/
def behindPath? (s : List Char) : Option (List Char × List Char) := do
  let s ← afterWord ":" s
  let (line, s) ← digits? s
  let s ← afterWord ": " s
  let message ← nonEmpty? s
  return (line, message)

/-- The parts of a line without the program. -/
def located? (s : List Char) : Option LuacLine :=
  (shortest behindPath? s).map fun (path, line, message) => ⟨path, line, message⟩

/-- **The parts of a line**, if it reports a finding. -/
def ofLine? (s : List Char) : Option LuacLine :=
  match (behindProgram? s).bind located? with
  | some l => some l
  | none => located? s

/-- The finding that a line reports: always an error. -/
def diagnostic (l : LuacLine) : Except Fault Diagnostic := do
  let line ← Position.ofDigits l.line
  return { line, column := .first, severity := .error, message := String.ofList (trim l.message)
           code := none }

end Luac

namespace Output

/-- **The findings of the Lua compiler.** -/
def luac (streams : List String) : Except Fault (List Diagnostic) :=
  ((outputLines streams).filterMap fun l => Luac.ofLine? (trim l)).mapM Luac.diagnostic

end Output

end SourceCheck

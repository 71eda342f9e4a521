import SourceCheck.Machine.Basic
import SourceCheck.Machine.Search

/-!
# Starting a program

A file can be started if it is a program of the machine, or if its first line names one behind
`#!`; then that program is started with the file's path as an argument.

* `Machine.load`: the program behind a path.
* `Machine.loadFirst`: the first of several paths that can be started.
-/

namespace SourceCheck.Machine

/-- **A program that can be started**, and what stands in its argument list in place of the name
by which it was called; nothing if the name stays. -/
structure Loaded where
  program : Program
  inPlace : List String
  deriving Repr, DecidableEq

/-- A space or a tab. -/
def isGap (b : UInt8) : Bool := b == 32 || b == 9

/-- The bytes without gaps at either end. -/
def trimGaps (bs : List UInt8) : List UInt8 :=
  ((bs.dropWhile isGap).reverse.dropWhile isGap).reverse

/-- How much of a file is looked at to find out how it is started. -/
def headLimit : Nat := 256

/-- The first line of a script behind the mark: a program and perhaps one argument. -/
def interpreter? (bytes : List UInt8) : Option (List String) :=
  match bytes.take headLimit with
  | 35 :: 33 :: rest =>
    let line := trimGaps (rest.takeWhile (· != 10))
    let name := line.takeWhile fun b => !isGap b
    let argument := trimGaps (line.dropWhile fun b => !isGap b)
    let text := fun bs => String.ofList (Text.Utf8.decodeLossy bs)
    if name = [] then none
    else if argument = [] then some [text name]
    else some [text name, text argument]
  | _ => none

/-- Whether a path's text can only mean a directory. -/
def meansDirectory (path : String) : Bool :=
  match path.toList.reverse with
  | '/' :: _ => true
  | '.' :: '/' :: _ => true
  | _ => false

/-- How deep scripts may name scripts. -/
def scriptDepth : Nat := 5

/-- The program behind a path, with a bound on scripts that name scripts. -/
def loadUpTo (m : Machine) : Nat → String → Except SystemError Loaded
  | 0, _ => .error .linkLoop
  | n + 1, path =>
    match m.find (Path.ofString path) true with
    | .error (.system e _) => .error e
    | .error _ => .error .missing
    | .ok ⟨_, none⟩ => .error .missing
    | .ok ⟨_, some (.program p)⟩ =>
      if meansDirectory path then .error .notADirectory else .ok ⟨p, []⟩
    | .ok ⟨_, some (.file mode bytes)⟩ =>
      if meansDirectory path then .error .notADirectory
      else if !(Entry.file mode bytes).isExecutableFile then .error .forbidden
      else
        match interpreter? bytes with
        | none => .error .notAProgram
        | some [] => .error .notAProgram
        | some (name :: arguments) =>
          match loadUpTo m n name with
          | .error e => .error e
          | .ok l =>
            let own := if l.inPlace = [] then [name] else l.inPlace
            .ok ⟨l.program, own ++ arguments ++ [path]⟩
    | .ok ⟨_, some _⟩ => .error .forbidden

/-- **The program behind a path**, or why it cannot be started. -/
def load (m : Machine) (path : String) : Except SystemError Loaded :=
  if path == "" then .error .missing else m.loadUpTo scriptDepth path

/-- Whether a refusal means that the search goes on as if nothing were there. -/
def isAbsence (e : SystemError) : Bool := e = .missing || e = .notADirectory

/-- **The first of several paths that can be started.**  If there is none, the first refusal that
is no mere absence counts, else the last one. -/
def loadFirst (m : Machine) (refusal : Option SystemError) :
    List String → Except SystemError Loaded
  | [] => .error (refusal.getD .missing)
  | path :: rest =>
    match m.load path with
    | .ok l => .ok l
    | .error e =>
      match refusal with
      | some r => if isAbsence r then loadFirst m (some e) rest else loadFirst m (some r) rest
      | none => loadFirst m (some e) rest

/-- **The paths under which a program is looked for**, in order. -/
def candidates (searchPath : String) (name : String) : List String :=
  if name.toList.contains '/' then [name]
  else (searchDirectories searchPath).map (inDirectory · name)

/-- The arguments of a program that was called by a name. -/
def Loaded.arguments (l : Loaded) (called : List String) : List String :=
  if l.inPlace = [] then called else l.inPlace ++ called.tail

end SourceCheck.Machine

import SourceCheck.Output.Position
import SourceCheck.Text.Lines
import SourceCheck.Text.Scan

/-!
# Go vet lines

`go vet` reports `path.go:line:column: message`, sometimes without the column and sometimes behind
`vet: `.  Lines that start with `#` name the package and report nothing.  The path holds no colon.
-/

namespace SourceCheck

open Text

/-- **The parts of a Go vet line.** -/
structure GoVetLine where
  path : List Char
  line : List Char
  column : Option (List Char)
  message : List Char
  deriving Repr, DecidableEq

/-- A further number behind a colon, if there is one, and the rest. -/
def columnIn (s : List Char) : Option (List Char) × List Char :=
  match afterWord ":" s with
  | some rest =>
    match digits? rest with
    | some (digits, rest) => (some digits, rest)
    | none => (none, s)
  | none => (none, s)

namespace GoVetLine

/-- A path that ends in `.go`, with a character before that, and starts with no white space. -/
def isPath (s : List Char) : Bool :=
  ".go".toList.isSuffixOf s && 3 < s.length && !(s.headD ' ' |> isBlank)

/-- **The parts of a Go vet line**, if it is one. -/
def ofLine? (s : List Char) : Option GoVetLine := do
  let s := (afterWord "vet: " s).getD s
  let (path, s) := run (· != ':') s
  if !isPath path then none
  let s ← afterWord ":" s
  let (line, s) ← digits? s
  let (column, s) := columnIn s
  let s ← afterWord ": " s
  let message ← nonEmpty? s
  return ⟨path, line, column, message⟩

/-- The finding that a line reports: always an error. -/
def diagnostic (l : GoVetLine) : Except Fault Diagnostic := do
  let line ← Position.ofDigits l.line
  let column ← Position.ofDigits? l.column
  return { line, column, severity := .error, message := String.ofList (trim l.message)
           code := none }

end GoVetLine

namespace Output

/-- **The findings of Go vet.** -/
def goVet (streams : List String) : Except Fault (List Diagnostic) :=
  ((outputLines streams).filterMap fun l =>
    let s := trim l
    if s.head? = some '#' then none else GoVetLine.ofLine? s).mapM GoVetLine.diagnostic

end Output

end SourceCheck

import SourceCheck.Output.Position
import SourceCheck.Text.Lines
import SourceCheck.Text.Scan

/-!
# Compiler lines

Many compilers report a finding on one line, `path:line:column: severity: message`, with an
optional code in brackets behind the severity.  The path ends where the shortest reading of the
rest begins.

* `CompilerLine.ofLine?`: the parts of such a line.
* `Output.compiler`: the diagnostics of some streams.
-/

namespace SourceCheck

open Text

/-- **The parts of a compiler line.** -/
structure CompilerLine where
  path : List Char
  line : List Char
  column : List Char
  severity : String
  code : Option (List Char)
  message : List Char
  deriving Repr, DecidableEq

namespace CompilerLine

/-- The words for a severity, the longer one first. -/
def severities : List String := ["fatal error", "error", "warning", "note"]

/-- A code in brackets, if there is one, and the rest. -/
def codeIn : List Char → Option (List Char) × List Char
  | '[' :: s =>
    match run? (· != ']') s with
    | some (code, ']' :: rest) => (some code, rest)
    | _ => (none, '[' :: s)
  | s => (none, s)

/-- The parts behind the path. -/
def behindPath? (s : List Char) :
    Option (List Char × List Char × String × Option (List Char) × List Char) := do
  let s ← afterWord ":" s
  let (line, s) ← digits? s
  let s ← afterWord ":" s
  let (column, s) ← digits? s
  let s ← afterWord ": " s
  let (severity, s) ← oneOf severities s
  let (code, s) := codeIn s
  let s ← afterWord ": " s
  let message ← nonEmpty? s
  return (line, column, severity, code, message)

/-- **The parts of a compiler line**, if it is one. -/
def ofLine? (s : List Char) : Option CompilerLine :=
  (shortest behindPath? s).map fun (path, line, column, severity, code, message) =>
    ⟨path, line, column, severity, code, message⟩

/-- The finding that a compiler line reports. -/
def diagnostic (l : CompilerLine) : Except Fault Diagnostic := do
  let line ← Position.ofDigits l.line
  let column ← Position.ofDigits l.column
  return { line, column, severity := Severity.ofLabel l.severity
           message := String.ofList (trim l.message), code := l.code.map String.ofList }

end CompilerLine

namespace Output

/-- **The findings of the compiler lines in some streams**, in order. -/
def compiler (streams : List String) : Except Fault (List Diagnostic) :=
  ((outputLines streams).filterMap fun l => CompilerLine.ofLine? (trim l)).mapM
    CompilerLine.diagnostic

end Output

end SourceCheck

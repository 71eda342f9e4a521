import SourceCheck.Output.Caret
import SourceCheck.Output.Position
import SourceCheck.Text.Lines
import SourceCheck.Text.Scan
import SourceCheck.Text.Word

/-!
# Java compiler blocks

The Java compiler reports `path.java:line: severity: message`, then the source line and a line of
carets.  A lint warning has its code in brackets in front of the message.
-/

namespace SourceCheck

open Text

/-- **A located line without a column.** -/
structure LocatedLine where
  path : List Char
  line : List Char
  severity : String
  message : List Char
  deriving Repr, DecidableEq

namespace LocatedLine

/-- The parts behind a path: a suffix, a line number, one of some words and a message. -/
def behindPath? (suffixes severities : List String) (s : List Char) :
    Option (String × List Char × String × List Char) := do
  let (suffix, s) ← oneOf suffixes s
  let s ← afterWord ":" s
  let (line, s) ← digits? s
  let s ← afterWord ": " s
  let (severity, s) ← oneOf severities s
  let s ← afterWord ": " s
  let message ← nonEmpty? s
  return (suffix, line, severity, message)

/-- **The parts of a located line** whose path has one of some suffixes. -/
def ofLine? (suffixes severities : List String) (s : List Char) : Option LocatedLine :=
  (shortest (behindPath? suffixes severities) s).map
    fun (stem, suffix, line, severity, message) =>
      ⟨stem ++ suffix.toList, line, severity, message⟩

end LocatedLine

namespace Javac

/-- **The first line of a finding**, if it is one. -/
def header? (s : List Char) : Option LocatedLine :=
  LocatedLine.ofLine? [".java"] ["error", "warning", "note"] s

/-- Characters of a lint code. -/
def isCodeChar (c : Char) : Bool := isWord c || c == '-'

/-- A lint code in brackets in front of a message, and the message. -/
def lint? (s : List Char) : Option (List Char × List Char) := do
  let s ← afterWord "[" s
  let (code, s) ← run? isCodeChar s
  let s ← afterWord "]" s
  let message ← nonEmpty? (trimLeft s)
  return (code, message)

/-- The finding that a first line and the lines behind it report. -/
def diagnostic (h : LocatedLine) (rest : List (List Char)) : Except Fault Diagnostic := do
  let column := ((Caret.below? Caret.lookahead rest).map (·.1)).getD 1
  let text := trim h.message
  let line ← Position.ofDigits h.line
  return { line, column := Position.ofNat column, severity := Severity.ofLabel h.severity
           message := String.ofList (((lint? text).map (·.2)).getD text)
           code := (lint? text).map fun l => String.ofList l.1 }

/-- The findings of some lines, in order. -/
def findings : List (List Char) → Except Fault (List Diagnostic)
  | [] => .ok []
  | l :: ls =>
    match header? l with
    | none => findings ls
    | some h => do
      let d ← diagnostic h ls
      let ds ← findings ls
      return d :: ds

end Javac

namespace Output

/-- **The findings of the Java compiler.** -/
def javac (streams : List String) : Except Fault (List Diagnostic) :=
  Javac.findings (outputLines streams)

end Output

end SourceCheck

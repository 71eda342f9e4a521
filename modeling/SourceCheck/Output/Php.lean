import SourceCheck.Output.Position
import SourceCheck.Text.Lines
import SourceCheck.Text.Scan

/-!
# PHP lint lines

PHP reports `severity: message in path on line n`, sometimes behind `PHP `, and may report the same
finding on both streams.  A finding with the line and message of an earlier one is dropped.
-/

namespace SourceCheck

open Text

namespace Php

/-- PHP's words for a severity. -/
def vocabulary : List (String × Severity) := [
  ("parse error", .error), ("fatal error", .error), ("warning", .warning),
  ("deprecated", .warning), ("notice", .info)]

/-- The same words as they start a line. -/
def severities : List String :=
  ["Parse error", "Fatal error", "Warning", "Deprecated", "Notice"]

/-- **The parts of a lint line.** -/
structure LintLine where
  severity : String
  message : List Char
  path : List Char
  line : List Char
  deriving Repr, DecidableEq

/-- The line number behind a path. -/
def behindPath? (s : List Char) : Option (List Char) := do
  let s ← afterWord " on line " s
  let (line, _) ← digits? s
  return line

/-- The path and the line number behind a message. -/
def behindMessage? (s : List Char) : Option (List Char × List Char) := do
  let s ← afterWord " in " s
  shortest behindPath? s

/-- Reads a message, path and line behind white space, giving white space back to the message
from its end, up to `n` characters, until a reading is found. -/
def behindBlanks? (blanks rest : List Char) : Nat → Option (List Char × List Char × List Char)
  | 0 => none
  | n + 1 =>
    match shortest behindMessage? (blanks.drop (n + 1) ++ rest) with
    | some r => some r
    | none => behindBlanks? blanks rest n

/-- **The parts of a lint line**, if it is one. -/
def ofLine? (s : List Char) : Option LintLine := do
  let s := (afterWord "PHP " s).getD s
  let (severity, s) ← oneOf severities s
  let s ← afterWord ":" s
  let (blanks, rest) := run isBlank s
  let (message, path, line) ← behindBlanks? blanks rest blanks.length
  return ⟨severity, message, path, line⟩

/-- The finding that a lint line reports. -/
def diagnostic (l : LintLine) : Except Fault Diagnostic := do
  let line ← Position.ofDigits l.line
  return { line, column := .first
           severity := Severity.ofVocabulary vocabulary .error l.severity
           message := String.ofList (trim l.message), code := none }

/-- Whether two findings have the same line and message. -/
def sameFinding (a b : Diagnostic) : Bool := a.line == b.line && a.message == b.message

/-- **Findings without those that repeat an earlier one.** -/
def distinct (ds : List Diagnostic) : List Diagnostic :=
  ds.foldl (fun kept d => if kept.any (sameFinding · d) then kept else kept ++ [d]) []

end Php

namespace Output

/-- **The findings of PHP.** -/
def php (streams : List String) : Except Fault (List Diagnostic) := do
  let ds ← ((outputLines streams).filterMap fun l => Php.ofLine? (trim l)).mapM Php.diagnostic
  return Php.distinct ds

end Output

end SourceCheck

import SourceCheck.Output.GoVet
import SourceCheck.Text.Word

/-!
# Elixir error blocks

Older releases report `** (Kind) path:line:column: message` on one line.  Newer ones report
`** (Kind) summary on path:line:column:` and tell the message on one of the four lines behind,
after `error: `.  The column may be left out in both.
-/

namespace SourceCheck

open Text

namespace Elixir

/-- How many lines behind a header are looked at for the message. -/
def lookahead : Nat := 4

/-- Whether a word is the name of an error: word characters and then `Error`. -/
def isKind (word : List Char) : Bool := 5 < word.length && "Error".toList.isSuffixOf word

/-- The kind of an error in front of a report, and the rest. -/
def kind? (s : List Char) : Option (List Char × List Char) := do
  let s ← afterWord "** (" s
  let (kind, s) := run isWord s
  if !isKind kind then none
  let s ← afterWord ") " s
  return (kind, s)

/-- **The parts of a report.** -/
structure Report where
  kind : List Char
  line : List Char
  column : Option (List Char)
  /-- The message, or the summary that a message may follow. -/
  message : List Char
  deriving Repr, DecidableEq

/-- **A report on one line**, if the line is one. -/
def inline? (s : List Char) : Option Report := do
  let (kind, s) ← kind? s
  let (_, s) ← run? (fun c => !isBlank c && c != ':') s
  let s ← afterWord ":" s
  let (line, s) ← digits? s
  let (column, s) := columnIn s
  let s ← afterWord ": " s
  let message ← nonEmpty? s
  return ⟨kind, line, column, message⟩

/-- The position that ends a header. -/
def ending? (s : List Char) : Option (List Char × Option (List Char)) := do
  let s ← afterWord ":" s
  let (line, s) ← digits? s
  let (column, s) := columnIn s
  if s = [':'] then some (line, column) else none

/-- The path and the position behind a summary. -/
def behindSummary? (s : List Char) : Option (List Char × List Char × Option (List Char)) := do
  let s ← afterWord " on " s
  shortest ending? s

/-- **A header whose message follows**, if the line is one. -/
def header? (s : List Char) : Option Report := do
  let (kind, s) ← kind? s
  let (summary, _, line, column) ← shortest behindSummary? s
  return ⟨kind, line, column, summary⟩

/-- The message that a line tells. -/
def detail? (s : List Char) : Option (List Char) := do
  let s ← afterWord "error: " (trimLeft s)
  nonEmpty? s

/-- The finding of a report with a given message. -/
def diagnostic (r : Report) (message : List Char) : Except Fault Diagnostic := do
  let line ← Position.ofDigits r.line
  let column ← Position.ofDigits? r.column
  return { line, column, severity := .error, message := String.ofList (trim message)
           code := some (String.ofList r.kind) }

/-- The finding that starts at a line, if one does. -/
def finding? (l : List Char) (rest : List (List Char)) : Option (Except Fault Diagnostic) :=
  match inline? (trim l) with
  | some r => some (diagnostic r r.message)
  | none => (header? (trim l)).map fun r =>
    diagnostic r (((rest.take lookahead).findSome? detail?).getD r.message)

/-- The findings of some lines, in order. -/
def findings : List (List Char) → Except Fault (List Diagnostic)
  | [] => .ok []
  | l :: ls =>
    match finding? l ls with
    | none => findings ls
    | some finding => do
      let d ← finding
      let ds ← findings ls
      return d :: ds

end Elixir

namespace Output

/-- **The findings of Elixir.** -/
def elixir (streams : List String) : Except Fault (List Diagnostic) :=
  Elixir.findings (outputLines streams)

end Output

end SourceCheck

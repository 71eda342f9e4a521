import SourceCheck.Output.Position
import SourceCheck.Text.Lines
import SourceCheck.Text.Scan

/-!
# Terraform format checks

`terraform fmt` prints a diff of what it would change; every hunk is a warning at its first changed
line.  On the other stream it reports files that it cannot read, as blocks framed by box
characters; the line number stands on one of the four lines behind the first.
-/

namespace SourceCheck

open Text

namespace Terraform

/-- What a finding about the format says. -/
def formatMessage : String := "Formatting issues detected (run `terraform fmt` to fix)"

/-- The code of a finding about the format. -/
def formatCode : String := "fmt"

/-! ## 1. Hunks -/

/-- Behind a comma and digits, if they are there. -/
def skipCount (s : List Char) : List Char :=
  match (afterWord "," s).bind digits? with
  | some (_, rest) => rest
  | none => s

/-- The first line number of a hunk, if the line starts one. -/
def hunkStart? (s : List Char) : Option (List Char) := do
  let s ← afterWord "@@ -" s
  let (start, s) ← digits? s
  let s ← afterWord " +" (skipCount s)
  let (_, s) ← digits? s
  let _ ← afterWord " @@" (skipCount s)
  return start

/-- Whether the line names a file. -/
def isFileLine (s : List Char) : Bool := (afterWord "---" s).isSome || (afterWord "+++" s).isSome

/-- Whether the line is changed. -/
def isChanged (s : List Char) : Bool := s.head? = some '-' || s.head? = some '+'

/-- The warning at a line. -/
def formatWarning (line : Nat) : Diagnostic :=
  { line := .ofNat line, column := .first, severity := .warning, message := formatMessage
    code := some formatCode }

/-- **One warning for each hunk**, at its first changed line.  `line` is the number of the next
line of the open hunk, as long as no change was met in it. -/
def hunks (line : Option Nat) : List (List Char) → Except Fault (List Diagnostic)
  | [] => .ok []
  | l :: ls =>
    match hunkStart? l with
    | some digits => do
      let start ← Number.readNumber digits
      hunks (some start) ls
    | none =>
      match line with
      | none => hunks none ls
      | some n =>
        if isFileLine l then hunks (some n) ls
        else if isChanged l then (hunks none ls).map (formatWarning n :: ·)
        else hunks (some (n + 1)) ls

/-! ## 2. Blocks -/

/-- How many lines behind the first of a block are looked at for the line number. -/
def lookahead : Nat := 4

/-- Characters that frame a block. -/
def isFrame (c : Char) : Bool := c == '╷' || c == '│' || c == '╵' || c == ' '

/-- A line without its frame. -/
def unframe (l : List Char) : List Char := trimOf isFrame l

/-- The severity and message of a block's first line. -/
def header? (s : List Char) : Option (String × List Char) := do
  let (severity, s) ← oneOf ["Error", "Warning"] s
  let s ← afterWord ": " s
  let message ← nonEmpty? s
  return (severity, message)

/-- Behind `, in` and a context, if they are there. -/
def skipContext (s : List Char) : List Char :=
  match (afterWord ", in " s).bind (run? (· != ':')) with
  | some (_, rest) => rest
  | none => s

/-- The line number behind a path. -/
def behindPath? (s : List Char) : Option (List Char) := do
  let s ← afterWord " line " s
  let (line, s) ← digits? s
  let _ ← afterWord ":" (skipContext s)
  return line

/-- The line number that a line of a block gives. -/
def location? (s : List Char) : Option (List Char) := do
  let s ← afterWord "on " s
  let (_, line) ← shortest behindPath? s
  return line

/-- The finding of a block. -/
def diagnostic (severity : String) (message : List Char) (rest : List (List Char)) :
    Except Fault Diagnostic := do
  let line ← Position.ofDigits? ((rest.take lookahead).findSome? location?)
  return { line, column := .first, severity := Severity.ofLabel severity
           message := String.ofList (trim message), code := none }

/-- **The findings of some lines without their frames**, in order. -/
def blocks : List (List Char) → Except Fault (List Diagnostic)
  | [] => .ok []
  | l :: ls =>
    match header? l with
    | none => blocks ls
    | some (severity, message) => do
      let d ← diagnostic severity message ls
      let ds ← blocks ls
      return d :: ds

end Terraform

namespace Output

/-- **The findings of a Terraform format check**: the hunks, then the blocks. -/
def terraform (stdout stderr : String) : Except Fault (List Diagnostic) := do
  let format ← Terraform.hunks none (outputLines [stdout])
  let syntaxErrors ← Terraform.blocks ((outputLines [stderr]).map Terraform.unframe)
  return format ++ syntaxErrors

end Output

end SourceCheck

import SourceCheck.Text.Blank

/-!
# Carets below a source line

Some compilers show the source line and a line of carets below it.  The column of a finding is the
column of the first caret, in the first such line among the five that follow the finding.
-/

namespace SourceCheck.Caret

open Text

/-- How many lines behind a finding are looked at. -/
def lookahead : Nat := 5

/-- A text of carets only. -/
def isCarets (s : List Char) : Bool := s != [] && s.all (· == '^')

/-- The column of the first caret, if the line holds carets only. -/
def columnIn? (l : List Char) : Option Nat :=
  if isCarets (trim l) then some (l.findIdx (· == '^') + 1) else none

/-- **The column of the first line of carets** among the next `n` lines, and how many lines stand
before it. -/
def below? : Nat → List (List Char) → Option (Nat × Nat)
  | 0, _ => none
  | _ + 1, [] => none
  | n + 1, l :: ls =>
    match columnIn? l with
    | some column => some (column, 0)
    | none => (below? n ls).map fun r => (r.1, r.2 + 1)

end SourceCheck.Caret

import SourceCheck.Text.Blank

/-!
# Lines of a tool's output

A text breaks at line feed, carriage return (the two together count once), vertical tab, form
feed, the three information separators `\x1c` to `\x1e`, the next-line control and Unicode's
line and paragraph separators.  A break at the very end opens no further line.

* `lines`: the lines of one text, without their breaks.
* `outputLines`: the lines of several streams in order, each without trailing white space.
-/

namespace SourceCheck.Text

/-- **Characters that end a line.** -/
def isLineBreak (c : Char) : Bool :=
  let n := c.toNat
  (10 ≤ n && n ≤ 13) || (28 ≤ n && n ≤ 30) || n == 0x85 || n == 0x2028 || n == 0x2029

/-- Puts a character in front of the first line. -/
def consFirst (c : Char) : List (List Char) → List (List Char)
  | [] => [[c]]
  | l :: ls => (c :: l) :: ls

/-- **The lines of a text**, without their breaks. -/
def lines : List Char → List (List Char)
  | [] => []
  | '\r' :: '\n' :: cs => [] :: lines cs
  | c :: cs => if isLineBreak c then [] :: lines cs else consFirst c (lines cs)

/-- **The lines of several streams in order**, each without trailing white space. -/
def outputLines (streams : List String) : List (List Char) :=
  streams.flatMap fun s => (lines s.toList).map trimRight

/-! ## 1. Small facts -/

@[simp] theorem lines_nil : lines [] = [] := rfl

theorem lines_cons_of_not_break {c : Char} {cs : List Char} (h : isLineBreak c = false) :
    lines (c :: cs) = consFirst c (lines cs) := by
  rw [lines.eq_def]
  split
  · contradiction
  · rename_i heq
    simp only [List.cons.injEq] at heq
    rw [heq.1] at h
    exact absurd h (by decide)
  · rename_i heq
    simp only [List.cons.injEq] at heq
    obtain ⟨rfl, rfl⟩ := heq
    simp [h]

/-- A text without a line break is one line. -/
theorem lines_of_no_break {s : List Char} (hne : s ≠ []) (h : ∀ c ∈ s, isLineBreak c = false) :
    lines s = [s] := by
  induction s with
  | nil => contradiction
  | cons c cs ih =>
    rw [lines_cons_of_not_break (h c (by simp))]
    cases cs with
    | nil => rfl
    | cons d ds => rw [ih (by simp) fun x hx => h x (by simp [hx])]; rfl

@[simp] theorem outputLines_nil : outputLines [] = [] := rfl

theorem outputLines_append (xs ys : List String) :
    outputLines (xs ++ ys) = outputLines xs ++ outputLines ys := by
  simp [outputLines]

end SourceCheck.Text

/-!
# Tables of code points

A character class is given by inclusive ranges of code points, a case map by runs of regularly
spaced letters that all move by one shift.
-/

namespace SourceCheck.Text

/-- **Membership of a code point in a list of inclusive ranges.** -/
def inRanges (ranges : List (Nat × Nat)) (n : Nat) : Bool :=
  ranges.any fun r => decide (r.1 ≤ n) && decide (n ≤ r.2)

theorem inRanges_iff {ranges : List (Nat × Nat)} {n : Nat} :
    inRanges ranges n = true ↔ ∃ r ∈ ranges, r.1 ≤ n ∧ n ≤ r.2 := by
  simp [inRanges]

/-- **A run of letters that change case alike**: every `stride`-th code point from `first` to
`last` moves by `shift`. -/
structure CaseRun where
  first : Nat
  last : Nat
  stride : Nat
  shift : Int
  deriving Repr, DecidableEq

namespace CaseRun

/-- Whether the run moves this code point. -/
def covers (r : CaseRun) (n : Nat) : Bool :=
  decide (r.first ≤ n) && decide (n ≤ r.last) && (n - r.first) % r.stride == 0

/-- Where the run moves a code point that it covers. -/
def move (r : CaseRun) (n : Nat) : Nat := ((n : Int) + r.shift).toNat

end CaseRun

end SourceCheck.Text

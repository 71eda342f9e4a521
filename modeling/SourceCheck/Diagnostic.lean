import SourceCheck.Severity
import SourceCheck.Json.Value

/-!
# Diagnostics

A diagnostic is one finding of a tool: a position counted from one, a severity, a message and
perhaps a code.  A tally counts the findings of each severity; errors and warnings need attention.
-/

namespace SourceCheck

/-- **A line or column**, counted from one. -/
structure Position where
  value : Nat
  one_le : 1 ≤ value
  deriving DecidableEq, Repr

namespace Position

/-- The first line or column. -/
def first : Position := ⟨1, Nat.le_refl 1⟩

/-- A natural number as a position; zero counts as one. -/
def ofNat (n : Nat) : Position := ⟨max n 1, Nat.le_max_right n 1⟩

/-- A whole number as a position; what lies before the first counts as the first. -/
def ofInt (n : Int) : Position := ofNat n.toNat

@[simp] theorem value_ofNat (n : Nat) : (ofNat n).value = max n 1 := rfl

theorem ofNat_value (p : Position) : ofNat p.value = p := by
  have h := p.one_le
  cases p
  simp only [ofNat, mk.injEq]
  omega

end Position

/-- **One finding of a tool.** -/
structure Diagnostic where
  line : Position
  column : Position
  severity : Severity
  message : String
  code : Option String
  deriving DecidableEq, Repr

/-- **How many findings there are of each severity.** -/
structure Tally where
  errors : Int
  warnings : Int
  infos : Int
  deriving DecidableEq, Repr

namespace Tally

/-- All findings. -/
def total (t : Tally) : Int := t.errors + t.warnings + t.infos

/-- Whether there are errors or warnings. -/
def needsAttention (t : Tally) : Bool := 0 < t.errors + t.warnings

/-- The number of findings of a severity. -/
def countOf (s : Severity) (ds : List Diagnostic) : Nat :=
  ds.countP fun d => d.severity == s

/-- **Counts findings.** -/
def of (ds : List Diagnostic) : Tally :=
  ⟨countOf .error ds, countOf .warning ds, countOf .info ds⟩

theorem countOf_pos_iff {s : Severity} {ds : List Diagnostic} :
    0 < countOf s ds ↔ ∃ d ∈ ds, d.severity = s := by
  simp [countOf, List.countP_pos_iff]

/-- Findings need attention exactly if one of them is an error or a warning. -/
theorem needsAttention_of_iff (ds : List Diagnostic) :
    (of ds).needsAttention = true ↔ ∃ d ∈ ds, d.severity = .error ∨ d.severity = .warning := by
  have hsum : (0 : Int) < (countOf .error ds : Int) + countOf .warning ds ↔
      0 < countOf .error ds ∨ 0 < countOf .warning ds := by omega
  simp only [of, needsAttention, decide_eq_true_eq, hsum, countOf_pos_iff]
  constructor
  · rintro (⟨d, hd, h⟩ | ⟨d, hd, h⟩)
    · exact ⟨d, hd, .inl h⟩
    · exact ⟨d, hd, .inr h⟩
  · rintro ⟨d, hd, h | h⟩
    · exact .inl ⟨d, hd, h⟩
    · exact .inr ⟨d, hd, h⟩

end Tally

end SourceCheck

import SourceCheck.Text.Blank
import SourceCheck.Text.Digit

/-!
# Reading the parts of a line

The readers of tool output look at one line from the left.  Each part below takes what it
recognises off the front and gives the rest back.

* `after lit s`: the rest of `s` behind a fixed text.
* `digits? s`: a run of decimal digits, as long as possible and not empty.
* `shortest p s`: the shortest non-empty beginning after which `p` can read the rest.  This is how
  a path or a message whose end nothing marks is told from what follows.
-/

namespace SourceCheck.Text

/-- **The rest of a text behind a fixed beginning.** -/
def after : List Char → List Char → Option (List Char)
  | [], s => some s
  | _ :: _, [] => none
  | a :: as, c :: cs => if a == c then after as cs else none

/-- The rest of a text behind a fixed beginning that is written as a string. -/
def afterWord (lit : String) (s : List Char) : Option (List Char) := after lit.toList s

/-- The longest beginning of characters of a class, and the rest. -/
def run (p : Char → Bool) (s : List Char) : List Char × List Char :=
  (s.takeWhile p, s.dropWhile p)

/-- The longest beginning of characters of a class, if it is not empty, and the rest. -/
def run? (p : Char → Bool) (s : List Char) : Option (List Char × List Char) :=
  if s.takeWhile p = [] then none else some (run p s)

/-- **A run of decimal digits**, as long as possible, and the rest. -/
def digits? (s : List Char) : Option (List Char × List Char) := run? isDecimal s

/-- **The shortest non-empty beginning after which `p` reads the rest.** -/
def shortest (p : List Char → Option α) : List Char → Option (List Char × α)
  | [] => none
  | c :: cs =>
    match p cs with
    | some a => some ([c], a)
    | none => (shortest p cs).map fun r => (c :: r.1, r.2)

/-- The first of some fixed beginnings that the text has, and the rest behind it. -/
def oneOf (words : List String) (s : List Char) : Option (String × List Char) :=
  words.findSome? fun w => (afterWord w s).map fun r => (w, r)

/-- The whole of a text that is not empty. -/
def nonEmpty? (s : List Char) : Option (List Char) := if s = [] then none else some s

/-! ## 1. What each part takes off -/

theorem after_eq_some_iff {lit s r : List Char} : after lit s = some r ↔ s = lit ++ r := by
  induction lit generalizing s with
  | nil => simp [after]
  | cons a as ih =>
    cases s with
    | nil => simp [after]
    | cons c cs =>
      by_cases h : a = c
      · subst h; simp [after, ih]
      · simp only [after, beq_eq_false_iff_ne.mpr h, Bool.false_eq_true, if_false, reduceCtorEq,
          List.cons_append, List.cons.injEq, false_iff]
        exact fun e => h e.1.symm

@[simp] theorem after_append (lit r : List Char) : after lit (lit ++ r) = some r :=
  after_eq_some_iff.mpr rfl

theorem run_append (p : Char → Bool) (s : List Char) : (run p s).1 ++ (run p s).2 = s :=
  List.takeWhile_append_dropWhile

theorem run?_eq_some_append {p : Char → Bool} {s ds r : List Char} (h : run? p s = some (ds, r)) :
    s = ds ++ r := by
  unfold run? at h
  split at h
  · contradiction
  · simp only [run, Option.some.injEq, Prod.mk.injEq] at h
    rw [← h.1, ← h.2, List.takeWhile_append_dropWhile]

/-- A reading splits the text: a non-empty beginning, and a rest that `p` reads. -/
theorem shortest_sound {p : List Char → Option α} {s b : List Char} {a : α}
    (h : shortest p s = some (b, a)) : b ≠ [] ∧ ∃ r, s = b ++ r ∧ p r = some a := by
  induction s generalizing b with
  | nil => simp [shortest] at h
  | cons c cs ih =>
    rw [shortest] at h
    split at h
    · rename_i a' ha
      simp only [Option.some.injEq, Prod.mk.injEq] at h
      obtain ⟨rfl, rfl⟩ := h
      exact ⟨by simp, cs, rfl, ha⟩
    · simp only [Option.map_eq_some_iff] at h
      obtain ⟨⟨b', a'⟩, hb, he⟩ := h
      simp only [Prod.mk.injEq] at he
      obtain ⟨rfl, rfl⟩ := he
      obtain ⟨_, r, rfl, hr⟩ := ih hb
      exact ⟨by simp, r, rfl, hr⟩

/-- `p` reads none of the rests that a shorter non-empty beginning would leave. -/
theorem shortest_least {p : List Char → Option α} {s b : List Char} {a : α}
    (h : shortest p s = some (b, a)) {b' r' : List Char} (hs : s = b' ++ r') (hne : b' ≠ [])
    (hlt : b'.length < b.length) : p r' = none := by
  induction s generalizing b b' with
  | nil => simp [shortest] at h
  | cons c cs ih =>
    rw [shortest] at h
    split at h
    · rename_i a' ha
      simp only [Option.some.injEq, Prod.mk.injEq] at h
      rw [← h.1] at hlt
      cases b' with
      | nil => contradiction
      | cons x xs => simp at hlt
    · rename_i hnone
      simp only [Option.map_eq_some_iff] at h
      obtain ⟨⟨b₁, a₁⟩, hb, he⟩ := h
      simp only [Prod.mk.injEq] at he
      obtain ⟨rfl, rfl⟩ := he
      cases b' with
      | nil => contradiction
      | cons x xs =>
        simp only [List.cons_append, List.cons.injEq] at hs
        cases xs with
        | nil => rw [← hnone, hs.2]; rfl
        | cons y ys =>
          have hlt' : (y :: ys).length < b₁.length := by
            simp only [List.length_cons] at hlt ⊢; omega
          exact ih hb hs.2 (by simp) hlt'

/-- A text has a reading as soon as some non-empty beginning leaves a rest that `p` reads. -/
theorem shortest_isSome {p : List Char → Option α} {b r : List Char} (hne : b ≠ [])
    (hr : (p r).isSome = true) : (shortest p (b ++ r)).isSome = true := by
  induction b with
  | nil => contradiction
  | cons c cs ih =>
    rw [List.cons_append, shortest]
    cases hp : p (cs ++ r) with
    | some a => rfl
    | none =>
      cases cs with
      | nil => rw [List.nil_append] at hp; simp [hp] at hr
      | cons d ds => simpa using ih (by simp)

end SourceCheck.Text

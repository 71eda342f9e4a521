/-!
# Sets of flags

A set of texts is kept as a list that ascends by code point, so that two sets with the same members
are equal.

* `FlagSet.insert`, `erase`, `filter`: the set operations.
* `mem_insert`, `mem_erase`: what they do to the members.
* `ext`: two sets with the same members are one.
-/

namespace SourceCheck

/-- **A set of texts.** -/
structure FlagSet where
  /-- The members, ascending by code point. -/
  toList : List String
  ascending : toList.Pairwise (· < ·)
  deriving DecidableEq, Repr

namespace FlagSet

/-- Puts a text at its place in an ascending list, unless it is there. -/
def place (s : String) : List String → List String
  | [] => [s]
  | t :: ts => if s < t then s :: t :: ts else if s = t then t :: ts else t :: place s ts

theorem mem_place {s x : String} {ts : List String} : x ∈ place s ts ↔ x = s ∨ x ∈ ts := by
  induction ts with
  | nil => simp [place]
  | cons t ts ih =>
    simp only [place]
    split
    · simp
    · split
      · rename_i h; subst h; simp
      · simp only [List.mem_cons, ih]
        constructor
        · rintro (h | h | h) <;> simp [h]
        · rintro (h | h | h) <;> simp [h]

theorem place_ascending {s : String} {ts : List String} (h : ts.Pairwise (· < ·)) :
    (place s ts).Pairwise (· < ·) := by
  induction ts with
  | nil => simp [place]
  | cons t ts ih =>
    rw [List.pairwise_cons] at h
    simp only [place]
    split
    · rename_i hst
      rw [List.pairwise_cons]
      refine ⟨fun x hx => ?_, List.pairwise_cons.mpr h⟩
      rcases List.mem_cons.mp hx with rfl | hx
      · exact hst
      · exact String.lt_trans hst (h.1 x hx)
    · split
      · exact List.pairwise_cons.mpr h
      · rename_i hst hne
        rw [List.pairwise_cons]
        refine ⟨fun x hx => ?_, ih h.2⟩
        rcases mem_place.mp hx with rfl | hx
        · exact Std.lt_of_le_of_ne (String.not_lt.mp hst) (Ne.symm hne)
        · exact h.1 x hx

/-! ## 1. Operations -/

/-- The set without members. -/
def empty : FlagSet := ⟨[], .nil⟩

/-- **Adds a member.** -/
def insert (fs : FlagSet) (s : String) : FlagSet :=
  ⟨place s fs.toList, place_ascending fs.ascending⟩

/-- The members with a property. -/
def filter (fs : FlagSet) (p : String → Bool) : FlagSet :=
  ⟨fs.toList.filter p, fs.ascending.filter p⟩

/-- **Removes a member.** -/
def erase (fs : FlagSet) (s : String) : FlagSet := fs.filter (· != s)

/-- The set of the texts in a list. -/
def ofList (l : List String) : FlagSet := l.foldl insert empty

/-! ## 2. Members -/

/-- A text is a member of the set. -/
def Member (s : String) (fs : FlagSet) : Prop := s ∈ fs.toList

instance : Membership String FlagSet := ⟨fun fs s => Member s fs⟩

instance (s : String) (fs : FlagSet) : Decidable (s ∈ fs) :=
  inferInstanceAs (Decidable (s ∈ fs.toList))

theorem mem_iff {s : String} {fs : FlagSet} : s ∈ fs ↔ s ∈ fs.toList := Iff.rfl

@[simp] theorem not_mem_empty {s : String} : ¬ s ∈ empty := by simp [mem_iff, empty]

@[simp] theorem mem_insert {x s : String} {fs : FlagSet} :
    x ∈ fs.insert s ↔ x = s ∨ x ∈ fs :=
  mem_place

@[simp] theorem mem_filter {x : String} {fs : FlagSet} {p : String → Bool} :
    x ∈ fs.filter p ↔ x ∈ fs ∧ p x = true := by simp [mem_iff, filter]

@[simp] theorem mem_erase {x s : String} {fs : FlagSet} :
    x ∈ fs.erase s ↔ x ∈ fs ∧ x ≠ s := by
  simp [erase]

theorem mem_foldl_insert {x : String} (l : List String) (fs : FlagSet) :
    x ∈ l.foldl insert fs ↔ x ∈ fs ∨ x ∈ l := by
  induction l generalizing fs with
  | nil => simp
  | cons s l ih =>
    rw [List.foldl_cons, ih, mem_insert, List.mem_cons]
    constructor
    · rintro ((h | h) | h) <;> simp [h]
    · rintro (h | h | h) <;> simp [h]

@[simp] theorem mem_ofList {x : String} {l : List String} : x ∈ ofList l ↔ x ∈ l := by
  simp [ofList, mem_foldl_insert]

/-- Ascending lists with the same members are equal. -/
theorem eq_of_ascending {l l' : List String} (h : l.Pairwise (· < ·)) (h' : l'.Pairwise (· < ·))
    (hm : ∀ s, s ∈ l ↔ s ∈ l') : l = l' := by
  induction l generalizing l' with
  | nil =>
    cases l' with
    | nil => rfl
    | cons t ts => exact absurd ((hm t).mpr (by simp)) (by simp)
  | cons s ss ih =>
    cases l' with
    | nil => exact absurd ((hm s).mp (by simp)) (by simp)
    | cons t ts =>
      rw [List.pairwise_cons] at h h'
      have hst : s = t := by
        rcases List.mem_cons.mp ((hm s).mp (by simp)) with h1 | h1
        · exact h1
        · rcases List.mem_cons.mp ((hm t).mpr (by simp)) with h2 | h2
          · exact h2.symm
          · exact absurd (String.lt_trans (h'.1 s h1) (h.1 t h2)) (String.lt_irrefl t)
      subst hst
      congr 1
      refine ih h.2 h'.2 fun x => ?_
      have hx := hm x
      simp only [List.mem_cons] at hx
      constructor
      · intro hxs
        rcases hx.mp (.inr hxs) with rfl | h3
        · exact absurd (h.1 x hxs) (String.lt_irrefl x)
        · exact h3
      · intro hxs
        rcases hx.mpr (.inr hxs) with rfl | h3
        · exact absurd (h'.1 x hxs) (String.lt_irrefl x)
        · exact h3

/-- **Two sets with the same members are one.** -/
theorem ext {fs fs' : FlagSet} (h : ∀ s, s ∈ fs ↔ s ∈ fs') : fs = fs' := by
  cases fs; cases fs'
  simp only [mk.injEq]
  exact eq_of_ascending ‹_› ‹_› h

end FlagSet

end SourceCheck

import Mathlib.Data.List.Induction
import SourceCheck.Path

/-!
# Paths that are handed on as texts

A path is written as a text when a command is given to somebody else, and read again by whoever runs
it.  What comes out is the same path if every part of it says something and none holds a slash.
Paths that were read from a text are like that, and so are those that are made of them.

* `Path.Legible`: paths that their texts give back.
* `Path.ofString_text`, `Path.eq_of_text`: they are given back.
* `Path.legible_ofString`: every path that was read from a text is one.
* `Path.isAbsolute_ofString_iff`: the texts of absolute paths.
-/

namespace SourceCheck

/-! ## 1. Fields between slashes -/

namespace Text

variable {separator : Char}

/-- Up to the first separator stands the first field. -/
theorem fields_append_cons {f : List Char} (h : separator ∉ f) (s : List Char) :
    fields separator (f ++ separator :: s) = f :: fields separator s := by
  induction f with
  | nil => rw [List.nil_append, fields, if_pos (beq_self_eq_true _)]
  | cons c f ih =>
    rw [List.mem_cons, not_or] at h
    have hc : (c == separator) = false := by simpa using Ne.symm h.1
    rw [List.cons_append, fields, hc, if_neg Bool.false_ne_true, ih h.2]

/-- No field holds the separator. -/
theorem not_mem_of_mem_fields {f s : List Char} (h : f ∈ fields separator s) : separator ∉ f := by
  induction s generalizing f with
  | nil =>
    rw [List.mem_singleton.mp h]
    exact List.not_mem_nil
  | cons c s ih =>
    rw [fields] at h
    split at h
    · rcases List.mem_cons.mp h with rfl | h
      · exact List.not_mem_nil
      · exact ih h
    · rename_i hc
      have hne : separator ≠ c := by
        rintro rfl
        exact hc (beq_self_eq_true _)
      split at h
      · rename_i g gs hfields
        rcases List.mem_cons.mp h with rfl | h
        · rw [List.mem_cons, not_or]
          exact ⟨hne, ih (hfields ▸ List.mem_cons_self)⟩
        · exact ih (hfields ▸ List.mem_cons_of_mem g h)
      · rw [List.mem_singleton.mp h, List.mem_singleton]
        exact hne

end Text

namespace Path

variable {p q : Path} {parts : List String}

/-! ## 2. Paths that their texts give back -/

/-- **A path that its text gives back**: every part says something, and none holds a slash. -/
def Legible (p : Path) : Prop := ∀ part ∈ p.parts, isPart part = true ∧ '/' ∉ part.toList

instance (p : Path) : Decidable p.Legible := inferInstanceAs (Decidable (∀ _ ∈ _, _))

theorem slashFields_cons (s : String) : slashFields ("/" ++ s) = "" :: slashFields s := by
  rw [slashFields, String.toList_append]
  rfl

theorem slashFields_withSlashes (hne : parts ≠ []) (h : ∀ part ∈ parts, '/' ∉ part.toList) :
    slashFields (withSlashes parts) = parts := by
  induction parts with
  | nil => exact absurd rfl hne
  | cons part rest ih =>
    obtain ⟨hpart, hrest⟩ := List.forall_mem_cons.mp h
    cases rest with
    | nil => rw [withSlashes, slashFields, Text.fields_of_not_mem hpart, List.map_singleton,
        String.ofList_toList]
    | cons next rest =>
      have hfields : Text.fields '/' (part ++ "/" ++ withSlashes (next :: rest)).toList =
          part.toList :: Text.fields '/' (withSlashes (next :: rest)).toList := by
        rw [String.toList_append, String.toList_append, List.append_assoc]
        exact Text.fields_append_cons hpart _
      rw [withSlashes, slashFields, hfields, List.map_cons, String.ofList_toList]
      · exact congrArg (part :: ·) (ih (List.cons_ne_nil _ _) hrest)
      · exact List.cons_ne_nil _ _

/-- Slashes between parts are no slashes in front. -/
theorem head?_withSlashes (h : ∀ part ∈ parts, isPart part = true ∧ '/' ∉ part.toList) :
    (withSlashes parts).toList.head? ≠ some '/' := by
  cases parts with
  | nil => exact nofun
  | cons part rest =>
    obtain ⟨hpart, hslash⟩ := h part List.mem_cons_self
    obtain ⟨c, cs, hcs⟩ : ∃ c cs, part.toList = c :: cs := by
      refine List.exists_cons_of_ne_nil fun hempty => ?_
      rw [String.toList_eq_nil_iff.mp hempty] at hpart
      cases hpart
    have hhead : (withSlashes (part :: rest)).toList.head? = some c := by
      cases rest with
      | nil => rw [withSlashes, hcs, List.head?_cons]
      | cons next rest =>
        rw [withSlashes, String.toList_append, String.toList_append, hcs]
        · rfl
        · exact List.cons_ne_nil _ _
    rw [hhead]
    rintro hc
    rw [hcs, Option.some.inj hc] at hslash
    exact hslash List.mem_cons_self

/-- The slashes in front of a text are its anchor. -/
theorem anchorOf_of_head? {s : List Char} (h : s.head? ≠ some '/') :
    anchorOf s = .relative ∧ anchorOf ('/' :: s) = .root ∧
      anchorOf ('/' :: '/' :: s) = .doubleRoot := by
  have hnone : s.takeWhile (· == '/') = [] := by
    cases s with
    | nil => rfl
    | cons c s =>
      have hc : (c == '/') = false := by
        rw [beq_eq_false_iff_ne]
        rintro rfl
        exact h rfl
      rw [List.takeWhile_cons, hc]
      rfl
  simp [anchorOf, hnone]

/-- **A legible path is given back** by its text. -/
theorem ofString_text (h : p.Legible) : ofString p.text = p := by
  obtain ⟨anchor, parts⟩ := p
  have hparts : parts.filter isPart = parts :=
    List.filter_eq_self.mpr fun part hpart => (h part hpart).1
  have hfields : (slashFields (withSlashes parts)).filter isPart = parts := by
    by_cases hne : parts = []
    · subst hne
      rfl
    · rw [slashFields_withSlashes hne fun part hpart => (h part hpart).2, hparts]
  obtain ⟨hrelative, hroot, hdouble⟩ := anchorOf_of_head? (head?_withSlashes h)
  cases anchor with
  | relative =>
    cases parts with
    | nil => decide
    | cons part rest => rw [text, ofString, hfields, hrelative]
  | root =>
    have hskip : (slashFields ("/" ++ withSlashes parts)).filter isPart = parts := by
      rw [slashFields_cons]
      exact hfields
    have hanchor : anchorOf ("/" ++ withSlashes parts).toList = .root := by
      rw [String.toList_append]
      exact hroot
    rw [text, ofString, hskip, hanchor]
  | doubleRoot =>
    have hskip : (slashFields ("//" ++ withSlashes parts)).filter isPart = parts := by
      have htwo : "//" ++ withSlashes parts = "/" ++ ("/" ++ withSlashes parts) := by
        rw [← String.append_assoc]
        rfl
      rw [htwo, slashFields_cons, slashFields_cons]
      exact hfields
    have hanchor : anchorOf ("//" ++ withSlashes parts).toList = .doubleRoot := by
      rw [String.toList_append]
      exact hdouble
    rw [text, ofString, hskip, hanchor]

/-- Legible paths with one text are one path. -/
theorem eq_of_text (h : p.Legible) (hq : q.Legible) (heq : p.text = q.text) : p = q := by
  rw [← ofString_text h, heq, ofString_text hq]

/-- **The text of an absolute path** starts with a slash. -/
theorem head?_text (h : p.isAbsolute = true) : p.text.toList.head? = some '/' := by
  obtain ⟨anchor, parts⟩ := p
  cases anchor with
  | relative => cases h
  | root | doubleRoot =>
    rw [text, String.toList_append]
    rfl

/-! ## 3. Where legible paths come from -/

/-- **A path that was read from a text** is legible. -/
theorem legible_ofString (s : String) : (ofString s).Legible := by
  intro part hpart
  obtain ⟨hfield, hmeaning⟩ := List.mem_filter.mp hpart
  obtain ⟨f, hf, rfl⟩ := List.mem_map.mp hfield
  rw [String.toList_ofList]
  exact ⟨hmeaning, Text.not_mem_of_mem_fields hf⟩

theorem Legible.of_subset (h : p.Legible) (hsub : q.parts ⊆ p.parts) : q.Legible :=
  fun part hpart => h part (hsub hpart)

theorem Legible.join (h : p.Legible) (hq : q.Legible) : (p.join q).Legible := by
  unfold Path.join
  split
  · exact hq
  · intro part hpart
    exact (List.mem_append.mp hpart).elim (h part) (hq part)

theorem Legible.child (h : p.Legible) (name : String) : (p.child name).Legible :=
  h.join (legible_ofString name)

theorem shrinking_concat (parts : List String) (part : String) :
    shrinking (parts ++ [part]) = (parts ++ [part]) :: shrinking parts := by
  induction parts with
  | nil => rfl
  | cons x xs ih =>
    rw [List.cons_append, shrinking, shrinking, ih]
    rfl

theorem prefix_of_mem_shrinking {xs : List String} (h : xs ∈ shrinking parts) : xs <+: parts := by
  induction parts generalizing xs with
  | nil => exact List.mem_singleton.mp h ▸ List.prefix_refl _
  | cons part parts ih =>
    rcases List.mem_append.mp h with h | h
    · obtain ⟨ys, hys, rfl⟩ := List.mem_map.mp h
      exact (List.prefix_cons_inj part).mpr (ih hys)
    · exact List.mem_singleton.mp h ▸ List.nil_prefix

/-- The beginnings behind the first are all shorter. -/
theorem length_lt_of_mem_tail {xs : List String} (h : xs ∈ (shrinking parts).tail) :
    xs.length < parts.length := by
  cases parts using List.reverseRecOn with
  | nil => cases h
  | append_singleton parts part =>
    rw [shrinking_concat, List.tail_cons] at h
    rw [List.length_append, List.length_singleton]
    exact Nat.lt_succ_of_le (prefix_of_mem_shrinking h).length_le

/-- **A directory and those above it** have no more parts than the directory. -/
theorem length_of_mem_upward (h : q ∈ p.upward) : q.parts.length ≤ p.parts.length := by
  obtain ⟨xs, hxs, rfl⟩ := List.mem_map.mp h
  exact (prefix_of_mem_shrinking hxs).length_le

/-- **The directories above a legible path** are legible, and absolute if it is. -/
theorem Legible.of_mem_upward (h : p.Legible) (hq : q ∈ p.upward) :
    q.Legible ∧ q.isAbsolute = p.isAbsolute := by
  obtain ⟨xs, hxs, rfl⟩ := List.mem_map.mp hq
  exact ⟨h.of_subset (prefix_of_mem_shrinking hxs).subset, rfl⟩

theorem anchorOf_eq_relative_iff {s : List Char} :
    anchorOf s = .relative ↔ s.head? ≠ some '/' := by
  constructor
  · intro h hhead
    obtain ⟨cs, rfl⟩ : ∃ cs, s = '/' :: cs := by
      cases s with
      | nil => cases hhead
      | cons c cs => exact ⟨cs, by rw [Option.some.inj hhead]⟩
    rw [anchorOf] at h
    split at h
    · rename_i hnone
      cases hnone
    · cases h
    · cases h
  · exact fun h => (anchorOf_of_head? h).1

/-- **The texts of absolute paths** start with a slash. -/
theorem isAbsolute_ofString_iff {s : String} :
    (ofString s).isAbsolute = true ↔ s.toList.head? = some '/' := by
  rw [isAbsolute, bne_iff_ne, ofString, ne_eq, anchorOf_eq_relative_iff]
  exact Decidable.not_not

end Path

end SourceCheck

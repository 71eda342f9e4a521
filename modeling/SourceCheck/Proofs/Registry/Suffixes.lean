import SourceCheck.Proofs.Text.Lowering
import SourceCheck.Registry

/-!
# Suffixes as they are kept

A suffix is kept in lower case, without outer white space and with a dot in front.  Bringing it to
this form once more changes nothing.

* `Kept`: the form.
* `kept_normalSuffix`, `normalSuffix_idem`: it is reached in one step.
* `EndsIn`: a name that is a suffix and something before it.
-/

namespace SourceCheck.Registry

/-! ## 1. The kept form -/

/-- **A suffix in its kept form.** -/
structure Kept (suffix : String) : Prop where
  starts : suffix.toList.head? = some '.'
  small : ∀ c ∈ suffix.toList, Text.IsSmall c
  firm : Text.EndsFirm suffix.toList

set_option maxRecDepth 2000 in
theorem isSmall_dot : Text.IsSmall '.' := by decide

theorem head?_dotted (s : List Char) : (dotted s).head? = some '.' := by
  unfold dotted
  split
  · assumption
  · rfl

theorem kept_normalSuffix (raw : String) : Kept (normalSuffix raw) := by
  have hsmall : ∀ c ∈ Text.lower (Text.trim raw.toList), Text.IsSmall c :=
    Text.isSmall_of_mem_lowerAfter
  have hfirm : Text.EndsFirm (Text.lower (Text.trim raw.toList)) :=
    Text.endsFirm_lowerAfter (Text.endsFirm_trimRight _) []
  have htoList : (normalSuffix raw).toList = dotted (Text.lower (Text.trim raw.toList)) :=
    String.toList_ofList
  refine ⟨htoList ▸ head?_dotted _, ?_, ?_⟩
  all_goals rw [htoList, dotted]; split
  · exact hsmall
  · exact List.forall_mem_cons.mpr ⟨isSmall_dot, hsmall⟩
  · exact hfirm
  · intro c hc
    rw [List.getLast?_cons, Option.some.injEq] at hc
    cases hlast : (Text.lower (Text.trim raw.toList)).getLast? with
    | none =>
      rw [hlast] at hc
      subst hc
      decide
    | some d =>
      rw [hlast] at hc
      subst hc
      exact hfirm d hlast

/-- **A kept suffix stays as it is.** -/
theorem Kept.normalSuffix_eq {suffix : String} (h : Kept suffix) :
    normalSuffix suffix = suffix := by
  have hstart : ∀ c, suffix.toList.head? = some c → Text.isBlank c = false := by
    intro c hc
    rw [h.starts, Option.some.injEq] at hc
    subst hc
    decide
  rw [normalSuffix, Text.trim_of_firm hstart h.firm, Text.lower, Text.lowerAfter_of_small h.small,
    dotted, if_pos h.starts, String.ofList_toList]

theorem normalSuffix_idem (raw : String) : normalSuffix (normalSuffix raw) = normalSuffix raw :=
  (kept_normalSuffix raw).normalSuffix_eq

/-! ## 2. The ends of names -/

/-- **A name ends in a suffix** if it is the suffix and something before it. -/
def EndsIn (name suffix : String) : Prop :=
  ∃ stem, stem ≠ [] ∧ name.toList = stem ++ suffix.toList

variable {name suffix suffix' : String}

theorem hasSuffix_iff : hasSuffix name suffix = true ↔ EndsIn name suffix := by
  rw [hasSuffix, Bool.and_eq_true, List.isSuffixOf_iff_suffix, decide_eq_true_eq,
    ← String.length_toList, ← String.length_toList]
  constructor
  · rintro ⟨⟨stem, hstem⟩, hlength⟩
    refine ⟨stem, ?_, hstem.symm⟩
    rintro rfl
    rw [← hstem] at hlength
    exact Nat.lt_irrefl _ hlength
  · rintro ⟨stem, hne, hname⟩
    have hpos := List.length_pos_iff.mpr hne
    rw [hname, List.length_append]
    exact ⟨List.suffix_append stem _, by omega⟩

/-- Suffixes of one name that are equally long are equal. -/
theorem EndsIn.eq_of_length (h : EndsIn name suffix) (h' : EndsIn name suffix')
    (hlength : suffix.length = suffix'.length) : suffix = suffix' := by
  obtain ⟨stem, -, hname⟩ := h
  obtain ⟨stem', -, hname'⟩ := h'
  rw [← String.length_toList, ← String.length_toList] at hlength
  exact String.toList_inj.mp (List.append_inj_right' (hname.symm.trans hname') hlength)

end SourceCheck.Registry

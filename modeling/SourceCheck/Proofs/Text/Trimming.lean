import Mathlib.Data.List.TakeWhile
import SourceCheck.Text.Blank

/-!
# What trimming takes off

Trimming takes off white space at both ends and leaves what is between, which starts and ends with
other characters.

* `EndsFirm`, `head?_trim`: texts that do not end, or start, with white space.
* `exists_trim`: what is taken off.
* `trimOf_between`, `trim_between`: what is left.
* `prefix_trimRight_iff`: what a text starts with that is trimmed at the end.
-/

namespace SourceCheck.Text

variable {s pre core post w : List Char}

/-- The last character is no white space. -/
def EndsFirm (s : List Char) : Prop := ∀ c, s.getLast? = some c → isBlank c = false

instance (s : List Char) : Decidable (EndsFirm s) :=
  decidable_of_iff (s.getLast?.all (!isBlank ·) = true) <| by
    rw [EndsFirm]
    cases s.getLast? <;> simp

theorem endsFirm_trimRight (s : List Char) : EndsFirm (trimRight s) := by
  intro c hc
  rw [trimRight, List.getLast?_reverse] at hc
  exact head?_dropWhile_false s.reverse c hc

theorem endsFirm_trim (s : List Char) : EndsFirm (trim s) := endsFirm_trimRight (trimLeft s)

theorem exists_trimRight (s : List Char) :
    ∃ post, s = trimRight s ++ post ∧ ∀ c ∈ post, isBlank c = true := by
  refine ⟨(s.reverse.takeWhile isBlank).reverse, ?_, fun c hc => ?_⟩
  · rw [trimRight, ← List.reverse_append, List.takeWhile_append_dropWhile, List.reverse_reverse]
  · exact List.all_eq_true.mp List.all_takeWhile c (List.mem_reverse.mp hc)

/-- What trimming takes off, and that it is white space. -/
theorem exists_trim (s : List Char) :
    ∃ pre post, s = pre ++ (trim s ++ post) ∧
      (∀ c ∈ pre, isBlank c = true) ∧ ∀ c ∈ post, isBlank c = true := by
  obtain ⟨post, hright, hpost⟩ := exists_trimRight (trimLeft s)
  refine ⟨s.takeWhile isBlank, post, ?_, List.all_eq_true.mp List.all_takeWhile, hpost⟩
  rw [trim, ← hright, trimLeft, List.takeWhile_append_dropWhile]

/-- The first character of a trimmed text is no white space. -/
theorem head?_trim (s : List Char) : ∀ c, (trim s).head? = some c → isBlank c = false := by
  intro c hc
  obtain ⟨post, hright, -⟩ := exists_trimRight (trimLeft s)
  refine head?_dropWhile_false s c ?_
  obtain ⟨cs, hcs⟩ := List.head?_eq_some_iff.mp hc
  have hleft : trimLeft s = c :: (cs ++ post) := hright.trans (by rw [← trim, hcs]; rfl)
  exact congrArg List.head? hleft

theorem head?_of_trimmed (h : trim s = s) : ∀ c, s.head? = some c → isBlank c = false := by
  rw [← h]
  exact head?_trim s

theorem exists_cons_of_trimmed (hne : s ≠ []) (h : trim s = s) :
    ∃ c cs, s = c :: cs ∧ isBlank c = false := by
  obtain ⟨c, cs, rfl⟩ := List.exists_cons_of_ne_nil hne
  exact ⟨c, cs, rfl, head?_of_trimmed h c rfl⟩

/-- **What stands between characters of a class is left** when these are trimmed. -/
theorem trimOf_between {p : Char → Bool} (hpre : ∀ c ∈ pre, p c = true)
    (hstart : ∀ c, core.head? = some c → p c = false)
    (hend : ∀ c, core.getLast? = some c → p c = false) (hpost : ∀ c ∈ post, p c = true) :
    trimOf p (pre ++ (core ++ post)) = core := by
  cases core with
  | nil =>
    have hall : ∀ c ∈ pre ++ ([] ++ post), p c = true := List.forall_mem_append.mpr ⟨hpre, hpost⟩
    rw [trimOf, List.dropWhile_eq_nil_iff.mpr hall]
    rfl
  | cons d ds =>
    have hleft : (pre ++ (d :: ds ++ post)).dropWhile p = d :: ds ++ post := by
      rw [List.dropWhile_append_of_pos hpre, List.cons_append,
        List.dropWhile_cons_of_neg (by simp [hstart d rfl])]
    have hright : (d :: ds).reverse.dropWhile p = (d :: ds).reverse := by
      refine dropWhile_eq_self fun c hc => hend c ?_
      rw [List.head?_reverse] at hc
      exact hc
    rw [trimOf, hleft, List.reverse_append,
      List.dropWhile_append_of_pos fun c hc => hpost c (List.mem_reverse.mp hc), hright,
      List.reverse_reverse]

/-- **Trimming leaves what stands between white space.** -/
theorem trim_between (hpre : ∀ c ∈ pre, isBlank c = true)
    (hstart : ∀ c, core.head? = some c → isBlank c = false) (hend : EndsFirm core)
    (hpost : ∀ c ∈ post, isBlank c = true) : trim (pre ++ (core ++ post)) = core :=
  trimOf_between hpre hstart hend hpost

/-- A text without white space at either end is trimmed already. -/
theorem trim_of_firm (hstart : ∀ c, s.head? = some c → isBlank c = false) (hend : EndsFirm s) :
    trim s = s := by
  have hbetween : trim ([] ++ (s ++ [])) = s := trim_between nofun hstart hend nofun
  rwa [List.append_nil, List.nil_append] at hbetween

/-- There is nothing to trim in a text without white space. -/
theorem trim_of_no_blank (h : ∀ c ∈ s, isBlank c = false) : trim s = s :=
  trim_of_firm (fun c hc => h c (List.mem_of_mem_head? hc)) fun c hc => h c (List.mem_of_getLast? hc)

/-- White space around a text makes no difference. -/
theorem trim_padded (hpre : ∀ c ∈ pre, isBlank c = true) (hpost : ∀ c ∈ post, isBlank c = true)
    (s : List Char) : trim (pre ++ (s ++ post)) = trim s := by
  obtain ⟨before, after, hs, hbefore, hafter⟩ := exists_trim s
  calc
    trim (pre ++ (s ++ post)) = trim (pre ++ (before ++ (trim s ++ after) ++ post)) := by rw [← hs]
    _ = trim ((pre ++ before) ++ (trim s ++ (after ++ post))) := by simp only [List.append_assoc]
    _ = trim s := trim_between (List.forall_mem_append.mpr ⟨hpre, hbefore⟩) (head?_trim s)
      (endsFirm_trim s) (List.forall_mem_append.mpr ⟨hafter, hpost⟩)

/-- Trimming at the end does not reach into a text that ends with something else. -/
theorem trimRight_append_of_firm (hw : EndsFirm w) (s : List Char) :
    trimRight (w ++ s) = w ++ trimRight s := by
  have hkeep : w.reverse.dropWhile isBlank = w.reverse := by
    refine dropWhile_eq_self fun c hc => hw c ?_
    rwa [List.head?_reverse] at hc
  rw [trimRight, List.reverse_append, List.dropWhile_append, trimRight]
  split
  · rename_i hall
    rw [hkeep, List.reverse_reverse, List.isEmpty_iff.mp hall, List.reverse_nil, List.append_nil]
  · rw [List.reverse_append, List.reverse_reverse]

theorem begins_trimRight (s : List Char) : trimRight s <+: s := by
  obtain ⟨post, hs, -⟩ := exists_trimRight s
  exact ⟨post, hs.symm⟩

/-- **What a text starts with it still starts with when it is trimmed at the end**, if that does not
end with white space itself. -/
theorem prefix_trimRight_iff (hw : EndsFirm w) : w <+: trimRight s ↔ w <+: s := by
  constructor
  · exact fun h => h.trans (begins_trimRight s)
  · rintro ⟨r, rfl⟩
    exact ⟨trimRight r, (trimRight_append_of_firm hw r).symm⟩

end SourceCheck.Text

import Mathlib.Data.List.Basic
import Mathlib.Data.List.TakeWhile
import SourceCheck.Proofs.Text.Trimming
import SourceCheck.Text.Lines

/-!
# Lines that are put together and taken apart

A text is cut where a line breaks, so texts without a break that are written one below the other
come back as they were.  Only an empty text at the end leaves no trace when line feeds stand between
the texts and not behind each.

* `Unbroken`: texts on one line.
* `lines_flatMap`, `lines_feedLines`: texts with a line feed behind each come back.
* `filterMap_outputLines`: texts with line feeds between them, read line by line.
* `outputLines_of_lines`: every list of lines that a reader can see is the output of a tool.
-/

namespace SourceCheck.Text

variable {α : Type} {s l a b : List Char} {ls : List (List Char)} {streams : List String}

/-! ## 1. Texts on one line -/

/-- **A text on one line.** -/
def Unbroken (s : List Char) : Prop := ∀ c ∈ s, isLineBreak c = false

instance (s : List Char) : Decidable (Unbroken s) :=
  List.decidableBAll (fun c => isLineBreak c = false) s

theorem unbroken_append_iff : Unbroken (a ++ b) ↔ Unbroken a ∧ Unbroken b :=
  List.forall_mem_append

theorem unbroken_cons_iff {c : Char} : Unbroken (c :: s) ↔ isLineBreak c = false ∧ Unbroken s :=
  List.forall_mem_cons

theorem Unbroken.trimRight (h : Unbroken s) : Unbroken (trimRight s) := by
  obtain ⟨post, hs, -⟩ := exists_trimRight s
  rw [hs] at h
  exact (unbroken_append_iff.mp h).1

theorem trimRight_of_firm (h : EndsFirm s) : Text.trimRight s = s := by
  rw [Text.trimRight, dropWhile_eq_self, List.reverse_reverse]
  intro c hc
  rw [List.head?_reverse] at hc
  exact h c hc

/-- A text that ends with a trimmed one. -/
theorem endsFirm_append (hne : b ≠ []) (hb : trim b = b) : EndsFirm (a ++ b) := by
  intro c hc
  rw [List.getLast?_append_of_ne_nil _ hne] at hc
  refine endsFirm_trim b c ?_
  rwa [hb]

/-- A text that ends with one character some times over. -/
theorem endsFirm_replicate {c : Char} (hc : isBlank c = false) (n : Nat) (a : List Char) :
    EndsFirm (a ++ List.replicate (n + 1) c) := by
  intro d hd
  rw [List.getLast?_append_of_ne_nil _ (by simp)] at hd
  rw [List.eq_of_mem_replicate (List.mem_of_getLast? hd)]
  exact hc

/-- Trimming at the end stays within the last part of a text if that is not all white space. -/
theorem trimRight_append (h : Text.trimRight b ≠ []) (a : List Char) :
    Text.trimRight (a ++ b) = a ++ Text.trimRight b := by
  obtain ⟨post, hb, hpost⟩ := exists_trimRight b
  have hfirm : EndsFirm (a ++ Text.trimRight b) := by
    intro c hc
    rw [List.getLast?_append_of_ne_nil _ h] at hc
    exact endsFirm_trimRight b c hc
  have hblank : post.reverse.dropWhile isBlank = [] :=
    List.dropWhile_eq_nil_iff.mpr fun c hc => hpost c (List.mem_reverse.mp hc)
  calc Text.trimRight (a ++ b) = Text.trimRight ((a ++ Text.trimRight b) ++ post) := by
        rw [List.append_assoc, ← hb]
    _ = (a ++ Text.trimRight b) ++ Text.trimRight post := trimRight_append_of_firm hfirm post
    _ = a ++ Text.trimRight b := by
        rw [Text.trimRight.eq_1 post, hblank, List.reverse_nil, List.append_nil]

theorem trim_trim (s : List Char) : trim (trim s) = trim s :=
  trim_of_firm (head?_trim s) (endsFirm_trim s)

/-! ## 2. Lines of one text -/

theorem mem_consFirst {c : Char} (h : l ∈ consFirst c ls) :
    (∃ l', l = c :: l' ∧ (l' = [] ∨ l' ∈ ls)) ∨ l ∈ ls := by
  cases ls with
  | nil =>
    rw [consFirst, List.mem_singleton] at h
    exact .inl ⟨[], h, .inl rfl⟩
  | cons first rest =>
    rw [consFirst, List.mem_cons] at h
    rcases h with h | h
    · exact .inl ⟨first, h, .inr List.mem_cons_self⟩
    · exact .inr (List.mem_cons_of_mem _ h)

/-- Lines have no breaks of their own. -/
theorem unbroken_of_mem_lines (h : l ∈ lines s) : Unbroken l := by
  fun_induction lines s generalizing l with
  | case1 => cases h
  | case2 cs ih =>
    rcases List.mem_cons.mp h with rfl | h
    · nofun
    · exact ih h
  | case3 c cs _ hbreak ih =>
    rcases List.mem_cons.mp h with rfl | h
    · nofun
    · exact ih h
  | case4 c cs _ hbreak ih =>
    have hc : isLineBreak c = false := Bool.eq_false_iff.mpr hbreak
    rcases mem_consFirst h with ⟨l', rfl, rfl | hl'⟩ | h
    · exact unbroken_cons_iff.mpr ⟨hc, nofun⟩
    · exact unbroken_cons_iff.mpr ⟨hc, ih hl'⟩
    · exact ih h

/-- **A text above a line feed is the first line.** -/
theorem lines_append_feed (h : Unbroken l) (s : List Char) :
    lines (l ++ '\n' :: s) = l :: lines s := by
  induction l with
  | nil => rfl
  | cons c l ih =>
    obtain ⟨hc, hl⟩ := unbroken_cons_iff.mp h
    rw [List.cons_append, lines_cons_of_not_break hc, ih hl]
    rfl

/-- Texts with a line feed behind each. -/
theorem lines_flatMap (h : ∀ l ∈ ls, Unbroken l) :
    lines (ls.flatMap (· ++ ['\n'])) = ls := by
  induction ls with
  | nil => rfl
  | cons l ls ih =>
    obtain ⟨hl, hls⟩ := List.forall_mem_cons.mp h
    rw [List.flatMap_cons, List.append_assoc, List.singleton_append, lines_append_feed hl, ih hls]

/-- **A text of some lines**, with a line feed behind each. -/
def feedLines (ls : List (List Char)) : String := String.ofList (ls.flatMap (· ++ ['\n']))

theorem lines_feedLines (h : ∀ l ∈ ls, Unbroken l) : lines (feedLines ls).toList = ls := by
  rw [feedLines, String.toList_ofList, lines_flatMap h]

/-- Texts with line feeds between them.  A last text that is empty is no line, so nothing may be
read from it. -/
theorem filterMap_lines_intercalate {f : List Char → Option α} (hf : f [] = none)
    (h : ∀ l ∈ ls, Unbroken l) :
    (lines (['\n'].intercalate ls)).filterMap f = ls.filterMap f := by
  induction ls with
  | nil => rfl
  | cons l ls ih =>
    obtain ⟨hl, hls⟩ := List.forall_mem_cons.mp h
    cases ls with
    | nil =>
      rw [List.intercalate_singleton]
      by_cases hnil : l = []
      · rw [hnil, lines_nil, List.filterMap_cons_none hf]
      · rw [lines_of_no_break hnil hl]
    | cons l' ls =>
      rw [List.intercalate_cons_cons, List.append_assoc, List.singleton_append,
        lines_append_feed hl, List.filterMap_cons, List.filterMap_cons, ih hls]

/-! ## 3. Lines of a tool's output -/

/-- The lines of output are cut and trimmed. -/
theorem of_mem_outputLines (h : l ∈ outputLines streams) : Unbroken l ∧ EndsFirm l := by
  obtain ⟨s, -, hl⟩ := List.mem_flatMap.mp h
  obtain ⟨line, hline, rfl⟩ := List.mem_map.mp hl
  exact ⟨(unbroken_of_mem_lines hline).trimRight, endsFirm_trimRight line⟩

/-- **Lines that are cut and trimmed are the output of a tool.** -/
theorem outputLines_of_lines (h : ∀ l ∈ ls, Unbroken l ∧ EndsFirm l) :
    outputLines [feedLines ls, ""] = ls := by
  have htrim : ls.map Text.trimRight = ls :=
    (List.map_congr_left fun l hl => trimRight_of_firm (h l hl).2).trans (List.map_id' ls)
  rw [outputLines, List.flatMap_cons, lines_feedLines fun l hl => (h l hl).1, htrim]
  exact List.append_nil ls

/-- Trimming at the end is part of trimming. -/
theorem trim_trimRight (s : List Char) : trim (Text.trimRight s) = trim s := by
  obtain ⟨post, hs, hpost⟩ := exists_trimRight s
  have hpadded := trim_padded (List.forall_mem_nil _) hpost (Text.trimRight s)
  rw [List.nil_append, ← hs] at hpadded
  exact hpadded.symm

/-- Texts that are joined by hand, with a character between them. -/
theorem eq_intercalate {join : List (List Char) → List Char} {c : Char} (hnil : join [] = [])
    (hone : ∀ l, join [l] = l) (hmore : ∀ l l' ls, join (l :: l' :: ls) = l ++ c :: join (l' :: ls))
    (ls : List (List Char)) : join ls = [c].intercalate ls := by
  induction ls with
  | nil => exact hnil
  | cons l ls ih =>
    cases ls with
    | nil => rw [hone, List.intercalate_singleton]
    | cons l' ls =>
      rw [hmore, ih, List.intercalate_cons_cons, List.append_assoc, List.singleton_append]

/-- A reader that trims the lines of output can take them as they stand in the streams. -/
theorem filterMap_trim_outputLines (f : List Char → Option α) (streams : List String) :
    (outputLines streams).filterMap (fun l => f (trim l)) =
      (streams.flatMap fun s => lines s.toList).filterMap fun l => f (trim l) := by
  rw [outputLines, ← List.map_flatMap, List.filterMap_map]
  refine List.filterMap_congr fun l _ => ?_
  rw [Function.comp_apply, trim_trimRight]

/-- **Texts with line feeds between them, read line by line**, stream after stream. -/
theorem filterMap_outputLines {f : List Char → Option α} (hf : f [] = none)
    {texts : List (List (List Char))} (h : ∀ ls ∈ texts, ∀ l ∈ ls, Unbroken l) :
    (outputLines (texts.map fun ls => String.ofList (['\n'].intercalate ls))).filterMap
        (fun l => f (trim l)) =
      texts.flatten.filterMap fun l => f (trim l) := by
  rw [filterMap_trim_outputLines]
  induction texts with
  | nil => rfl
  | cons ls texts ih =>
    obtain ⟨hls, htexts⟩ := List.forall_mem_cons.mp h
    rw [List.map_cons, List.flatMap_cons, List.filterMap_append, ih htexts, List.flatten_cons,
      List.filterMap_append, String.toList_ofList,
      filterMap_lines_intercalate (f := fun l => f (trim l)) hf hls]

end SourceCheck.Text

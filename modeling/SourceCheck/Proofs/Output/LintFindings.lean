import Mathlib.Data.List.Forall2
import Mathlib.Data.List.Nodup
import SourceCheck.Output.Php
import SourceCheck.Proofs.Output.Returning
import SourceCheck.Proofs.Output.Written

/-!
# Lint findings that are reported twice

PHP writes a finding to one stream, to the other or to both, and with or without `PHP ` in front;
how it is set up decides.  The reader takes the findings of both streams and keeps, of those with
the same line and message, the first one.  So what it gives depends neither on the streams that the
findings are on nor on the mark in front of them, but for the order.

* `Php.key`: what two reports of one finding have in common.
* `Php.foldl_keep`: what is kept of some findings, and that nothing is kept twice.
* `Php.reports`: the findings of some streams, as often as they are reported.
* `Php.SameButMark`: lines with and without the mark.
* `Output.php_distinct`: the findings of both streams.
-/

namespace SourceCheck

open Text

namespace Php

variable {a b d : Diagnostic} {ds kept : List Diagnostic} {k : Position × String}

/-! ## 1. What is kept -/

/-- **What tells findings apart**: the line and the message. -/
def key (d : Diagnostic) : Position × String := (d.line, d.message)

theorem sameFinding_iff : sameFinding a b = true ↔ key a = key b := by
  simp [sameFinding, key]

/-- A finding is put behind those that are kept, if it is none of them. -/
def keep (kept : List Diagnostic) (d : Diagnostic) : List Diagnostic :=
  if kept.any (sameFinding · d) then kept else kept ++ [d]

theorem distinct_eq_foldl (ds : List Diagnostic) : distinct ds = ds.foldl keep [] := rfl

theorem any_sameFinding_iff : kept.any (sameFinding · d) = true ↔ key d ∈ kept.map key := by
  simp [sameFinding_iff]

theorem keep_of_mem (h : key d ∈ kept.map key) : keep kept d = kept :=
  if_pos (any_sameFinding_iff.mpr h)

theorem keep_of_not_mem (h : key d ∉ kept.map key) : keep kept d = kept ++ [d] :=
  if_neg fun hany => h (any_sameFinding_iff.mp hany)

/-- Findings that are all kept already add nothing. -/
theorem foldl_keep_of_known (h : ∀ d ∈ ds, key d ∈ kept.map key) : ds.foldl keep kept = kept := by
  induction ds with
  | nil => rfl
  | cons d ds ih =>
    obtain ⟨hd, hds⟩ := List.forall_mem_cons.mp h
    rw [List.foldl_cons, keep_of_mem hd, ih hds]

/-- Each line and message that is met is kept. -/
theorem mem_foldl_keep : k ∈ (ds.foldl keep kept).map key ↔ k ∈ kept.map key ∨ k ∈ ds.map key := by
  induction ds generalizing kept with
  | nil => simp
  | cons d ds ih =>
    rw [List.foldl_cons, ih, List.map_cons, List.mem_cons]
    by_cases hd : key d ∈ kept.map key
    · rw [keep_of_mem hd]
      constructor
      · rintro (hk | hk)
        · exact .inl hk
        · exact .inr (.inr hk)
      · rintro (hk | rfl | hk)
        · exact .inl hk
        · exact .inl hd
        · exact .inr hk
    · rw [keep_of_not_mem hd, List.map_append, List.mem_append, List.map_singleton,
        List.mem_singleton, or_assoc]

/-- No line and message is kept twice. -/
theorem nodup_foldl_keep (h : (kept.map key).Nodup) : ((ds.foldl keep kept).map key).Nodup := by
  induction ds generalizing kept with
  | nil => exact h
  | cons d ds ih =>
    rw [List.foldl_cons]
    by_cases hd : key d ∈ kept.map key
    · rw [keep_of_mem hd]
      exact ih h
    · rw [keep_of_not_mem hd]
      refine ih ?_
      rw [List.map_append, List.map_singleton, List.nodup_append_comm]
      exact List.nodup_cons.mpr ⟨hd, h⟩

/-- What is kept is among the findings, and in their order. -/
theorem foldl_keep_sublist (ds kept : List Diagnostic) :
    (ds.foldl keep kept).Sublist (kept ++ ds) := by
  induction ds generalizing kept with
  | nil => simp
  | cons d ds ih =>
    rw [List.foldl_cons]
    refine (ih (keep kept d)).trans ?_
    by_cases hd : key d ∈ kept.map key
    · rw [keep_of_mem hd]
      exact (List.sublist_cons_self d ds).append_left kept
    · rw [keep_of_not_mem hd, List.append_assoc, List.singleton_append]

/-- Findings that are all different are all kept. -/
theorem foldl_keep_of_nodup (h : ((kept ++ ds).map key).Nodup) :
    ds.foldl keep kept = kept ++ ds := by
  induction ds generalizing kept with
  | nil => simp
  | cons d ds ih =>
    have hd : key d ∉ kept.map key := by
      intro hmem
      rw [List.map_append, List.nodup_append] at h
      exact h.2.2 _ hmem _ List.mem_cons_self rfl
    rw [← List.singleton_append, ← List.append_assoc] at h
    rw [List.foldl_cons, keep_of_not_mem hd, ih h, List.append_assoc, List.singleton_append]

/-- **What is kept behind some findings**: the first ones of those that are none of them. -/
theorem foldl_keep (ds kept : List Diagnostic) :
    ds.foldl keep kept =
      kept ++ (ds.filter fun d => !kept.any (sameFinding · d)).eraseDupsBy sameFinding := by
  induction ds generalizing kept with
  | nil => simp
  | cons d ds ih =>
    rw [List.foldl_cons, ih]
    by_cases hd : kept.any (sameFinding · d) = true
    · rw [keep_of_mem (any_sameFinding_iff.mp hd), List.filter_cons_of_neg (by simp [hd])]
    · rw [keep_of_not_mem fun hmem => hd (any_sameFinding_iff.mpr hmem),
        List.filter_cons_of_pos (by simp [hd]), List.eraseDupsBy_cons, List.filter_filter,
        List.append_assoc, List.singleton_append]
      -- What is none of the kept and `d` is no `d`, and none of the kept.
      have hfilter : (fun e => !(kept ++ [d]).any (sameFinding · e)) =
          fun e => decide (sameFinding e d = false) && !kept.any (sameFinding · e) := by
        funext e
        have hcomm : sameFinding d e = sameFinding e d := by
          rw [Bool.eq_iff_iff, sameFinding_iff, sameFinding_iff, eq_comm]
        rw [List.any_append, List.any_cons, List.any_nil, Bool.or_false, hcomm, Bool.not_or,
          Bool.and_comm]
        cases sameFinding e d <;> rfl
      rw [hfilter]

/-- **The first finding of each line and message is kept.** -/
theorem distinct_eq (ds : List Diagnostic) : distinct ds = ds.eraseDupsBy sameFinding := by
  rw [distinct_eq_foldl, foldl_keep]
  simp

theorem nodup_distinct (ds : List Diagnostic) : ((distinct ds).map key).Nodup :=
  nodup_foldl_keep List.nodup_nil

theorem mem_distinct : k ∈ (distinct ds).map key ↔ k ∈ ds.map key := by
  rw [distinct_eq_foldl, mem_foldl_keep]
  simp

theorem distinct_sublist (ds : List Diagnostic) : (distinct ds).Sublist ds :=
  foldl_keep_sublist ds []

theorem distinct_of_nodup (h : (ds.map key).Nodup) : distinct ds = ds :=
  foldl_keep_of_nodup h

/-- Findings that are reported once more are not kept again. -/
theorem distinct_append_self (ds : List Diagnostic) : distinct (ds ++ ds) = distinct ds := by
  rw [distinct_eq_foldl, List.foldl_append]
  refine foldl_keep_of_known fun d hd => ?_
  exact mem_distinct.mpr (List.mem_map_of_mem hd)

/-! ## 2. What is reported -/

/-- **The findings of some streams**, as often as they are reported. -/
def reports (streams : List String) : Except Fault (List Diagnostic) :=
  ((outputLines streams).filterMap fun l => ofLine? (trim l)).mapM diagnostic

theorem php_eq (streams : List String) : Output.php streams = (reports streams).map distinct := by
  rw [Output.php, reports]
  cases ((outputLines streams).filterMap fun l => ofLine? (trim l)).mapM diagnostic <;> rfl

theorem php_eq_ok_iff {streams : List String} :
    Output.php streams = .ok ds ↔ ∃ all, reports streams = .ok all ∧ ds = distinct all := by
  rw [php_eq]
  cases reports streams with
  | error fault => simp [Except.map]
  | ok all => simp [Except.map, eq_comm]

theorem reports_append (xs ys : List String) :
    reports (xs ++ ys) = do
      let ds ← reports xs
      let es ← reports ys
      return ds ++ es := by
  rw [reports, outputLines_append, List.filterMap_append, List.mapM_append]
  rfl

theorem reports_append_eq_ok {xs ys : List String} {ds es : List Diagnostic}
    (hx : reports xs = .ok ds) (hy : reports ys = .ok es) :
    reports (xs ++ ys) = .ok (ds ++ es) := by
  rw [reports_append, hx, hy]
  rfl

/-- What some streams report between them is what each of them reports. -/
theorem exists_of_reports_append {xs ys : List String} (h : reports (xs ++ ys) = .ok ds) :
    ∃ fst snd, reports xs = .ok fst ∧ reports ys = .ok snd ∧ ds = fst ++ snd := by
  rw [reports_append] at h
  cases hx : reports xs with
  | error fault =>
    rw [hx] at h
    cases h
  | ok fst =>
    cases hy : reports ys with
    | error fault =>
      rw [hx, hy] at h
      cases h
    | ok snd =>
      rw [hx, hy] at h
      exact ⟨fst, snd, rfl, rfl, (Except.ok.inj h).symm⟩

/-- An empty stream reports nothing. -/
theorem reports_empty : reports [""] = .ok [] := rfl

/-- Reporting all on one stream or on both comes to the same. -/
theorem php_twice (s : String) : Output.php [s, s] = Output.php ["", s] := by
  have hboth := reports_append [s] [s]
  have hsecond := reports_append [""] [s]
  rw [reports_empty] at hsecond
  rw [List.singleton_append] at hboth hsecond
  rw [php_eq, php_eq, hboth, hsecond]
  cases reports [s] with
  | error fault => rfl
  | ok ds => exact congrArg Except.ok (distinct_append_self ds)

theorem php_swapped_empty (s : String) : Output.php [s, ""] = Output.php ["", s] := by
  have hfirst := reports_append [s] [""]
  have hsecond := reports_append [""] [s]
  rw [reports_empty] at hfirst hsecond
  rw [List.singleton_append] at hfirst hsecond
  rw [php_eq, php_eq, hfirst, hsecond]
  cases reports [s] with
  | error fault => rfl
  | ok ds => exact congrArg (fun es => Except.ok (distinct es)) (List.append_nil ds)

/-! ## 3. The mark -/

variable {s r l l' : List Char}

/-- A lint line starts with one of the words for a severity, behind the mark if it has one. -/
theorem exists_word (h : (ofLine? s).isSome) :
    ∃ w ∈ severities, w.toList <+: (afterWord "PHP " s).getD s := by
  obtain ⟨l, hl⟩ := Option.isSome_iff_exists.mp h
  rw [ofLine?] at hl
  obtain ⟨⟨w, rest⟩, hw, -⟩ := Option.bind_eq_some_iff.mp hl
  obtain ⟨hmem, heq⟩ := of_oneOf hw
  exact ⟨w, hmem, rest, heq.symm⟩

/-- The words are no marks, and there is no white space in front of them. -/
theorem words_plain :
    ∀ w ∈ severities, 4 ≤ w.toList.length ∧ ¬ "PHP ".toList <+: w.toList ∧
      w.toList.head?.map isBlank = some false := by
  decide

theorem unmarked_of_word {w : String} (hw : w ∈ severities) (h : w.toList <+: s) :
    ¬ "PHP ".toList <+: s := by
  intro hmark
  obtain ⟨hlength, hunmarked, -⟩ := words_plain w hw
  exact hunmarked (List.prefix_of_prefix_length_le hmark h hlength)

theorem head?_of_word {w : String} (hw : w ∈ severities) (h : w.toList <+: s) :
    ∀ c, s.head? = some c → isBlank c = false := by
  intro c hc
  obtain ⟨-, -, hstart⟩ := words_plain w hw
  obtain ⟨d, hd, hfirm⟩ := Option.map_eq_some_iff.mp hstart
  obtain ⟨rest, rfl⟩ := h
  rw [List.head?_append, hd, Option.some_or] at hc
  exact Option.some.inj hc ▸ hfirm

theorem afterWord_eq_none_of_unmarked (h : ¬ "PHP ".toList <+: s) : afterWord "PHP " s = none :=
  Option.not_isSome_iff_eq_none.mp fun hsome => h (isSome_afterWord_iff.mp hsome)

/-- **The mark does not matter.** -/
theorem ofLine?_marked (h : ¬ "PHP ".toList <+: s) :
    ofLine? ("PHP ".toList ++ s) = ofLine? s := by
  rw [ofLine?, ofLine?, afterWord_append, afterWord_eq_none_of_unmarked h]
  rfl

/-- Behind the mark of a lint line stands one of the words. -/
theorem exists_word_behind_mark (h : (ofLine? (trimRight ("PHP ".toList ++ r))).isSome) :
    ∃ w ∈ severities, w.toList <+: trimRight r := by
  by_cases hnil : trimRight r = []
  · -- The space of the mark is trimmed too, and what is left is no lint line.
    have hblank : trimRight (' ' :: r) = [] := by
      obtain ⟨post, hr, hpost⟩ := exists_trimRight r
      rw [hnil, List.nil_append] at hr
      rw [trimRight, List.reverse_eq_nil_iff, List.dropWhile_eq_nil_iff]
      intro c hc
      rcases List.mem_cons.mp (List.mem_reverse.mp hc) with rfl | hc
      · decide
      · exact hpost c (hr ▸ hc)
    have hbare : trimRight ("PHP ".toList ++ r) = "PHP".toList := by
      have hfirm := trimRight_append_of_firm (w := "PHP".toList) (by decide) (' ' :: r)
      rw [hblank] at hfirm
      exact hfirm
    rw [hbare] at h
    exact absurd h (by decide)
  · rw [trimRight_append hnil] at h
    obtain ⟨w, hw, hstart⟩ := exists_word h
    rw [afterWord_append] at hstart
    exact ⟨w, hw, hstart⟩

/-- The mark does not matter behind white space either. -/
theorem ofLine?_trim_marked {blanks : List Char} {w : String}
    (hblanks : ∀ c ∈ blanks, isBlank c = true) (hw : w ∈ severities)
    (h : w.toList <+: trimRight r) :
    ofLine? (trim (blanks ++ ("PHP ".toList ++ r))) = ofLine? (trim (blanks ++ r)) := by
  have hne : trimRight r ≠ [] := by
    intro hnil
    obtain ⟨hlength, -⟩ := words_plain w hw
    have hle := h.length_le
    rw [hnil, List.length_nil] at hle
    omega
  have hmarked : trim (blanks ++ ("PHP ".toList ++ r)) = "PHP ".toList ++ trimRight r := by
    rw [trim, trimLeft, List.dropWhile_append_of_pos hblanks, dropWhile_eq_self,
      trimRight_append hne]
    intro c hc
    exact Option.some.inj hc ▸ by decide
  have hunmarked : trim (blanks ++ r) = trimRight r := by
    rw [trim, trimLeft, List.dropWhile_append_of_pos hblanks, dropWhile_eq_self]
    exact head?_of_word hw (h.trans (begins_trimRight r))
  rw [hmarked, hunmarked]
  exact ofLine?_marked (unmarked_of_word hw h)

/-- **Lines that differ in the mark and in nothing else.**  It is taken from a lint line that has
it, or put in front of one that does not; in both, white space in front of the line stays where it
is. -/
inductive SameButMark : List Char → List Char → Prop
  | same (l : List Char) : SameButMark l l
  | removed {blanks r : List Char} (hblanks : ∀ c ∈ blanks, isBlank c = true)
      (hlint : (ofLine? (trimRight ("PHP ".toList ++ r))).isSome) :
      SameButMark (blanks ++ ("PHP ".toList ++ r)) (blanks ++ r)
  | added {blanks r : List Char} (hblanks : ∀ c ∈ blanks, isBlank c = true)
      (hlint : (ofLine? (trimRight r)).isSome) (hunmarked : ¬ "PHP ".toList <+: r) :
      SameButMark (blanks ++ r) (blanks ++ ("PHP ".toList ++ r))

/-- Such lines are read alike. -/
theorem SameButMark.ofLine?_eq (h : SameButMark l l') :
    ofLine? (trim l') = ofLine? (trim l) := by
  cases h with
  | same => rfl
  | removed hblanks hlint =>
    obtain ⟨w, hw, hstart⟩ := exists_word_behind_mark hlint
    exact (ofLine?_trim_marked hblanks hw hstart).symm
  | @added blanks r hblanks hlint hunmarked =>
    obtain ⟨w, hw, hstart⟩ := exists_word hlint
    have hnone : afterWord "PHP " (trimRight r) = none :=
      afterWord_eq_none_of_unmarked fun hmark => hunmarked (hmark.trans (begins_trimRight r))
    rw [hnone, Option.getD_none] at hstart
    exact ofLine?_trim_marked hblanks hw hstart

/-- Lines that differ in the mark only report the same. -/
theorem filterMap_ofLine?_eq {ls ls' : List (List Char)} (h : List.Forall₂ SameButMark ls ls') :
    (ls'.filterMap fun l => ofLine? (trim l)) = ls.filterMap fun l => ofLine? (trim l) := by
  induction h with
  | nil => rfl
  | cons hl _ ih => rw [List.filterMap_cons, List.filterMap_cons, hl.ofLine?_eq, ih]

end Php

namespace Output

open Php

/-- **The findings of both streams are those of the second and then those of the first, without the
ones that repeat an earlier one.**  No two of them have the same line and message.  It does not
matter whether a finding is on the one stream, on the other or on both, nor, but for the order, on
which one; and it does not matter which lint lines have a mark. -/
theorem php_distinct (stdout stderr : String) :
    (∀ ds, php [stderr, stdout] = .ok ds →
      (ds.map key).Nodup ∧
      (∃ fromStderr fromStdout, reports [stderr] = .ok fromStderr ∧
        reports [stdout] = .ok fromStdout ∧
        ds = (fromStderr ++ fromStdout).eraseDupsBy sameFinding) ∧
      ∃ swapped, php [stdout, stderr] = .ok swapped ∧
        ∀ k, k ∈ swapped.map key ↔ k ∈ ds.map key) ∧
    (php [stdout, stdout] = php ["", stdout] ∧ php [stdout, ""] = php ["", stdout]) ∧
    ∀ stdout' stderr' : String,
      List.Forall₂ SameButMark (lines stdout.toList) (lines stdout'.toList) →
      List.Forall₂ SameButMark (lines stderr.toList) (lines stderr'.toList) →
      php [stderr', stdout'] = php [stderr, stdout] := by
  refine ⟨fun ds hds => ?_, ⟨php_twice stdout, php_swapped_empty stdout⟩, ?_⟩
  · obtain ⟨all, hall, rfl⟩ := php_eq_ok_iff.mp hds
    have hboth : reports ([stderr] ++ [stdout]) = .ok all := hall
    obtain ⟨first, second, hfirst, hsecond, rfl⟩ := exists_of_reports_append hboth
    have hswapped : reports ([stdout] ++ [stderr]) = .ok (second ++ first) :=
      reports_append_eq_ok hsecond hfirst
    refine ⟨nodup_distinct _, ⟨first, second, hfirst, hsecond, distinct_eq _⟩,
      distinct (second ++ first), php_eq_ok_iff.mpr ⟨_, hswapped, rfl⟩, fun k => ?_⟩
    rw [mem_distinct, mem_distinct, List.map_append, List.map_append, List.mem_append,
      List.mem_append, or_comm]
  · intro stdout' stderr' hstdout hstderr
    have hlines (out err : String) :
        ((outputLines [err, out]).filterMap fun l => ofLine? (trim l)) =
          ((lines err.toList).filterMap fun l => ofLine? (trim l)) ++
            (lines out.toList).filterMap fun l => ofLine? (trim l) := by
      rw [filterMap_trim_outputLines, List.flatMap_cons, List.flatMap_singleton,
        List.filterMap_append]
    rw [php_eq, php_eq, reports, reports, hlines, hlines, filterMap_ofLine?_eq hstdout,
      filterMap_ofLine?_eq hstderr]

/-- What PHP writes when it reports on both streams. -/
def loggedLines : List (List Char) :=
  ["PHP Warning:  m in a on line 1".toList, "  PHP Notice: n in a on line 2".toList]

def shownLines : List (List Char) :=
  ["Errors".toList, "Warning: m in a on line 1".toList]

/-- The same with the mark where it was missing, and without it where it was. -/
def unloggedLines : List (List Char) :=
  ["Warning:  m in a on line 1".toList, "  Notice: n in a on line 2".toList]

def markedLines : List (List Char) :=
  ["Errors".toList, "PHP Warning: m in a on line 1".toList]

theorem php_distinct_streams :
    php [feedLines loggedLines, feedLines shownLines] =
      .ok [⟨.first, .first, .warning, "m", none⟩, ⟨.ofNat 2, .first, .info, "n", none⟩] ∧
    (([⟨.first, .first, .warning, "m", none⟩, ⟨.ofNat 2, .first, .info, "n", none⟩] :
        List Diagnostic).map key).Nodup ∧
    List.Forall₂ SameButMark shownLines markedLines ∧
    List.Forall₂ SameButMark loggedLines unloggedLines ∧
    php [feedLines unloggedLines, feedLines markedLines] =
      php [feedLines loggedLines, feedLines shownLines] := by
  have hread : php [feedLines loggedLines, feedLines shownLines] =
      .ok [⟨.first, .first, .warning, "m", none⟩, ⟨.ofNat 2, .first, .info, "n", none⟩] := by
    decide
  have hmarked : List.Forall₂ SameButMark shownLines markedLines := by
    have hadded : SameButMark "Warning: m in a on line 1".toList
        "PHP Warning: m in a on line 1".toList :=
      .added (List.forall_mem_nil _) (by decide) (by decide)
    exact .cons (.same _) (.cons hadded .nil)
  have hunlogged : List.Forall₂ SameButMark loggedLines unloggedLines := by
    have hfirst : SameButMark "PHP Warning:  m in a on line 1".toList
        "Warning:  m in a on line 1".toList :=
      .removed (List.forall_mem_nil _) (by decide)
    have hsecond : SameButMark ("  ".toList ++ "PHP Notice: n in a on line 2".toList)
        ("  ".toList ++ "Notice: n in a on line 2".toList) :=
      .removed (List.all_eq_true.mp (by decide)) (by decide)
    exact .cons hfirst (.cons hsecond .nil)
  obtain ⟨hkept, -, hsame⟩ := php_distinct (feedLines shownLines) (feedLines loggedLines)
  refine ⟨hread, (hkept _ hread).1, hmarked, hunlogged, hsame _ _ ?_ ?_⟩
  · rwa [lines_feedLines (by decide), lines_feedLines (by decide)]
  · rwa [lines_feedLines (by decide), lines_feedLines (by decide)]

end Output

end SourceCheck

import Mathlib.Data.List.Infix
import Mathlib.Data.Prod.Basic
import SourceCheck.Proofs.Output.LintFindings

/-!
# Lint lines and the word in their messages

A lint line is a severity, a message, ` in `, a path, ` on line ` and a number.  The reader ends the
message at the first ` in ` behind which the rest can be read, and the rest can be read behind every
` in `: all that is in front of the number goes to the path then.  So a message that holds the word
is cut there, and findings whose messages begin alike may become one.  A line is read back exactly
if it has a path and its message does not hold the word.

* `LintFinding`, `LintFinding.Sound`: findings as PHP writes them.
* `LintFinding.ofLine?_text`: what reading a line comes to.
* `LintFinding.Uncut`: messages that the reader does not cut.
* `LintFinding.read_iff`: the lines that are read back.
* `Output.lint_findings`: output that is read back.
-/

namespace SourceCheck

open Text

/-! ## 1. Findings as PHP writes them -/

/-- **PHP's words for a severity.** -/
inductive LintWord
  | parseError
  | fatalError
  | warning
  | deprecated
  | notice
  deriving DecidableEq

namespace LintWord

def text : LintWord → String
  | parseError => "Parse error"
  | fatalError => "Fatal error"
  | warning => "Warning"
  | deprecated => "Deprecated"
  | notice => "Notice"

/-- What the word says; a notice is information. -/
def severity : LintWord → Severity
  | parseError => .error
  | fatalError => .error
  | warning => .warning
  | deprecated => .warning
  | notice => .info

theorem oneOf_text (w : LintWord) (r : List Char) :
    oneOf Php.severities (w.text.toList ++ r) = some (w.text, r) := by
  cases w <;> rfl

theorem afterWord_text (w : LintWord) (r : List Char) :
    afterWord "PHP " (w.text.toList ++ r) = none := by
  cases w <;> rfl

theorem ofVocabulary_text (w : LintWord) :
    Severity.ofVocabulary Php.vocabulary .error w.text = w.severity := by
  cases w <;> decide

theorem head?_text (w : LintWord) : w.text.toList.head?.map isBlank = some false := by
  cases w <;> decide

end LintWord

/-- **A finding as PHP writes it**, with or without the mark in front. -/
structure LintFinding where
  marked : Bool
  word : LintWord
  message : List Char
  path : List Char
  line : Position

namespace LintFinding

/-- What stands behind the message. -/
def behindMessage (f : LintFinding) : List Char :=
  " in ".toList ++ (f.path ++ (" on line ".toList ++ f.line.digits))

/-- What stands behind the mark. -/
def body (f : LintFinding) : List Char :=
  f.word.text.toList ++ (": ".toList ++ (f.message ++ f.behindMessage))

/-- **The line of the finding**, `severity: message in path on line n`. -/
def text (f : LintFinding) : List Char :=
  if f.marked then "PHP ".toList ++ f.body else f.body

/-- What the line says. -/
def diagnostic (f : LintFinding) : Diagnostic :=
  ⟨f.line, .first, f.word.severity, String.ofList f.message, none⟩

/-- **Findings that a line can hold.**  The message is there and trimmed, the path does not end
itself, and the number is not too long. -/
structure Sound (f : LintFinding) : Prop where
  message : f.message ≠ []
  trimmed : trim f.message = f.message
  plain : ¬ " on line ".toList <:+: f.path
  line : Short f.line.digits

/-- **Messages that are not cut**: ` in ` does not start in them, be it that it ends in them or with
what stands behind them. -/
def Uncut (f : LintFinding) : Prop := ¬ " in ".toList <:+: f.message ++ " in".toList

instance (f : LintFinding) : Decidable f.Uncut :=
  decidable_of_iff
    ((f.message ++ " in".toList).tails.all (fun t => !" in ".toList.isPrefixOf t) = true) <| by
      simp only [Uncut, List.all_eq_true, List.mem_tails, Bool.not_eq_true', Bool.eq_false_iff,
        ne_eq, List.isPrefixOf_iff_prefix, List.infix_iff_prefix_suffix, not_exists, not_and]
      exact forall_congr' fun t => ⟨fun h hpre hsuf => h hsuf hpre, fun h hsuf hpre => h hpre hsuf⟩

end LintFinding

/-! ## 2. Where a path and a message end -/

namespace Php

variable {q s X : List Char}

/-- What can be read behind a path has a digit in the tenth place. -/
theorem exists_digit_of_behindPath? {digits : List Char} (h : behindPath? s = some digits) :
    " on line ".toList <+: s ∧ ∃ c, s[9]? = some c ∧ isDecimal c = true := by
  rw [behindPath?] at h
  obtain ⟨rest, hrest, h⟩ := Option.bind_eq_some_iff.mp h
  obtain ⟨⟨ds, r⟩, hdigits, -⟩ := Option.bind_eq_some_iff.mp h
  obtain ⟨rfl, hne, hdecimal⟩ := numeral_of_digits? hdigits
  obtain rfl := of_afterWord hrest
  obtain ⟨c, cs, rfl⟩ := List.exists_cons_of_ne_nil hne
  exact ⟨⟨_, rfl⟩, c, rfl, hdecimal c List.mem_cons_self⟩

/-- **A path does not end before it is over**: where it could, the words behind it would have to be
its own, or a digit would have to be one of their characters. -/
theorem behindPath?_eq_none (hq : q ≠ []) (hplain : ¬ " on line ".toList <:+: q) :
    behindPath? (q ++ (" on line ".toList ++ X)) = none := by
  rw [Option.eq_none_iff_forall_ne_some]
  intro digits hdigits
  obtain ⟨hstart, c, hc, hdecimal⟩ := exists_digit_of_behindPath? hdigits
  by_cases hlong : 9 ≤ q.length
  · exact hplain (List.prefix_of_prefix_length_le hstart (List.prefix_append _ _) hlong).isInfix
  · have hpos : 0 < q.length := List.length_pos_iff.mpr hq
    have hplace : 9 - q.length < " on line ".toList.length := by
      change 9 - q.length < 9
      omega
    rw [List.getElem?_append_right (by omega), List.getElem?_append_left hplace] at hc
    have hnone : (" on line ".toList.all fun d => !isDecimal d) = true := by decide
    have hother := List.all_eq_true.mp hnone c (List.mem_of_getElem? hc)
    rw [hdecimal] at hother
    cases hother

/-- What stands behind a path is read. -/
theorem behindPath?_numeral {digits : List Char} (h : Numeral digits) :
    behindPath? (" on line ".toList ++ digits) = some digits := by
  have hdigits : digits? digits = some (digits, []) := by
    have hrun : run? isDecimal (digits ++ []) = some (digits, []) :=
      run?_append h.1 h.2 (by simp)
    rwa [List.append_nil] at hrun
  rw [behindPath?, afterWord_append]
  simp only [hdigits, Option.bind_eq_bind, Option.bind_some, Option.pure_def]

/-- **Behind every ` in ` a path can be read.** -/
theorem isSome_behindMessage? {path digits : List Char} (hpath : path ≠ []) (h : Numeral digits) :
    (behindMessage? (" in ".toList ++ (path ++ (" on line ".toList ++ digits)))).isSome := by
  rw [behindMessage?, afterWord_append, Option.bind_eq_bind, Option.bind_some]
  refine shortest_isSome hpath ?_
  rw [behindPath?_numeral h]
  rfl

/-- Where a path is missing, none is read: what stands behind it does not hold itself once more. -/
theorem behindMessage?_of_missing {digits : List Char} (h : Numeral digits) :
    behindMessage? (" in ".toList ++ (" on line ".toList ++ digits)) = none := by
  rw [Option.eq_none_iff_forall_ne_some]
  rintro ⟨path, line⟩ hr
  rw [behindMessage?, afterWord_append, Option.bind_eq_bind, Option.bind_some] at hr
  obtain ⟨hne, rest, hsplit, hrest⟩ := shortest_sound hr
  obtain ⟨⟨behind, rfl⟩, -⟩ := exists_digit_of_behindPath? hrest
  obtain ⟨c, cs, rfl⟩ := List.exists_cons_of_ne_nil hne
  -- Behind the path there would be all three spaces of the words, and only two are left.
  have hword : " on line ".toList = ' ' :: "on line ".toList := rfl
  rw [hword, List.cons_append, List.cons_append] at hsplit
  have hspaces := congrArg (List.count ' ') (List.cons.inj hsplit).2
  have hdigits : digits.count ' ' = 0 := List.count_eq_zero.mpr (h.notMem (by decide))
  have htwo : "on line ".toList.count ' ' = 2 := by decide
  simp only [List.count_append, List.count_cons_self, hdigits, htwo] at hspaces
  omega

/-- Where no ` in ` starts, no path is read. -/
theorem behindMessage?_eq_none (hstart : ¬ " in ".toList <+: s) : behindMessage? s = none := by
  have hnone : afterWord " in " s = none :=
    Option.not_isSome_iff_eq_none.mp fun hsome => hstart (isSome_afterWord_iff.mp hsome)
  rw [behindMessage?, hnone]
  rfl

end Php

/-! ## 3. Lines that are read back -/

namespace LintFinding

variable {f : LintFinding}

/-- There is no white space around the line. -/
theorem trim_text (f : LintFinding) : trim f.text = f.text := by
  have hdigits : f.line.digits <:+ f.behindMessage :=
    ((List.suffix_append _ _).trans (List.suffix_append _ _)).trans (List.suffix_append _ _)
  have hbody : f.line.digits <:+ f.body := hdigits.trans
    (((List.suffix_append _ _).trans (List.suffix_append _ _)).trans (List.suffix_append _ _))
  have htext : f.line.digits <:+ f.text := by
    rw [text]
    split
    · exact hbody.trans (List.suffix_append _ _)
    · exact hbody
  refine trim_of_firm (fun c hc => ?_) ?_
  · obtain ⟨d, hd, hfirm⟩ := Option.map_eq_some_iff.mp f.word.head?_text
    rw [text] at hc
    split at hc
    · exact Option.some.inj hc ▸ by decide
    · rw [body, List.head?_append, hd, Option.some_or] at hc
      exact Option.some.inj hc ▸ hfirm
  · obtain ⟨front, hfront⟩ := htext
    rw [← hfront]
    exact endsFirm_append f.line.numeral_digits.1 f.line.numeral_digits.trim_eq

/-- **What reading the line comes to**: the word is known, and the message ends at the first place
behind which a path and a number can be read. -/
theorem ofLine?_text (h : f.Sound) :
    Php.ofLine? f.text =
      (shortest Php.behindMessage? (f.message ++ f.behindMessage)).map
        fun (message, path, line) => ⟨f.word.text, message, path, line⟩ := by
  have hbody : (afterWord "PHP " f.text).getD f.text = f.body := by
    rw [text]
    split
    · rw [afterWord_append, Option.getD_some]
    · rw [body, f.word.afterWord_text, Option.getD_none]
  have hcolon (s : List Char) : afterWord ":" (": ".toList ++ s) = some (' ' :: s) := rfl
  have hrun : run isBlank (' ' :: (f.message ++ f.behindMessage)) =
      ([' '], f.message ++ f.behindMessage) := by
    obtain ⟨c, cs, hmessage, hfirm⟩ := exists_cons_of_trimmed h.message h.trimmed
    have hspace : isBlank ' ' = true := by decide
    simp [run, hmessage, hfirm, hspace]
  have hgiven (s : List Char) :
      Php.behindBlanks? [' '] s [' '].length = shortest Php.behindMessage? s := by
    change Php.behindBlanks? [' '] s (0 + 1) = _
    rw [Php.behindBlanks?, Php.behindBlanks?, List.drop_one, List.tail_cons, List.nil_append]
    cases shortest Php.behindMessage? s <;> rfl
  rw [Php.ofLine?]
  dsimp only
  rw [hbody, body, f.word.oneOf_text]
  dsimp only [Option.bind_eq_bind, Option.bind_some]
  rw [hcolon]
  dsimp only [Option.bind_some]
  rw [hrun]
  dsimp only
  rw [hgiven]
  cases shortest Php.behindMessage? (f.message ++ f.behindMessage) <;> rfl

/-- What stands behind the message is read. -/
theorem behindMessage?_behindMessage (h : f.Sound) (hne : f.path ≠ []) :
    Php.behindMessage? f.behindMessage = some (f.path, f.line.digits) := by
  have hpath : shortest Php.behindPath? (f.path ++ (" on line ".toList ++ f.line.digits)) =
      some (f.path, f.line.digits) := by
    refine shortest_append hne (Php.behindPath?_numeral f.line.numeral_digits) ?_
    intro before q hq _ hshorter
    refine Php.behindPath?_eq_none hshorter fun hinner => h.plain ?_
    rw [hq]
    exact hinner.trans (List.suffix_append before q).isInfix
  rw [Php.behindMessage?, behindMessage, afterWord_append, Option.bind_eq_bind, Option.bind_some,
    hpath]

/-- **A message that is not cut is read to its end.** -/
theorem shortest_of_uncut (h : f.Sound) (hpath : f.path ≠ []) (huncut : f.Uncut) :
    shortest Php.behindMessage? (f.message ++ f.behindMessage) =
      some (f.message, f.path, f.line.digits) := by
  refine shortest_append h.message (behindMessage?_behindMessage h hpath) fun before q hq _ hne => ?_
  refine Php.behindMessage?_eq_none fun hstart => huncut ?_
  -- The word would start in the message, and end in it or with what stands behind it.
  have hbehind : q ++ " in".toList <+: q ++ f.behindMessage := by
    refine (List.prefix_append_right_inj q).mpr ?_
    exact ⟨' ' :: (f.path ++ (" on line ".toList ++ f.line.digits)), rfl⟩
  have hlength : " in ".toList.length ≤ (q ++ " in".toList).length := by
    have hpos : 0 < q.length := List.length_pos_iff.mpr hne
    rw [List.length_append]
    change 4 ≤ q.length + 3
    omega
  have hword := List.prefix_of_prefix_length_le hstart hbehind hlength
  rw [hq, List.append_assoc]
  exact hword.isInfix.trans (List.suffix_append before _).isInfix

/-- **A message that is cut is read in part.** -/
theorem length_of_not_uncut (h : f.Sound) (hcut : ¬ f.Uncut) {message : List Char} {r}
    (hread : shortest Php.behindMessage? (f.message ++ f.behindMessage) = some (message, r)) :
    message.length < f.message.length := by
  obtain ⟨a, b, hword⟩ := not_not.mp hcut
  have hne : a ≠ [] := by
    rintro rfl
    obtain ⟨c, cs, hmessage, hfirm⟩ := exists_cons_of_trimmed h.message h.trimmed
    rw [hmessage] at hword
    obtain ⟨rfl, -⟩ := List.cons.inj hword
    exact absurd hfirm (by decide)
  have htext : f.message ++ f.behindMessage = a ++ (" in ".toList ++
      ((b ++ ' ' :: f.path) ++ (" on line ".toList ++ f.line.digits))) := by
    have hbehind : f.behindMessage =
        " in".toList ++ ' ' :: (f.path ++ (" on line ".toList ++ f.line.digits)) := rfl
    rw [hbehind, ← List.append_assoc, ← hword]
    simp only [List.append_assoc, List.cons_append]
  have hpath : b ++ ' ' :: f.path ≠ [] := List.append_ne_nil_of_right_ne_nil b (List.cons_ne_nil _ _)
  have hsome := Php.isSome_behindMessage? hpath f.line.numeral_digits
  have hle : message.length ≤ a.length := by
    by_contra hlt
    rw [shortest_least hread htext hne (Nat.lt_of_not_le hlt)] at hsome
    cases hsome
  have hlengths := congrArg List.length hword
  simp only [List.length_append] at hlengths
  change a.length + 4 + b.length = f.message.length + 3 at hlengths
  omega

/-- A path that is missing leaves nothing to read behind the message. -/
theorem path_ne_nil_of_read (h : f.Sound) {message : List Char} {r}
    (hread : shortest Php.behindMessage? (f.message ++ f.behindMessage) = some (message, r))
    (htrim : trim message = f.message) : f.path ≠ [] := by
  intro hpath
  obtain ⟨-, rest, hsplit, hrest⟩ := shortest_sound hread
  obtain ⟨pre, post, hmessage, hpre, hpost⟩ := exists_trim message
  obtain ⟨c, cs, hfirst, hfirm⟩ := exists_cons_of_trimmed h.message h.trimmed
  rw [hmessage, htrim] at hsplit
  cases pre with
  | cons d pre =>
    rw [hfirst] at hsplit
    obtain ⟨rfl, -⟩ := List.cons.inj hsplit
    rw [hpre c List.mem_cons_self] at hfirm
    cases hfirm
  | nil =>
    rw [List.nil_append, List.append_assoc, List.append_cancel_left_eq, behindMessage, hpath,
      List.nil_append] at hsplit
    -- The message ends where it does, or with the space behind it, where no word starts.
    have hword (X : List Char) : " in ".toList ++ X = ' ' :: 'i' :: ("n ".toList ++ X) := rfl
    cases post with
    | nil =>
      rw [List.nil_append] at hsplit
      rw [← hsplit, Php.behindMessage?_of_missing f.line.numeral_digits] at hrest
      cases hrest
    | cons d post =>
      rw [hword, List.cons_append] at hsplit
      obtain ⟨-, hsplit⟩ := List.cons.inj hsplit
      cases post with
      | nil =>
        rw [List.nil_append] at hsplit
        rw [← hsplit] at hrest
        cases hrest
      | cons d' post =>
        obtain ⟨rfl, -⟩ := List.cons.inj hsplit
        have hblank := hpost 'i' (List.mem_cons_of_mem _ List.mem_cons_self)
        exact absurd hblank (by decide)

/-- **A line is read back exactly if it has a path and its message is not cut.** -/
theorem read_iff (h : f.Sound) :
    (∃ l, Php.ofLine? (trim f.text) = some l ∧ Php.diagnostic l = .ok f.diagnostic) ↔
      f.path ≠ [] ∧ f.Uncut := by
  rw [trim_text, ofLine?_text h]
  constructor
  · rintro ⟨l, hl, hdiagnostic⟩
    obtain ⟨⟨message, path, line⟩, hread, rfl⟩ := Option.map_eq_some_iff.mp hl
    have hmessage : trim message = f.message := by
      rw [Php.diagnostic] at hdiagnostic
      cases hline : Position.ofDigits line with
      | error fault =>
        rw [hline] at hdiagnostic
        cases hdiagnostic
      | ok n =>
        rw [hline] at hdiagnostic
        exact String.ofList_inj.mp (congrArg Diagnostic.message (Except.ok.inj hdiagnostic))
    refine ⟨path_ne_nil_of_read h hread hmessage, ?_⟩
    by_contra hcut
    have hlt := length_of_not_uncut h hcut hread
    obtain ⟨pre, post, hparts, -⟩ := exists_trim message
    have hlength := congrArg List.length hparts
    rw [hmessage, List.length_append, List.length_append] at hlength
    omega
  · rintro ⟨hpath, huncut⟩
    refine ⟨_, by rw [shortest_of_uncut h hpath huncut]; rfl, ?_⟩
    rw [Php.diagnostic, Position.ofDigits_digits h.line]
    dsimp only
    rw [h.trimmed, f.word.ofVocabulary_text]
    rfl

/-- Findings with different lines or messages are different. -/
theorem nodup_diagnostics {findings : List LintFinding}
    (h : (findings.map fun f => (f.line, f.message)).Nodup) :
    ((findings.map diagnostic).map Php.key).Nodup := by
  have hkeys : (findings.map diagnostic).map Php.key =
      (findings.map fun f => (f.line, f.message)).map (Prod.map id String.ofList) := by
    rw [List.map_map, List.map_map]
    rfl
  have hinjective : Function.Injective (Prod.map id String.ofList : Position × List Char → _) :=
    Function.injective_id.prodMap (fun _ _ => String.ofList_inj.mp)
  rw [hkeys]
  exact h.map hinjective

end LintFinding

/-! ## 4. Output -/

namespace Output

variable {streams : List String} {findings : List LintFinding}

theorem reports_of_lines (hlines : (streams.flatMap fun s => lines s.toList) =
      findings.map LintFinding.text) :
    Php.reports streams =
      (findings.filterMap fun f => Php.ofLine? (trim f.text)).mapM Php.diagnostic := by
  rw [Php.reports, filterMap_trim_outputLines, hlines, List.filterMap_map]
  rfl

/-- **Output is read back exactly if each of its lines is**, and findings that differ are not
dropped. -/
theorem php_eq_ok_iff_of_lines (hlines : (streams.flatMap fun s => lines s.toList) =
      findings.map LintFinding.text)
    (hdistinct : (findings.map fun f => (f.line, f.message)).Nodup) :
    php streams = .ok (findings.map LintFinding.diagnostic) ↔
      ∀ f ∈ findings, ∃ l, Php.ofLine? (trim f.text) = some l ∧
        Php.diagnostic l = .ok f.diagnostic := by
  rw [← mapM_filterMap_eq_ok_iff, ← reports_of_lines hlines, Php.php_eq_ok_iff]
  constructor
  · -- There are no more reports than lines, so none was dropped.
    rintro ⟨all, hall, hkept⟩
    have hlength : all.length ≤ (Php.distinct all).length := by
      rw [reports_of_lines hlines] at hall
      rw [← hkept, List.length_map, ← (mapM_eq_ok_iff.mp hall).length_eq]
      exact List.length_filterMap_le _ _
    rw [hall, hkept, (Php.distinct_sublist all).eq_of_length_le hlength]
  · intro hall
    have hnodup := LintFinding.nodup_diagnostics hdistinct
    exact ⟨_, hall, (Php.distinct_of_nodup hnodup).symm⟩

/-- **The findings of some output are read back**, in order and with nothing changed, exactly if
none is without a path and no message is cut: if its lines are those of findings that differ in
their lines or messages, then there is one finding for each, and it has the whole message. -/
theorem lint_findings (hlines : (streams.flatMap fun s => lines s.toList) =
      findings.map LintFinding.text)
    (h : ∀ f ∈ findings, f.Sound)
    (hdistinct : (findings.map fun f => (f.line, f.message)).Nodup) :
    php streams = .ok (findings.map LintFinding.diagnostic) ↔
      ∀ f ∈ findings, f.path ≠ [] ∧ f.Uncut := by
  rw [php_eq_ok_iff_of_lines hlines hdistinct]
  exact forall₂_congr fun f hf => LintFinding.read_iff (h f hf)

/-- A finding with a mark, whose message looks like the end of a line and whose path holds the word
that ends a message. -/
def quotedFinding : LintFinding where
  marked := true
  word := .parseError
  message := "m on line 3".toList
  path := "a in b".toList
  line := .ofNat 4

/-- Two findings whose messages begin alike and hold the word. -/
def cutFindings : List LintFinding :=
  [⟨false, .warning, "a in b".toList, "x".toList, .first⟩,
    ⟨false, .warning, "a in c".toList, "x".toList, .first⟩]

theorem sound_quotedFinding : quotedFinding.Sound where
  message := by decide
  trimmed := by decide
  plain := by decide
  line := by decide

theorem sound_cutFindings : ∀ f ∈ cutFindings, f.Sound :=
  List.forall_mem_cons.mpr ⟨⟨by decide, by decide, by decide, by decide⟩,
    List.forall_mem_singleton.mpr ⟨by decide, by decide, by decide, by decide⟩⟩

theorem lint_findings_quoted :
    (∀ f ∈ [quotedFinding], f.Sound) ∧ quotedFinding.Uncut ∧
    php ["", feedLines [quotedFinding.text]] =
      .ok [⟨.ofNat 4, .first, .error, "m on line 3", none⟩] := by
  have hsound : ∀ f ∈ [quotedFinding], f.Sound := List.forall_mem_singleton.mpr sound_quotedFinding
  have huncut : quotedFinding.Uncut := by decide
  have hlines : (["", feedLines [quotedFinding.text]].flatMap fun s => lines s.toList) =
      [quotedFinding].map LintFinding.text := by
    rw [List.flatMap_cons, List.flatMap_singleton, lines_feedLines (by decide)]
    rfl
  have hread : php ["", feedLines [quotedFinding.text]] =
      .ok ([quotedFinding].map LintFinding.diagnostic) :=
    (lint_findings hlines hsound (List.nodup_singleton _)).mpr
      (List.forall_mem_singleton.mpr ⟨by decide, huncut⟩)
  exact ⟨hsound, huncut, hread.trans (by decide)⟩

/-- **Not every finding is read back**: of two whose messages hold the word and begin alike, one is
cut and the other is dropped. -/
theorem exists_lint_message_cut :
    ¬ ∀ (streams : List String) (findings : List LintFinding),
      (streams.flatMap fun s => lines s.toList) = findings.map LintFinding.text →
      (∀ f ∈ findings, f.Sound ∧ f.path ≠ [] ∧ ¬ " in ".toList <:+: f.path) →
      (findings.map fun f => (f.line, f.message)).Nodup →
      php streams = .ok (findings.map LintFinding.diagnostic) := by
  intro hall
  have hlines : ([feedLines (cutFindings.map LintFinding.text)].flatMap fun s => lines s.toList) =
      cutFindings.map LintFinding.text := by
    rw [List.flatMap_singleton, lines_feedLines (by decide)]
  have hplain : ∀ f ∈ cutFindings, f.path ≠ [] ∧ ¬ " in ".toList <:+: f.path := by decide
  have hclaimed := hall _ _ hlines (fun f hf => ⟨sound_cutFindings f hf, hplain f hf⟩) (by decide)
  rw [php_eq_ok_iff_of_lines hlines (by decide)] at hclaimed
  obtain ⟨hfirst, -⟩ := List.forall_mem_cons.mp hclaimed
  obtain ⟨-, huncut⟩ := (LintFinding.read_iff (sound_cutFindings _ List.mem_cons_self)).mp hfirst
  exact absurd huncut (by decide)

end Output

end SourceCheck

import SourceCheck.Proofs.Output.LineReaders
import SourceCheck.Proofs.Output.NoisyDocuments

/-!
# How lines end

No reader sees how the lines of output end: with a line feed, with a carriage return and a line
feed, or with spaces and tabs in front of either.  Eleven readers see lines that are trimmed at the
end, and these are the same; in a document such white space stands between tokens, or in a string,
where a line feed has no place anyway.

* `Reended`: a text, and the same with its lines ended in other ways.
* `Reended.map_lines`: the lines are the same, trimmed at the end.
* `Reended.trim`: so is what stands between white space, but for how its lines end.
* `Builtin.diagnostics_reended`: every reader finds the same.
-/

namespace SourceCheck

open Text

namespace Text

variable {s t u : List Char} {c : Char}

/-! ## 1. Texts with other line endings -/

/-- Spaces and tabs. -/
def Pad (pad : List Char) : Prop := ∀ c ∈ pad, c = ' ' ∨ c = '\t'

/-- Ways to end a line. -/
def endings : List (List Char) := [['\n'], ['\r', '\n']]

/-- **A text, and the same with its lines ended in other ways**: each line feed by itself or behind
a carriage return, with any spaces and tabs in front. -/
inductive Reended : List Char → List Char → Prop
  | nil : Reended [] []
  | keep (c : Char) {s t : List Char} (h : Reended s t) : Reended (c :: s) (c :: t)
  | feed {pad ending s t : List Char} (hpad : Pad pad) (hending : ending ∈ endings)
      (h : Reended s t) : Reended ('\n' :: s) (pad ++ (ending ++ t))

theorem Pad.isBlank {pad : List Char} (h : Pad pad) : ∀ c ∈ pad, isBlank c = true := by
  intro c hc
  rcases h c hc with rfl | rfl <;> decide

theorem Pad.isSpace {pad : List Char} (h : Pad pad) : ∀ c ∈ pad, Json.isSpace c = true := by
  intro c hc
  rcases h c hc with rfl | rfl <;> decide

theorem Pad.unbroken {pad : List Char} (h : Pad pad) : Unbroken pad := by
  intro c hc
  rcases h c hc with rfl | rfl <;> decide

/-! ## 2. Lines -/

/-- White space behind a text is trimmed off. -/
theorem trimRight_append_blank {post : List Char} (hpost : ∀ c ∈ post, isBlank c = true)
    (s : List Char) : trimRight (s ++ post) = trimRight s := by
  rw [trimRight, List.reverse_append,
    List.dropWhile_append_of_pos fun c hc => hpost c (List.mem_reverse.mp hc), ← trimRight]

/-- Trimming at the end does not depend on the start. -/
theorem trimRight_cons (c : Char) (l : List Char) :
    trimRight (c :: l) = trimRight (c :: trimRight l) := by
  obtain ⟨post, hl, hpost⟩ := exists_trimRight l
  conv_lhs => rw [hl, ← List.cons_append]
  exact trimRight_append_blank hpost _

/-- A character in front of the first of some trimmed lines. -/
theorem map_trimRight_consFirst (c : Char) (ls : List (List Char)) :
    (consFirst c ls).map trimRight = (consFirst c (ls.map trimRight)).map trimRight := by
  cases ls with
  | nil => rfl
  | cons l ls =>
    rw [consFirst, List.map_cons, List.map_cons, consFirst, List.map_cons, ← trimRight_cons,
      List.map_map]
    refine congrArg _ (List.map_congr_left fun l _ => ?_)
    exact (trimRight_idem l).symm

/-- A line above an ending is the first line. -/
theorem lines_append_ending {ending : List Char} (hending : ending ∈ endings) (hs : Unbroken s)
    (t : List Char) : lines (s ++ (ending ++ t)) = s :: lines t := by
  simp only [endings, List.mem_cons, List.not_mem_nil, or_false] at hending
  rcases hending with rfl | rfl
  · exact lines_append_feed hs t
  · induction s with
    | nil => exact lines_return_feed t
    | cons c s ih =>
      obtain ⟨hc, hs⟩ := unbroken_cons_iff.mp hs
      rw [List.cons_append, lines_cons_of_not_break hc, ih hs]
      rfl

namespace Reended

/-- **The lines are the same**, trimmed at the end, if the first text has no carriage returns. -/
theorem map_lines (h : Reended s t) (hs : '\r' ∉ s) :
    (lines t).map trimRight = (lines s).map trimRight := by
  induction h with
  | nil => rfl
  | @keep c s t h ih =>
    obtain ⟨hc, hs⟩ := List.ne_and_not_mem_of_not_mem_cons hs
    by_cases hbreak : isLineBreak c = true
    · have hplain : ∀ u, lines (c :: u) = [] :: lines u := fun u =>
        lines_cons_of_break hbreak fun hreturn => hc hreturn.1.symm
      rw [hplain, hplain, List.map_cons, List.map_cons, ih hs]
    · have hplain : ∀ u, lines (c :: u) = consFirst c (lines u) := fun u =>
        lines_cons_of_not_break (Bool.eq_false_iff.mpr hbreak)
      rw [hplain, hplain, map_trimRight_consFirst, ih hs, ← map_trimRight_consFirst]
  | @feed pad ending s t hpad hending h ih =>
    have hblank : trimRight pad = [] := trimRight_append_blank hpad.isBlank []
    rw [lines_append_ending hending hpad.unbroken, lines_feed, List.map_cons, List.map_cons,
      ih (List.not_mem_of_not_mem_cons hs), hblank]
    rfl

/-! ## 3. What stands between white space -/

theorem respaced (h : Reended s t) : Json.Respaced s t := by
  induction h with
  | nil => exact .ending rfl
  | keep c h ih => exact .keep c ih
  | @feed pad ending s t hpad hending h ih =>
    simp only [endings, List.mem_cons, List.not_mem_nil, or_false] at hending
    have hskip : ∀ gap, (∀ c ∈ gap, Json.isSpace c = true) → Json.skip gap = [] :=
      fun gap hgap => List.dropWhile_eq_nil_iff.mpr hgap
    rcases hending with rfl | rfl
    · exact .feed (hskip pad hpad.isSpace) ih
    · have hgap : ∀ c ∈ pad ++ ['\r'], Json.isSpace c = true :=
        List.forall_mem_append.mpr ⟨hpad.isSpace, List.forall_mem_singleton.mpr rfl⟩
      have hfeed := Json.Respaced.feed (hskip _ hgap) ih
      rwa [List.append_assoc] at hfeed

/-- Parts of the first text are parts of the second. -/
theorem of_append {a b : List Char} (h : Reended (a ++ b) t) :
    ∃ a' b', t = a' ++ b' ∧ Reended a a' ∧ Reended b b' := by
  induction a generalizing t with
  | nil => exact ⟨[], t, rfl, .nil, h⟩
  | cons c a ih =>
    cases h with
    | keep _ h =>
      obtain ⟨a', b', rfl, ha, hb⟩ := ih h
      exact ⟨c :: a', b', rfl, .keep c ha, hb⟩
    | @feed pad ending _ t hpad hending h =>
      obtain ⟨a', b', rfl, ha, hb⟩ := ih h
      refine ⟨pad ++ (ending ++ a'), b', ?_, .feed hpad hending ha, hb⟩
      simp only [List.append_assoc]

/-- A character that ends no line is in the second text as well. -/
theorem of_cons (hc : c ≠ '\n') (h : Reended (c :: s) t) : ∃ t', t = c :: t' ∧ Reended s t' := by
  cases h with
  | keep _ h => exact ⟨_, rfl, h⟩
  | feed => exact absurd rfl hc

theorem isBlank_ending {ending : List Char} (h : ending ∈ endings) :
    ∀ c ∈ ending, isBlank c = true := by
  have hall : ∀ ending ∈ endings, ending.all isBlank = true := by decide
  exact List.all_eq_true.mp (hall ending h)

/-- What is put in is white space: every other character was there before. -/
theorem mem_or_isBlank (h : Reended s t) : ∀ c ∈ t, c ∈ s ∨ isBlank c = true := by
  induction h with
  | nil => nofun
  | keep d h ih =>
    refine List.forall_mem_cons.mpr ⟨.inl List.mem_cons_self, fun c hc => ?_⟩
    exact (ih c hc).imp_left (List.mem_cons_of_mem d)
  | feed hpad hending h ih =>
    refine List.forall_mem_append.mpr ⟨fun c hc => .inr (hpad.isBlank c hc), ?_⟩
    refine List.forall_mem_append.mpr ⟨fun c hc => .inr (isBlank_ending hending c hc), ?_⟩
    intro c hc
    exact (ih c hc).imp_left (List.mem_cons_of_mem '\n')

theorem isBlank (h : Reended s t) (hs : ∀ c ∈ s, Text.isBlank c = true) :
    ∀ c ∈ t, Text.isBlank c = true :=
  fun c hc => (h.mem_or_isBlank c hc).elim (hs c) id

theorem eq_nil_iff (h : Reended s t) : t = [] ↔ s = [] := by
  cases h with
  | nil => simp
  | keep => simp
  | @feed pad ending s t hpad hending h =>
    simp only [endings, List.mem_cons, List.not_mem_nil, or_false] at hending
    rcases hending with rfl | rfl <;> simp

theorem ne_feed_of_firm (h : Text.isBlank c = false) : c ≠ '\n' := by
  rintro rfl
  cases h

/-- A text that does not end with white space ends in the same way. -/
theorem endsFirm (h : Reended s t) (hs : EndsFirm s) : EndsFirm t := by
  rcases List.eq_nil_or_concat' s with rfl | ⟨init, c, rfl⟩
  · rw [h.eq_nil_iff.mpr rfl]
    exact nofun
  · have hc : Text.isBlank c = false := hs c List.getLast?_concat
    obtain ⟨a, b, rfl, -, hb⟩ := h.of_append
    obtain ⟨t', rfl, ht'⟩ := hb.of_cons (ne_feed_of_firm hc)
    rw [ht'.eq_nil_iff.mpr rfl]
    intro d hd
    rw [List.getLast?_concat] at hd
    rwa [← Option.some.inj hd]

/-- **What stands between white space** differs in its line endings alone. -/
protected theorem trim (h : Reended s t) : Reended (trim s) (trim t) := by
  obtain ⟨pre, post, hs, hpre, hpost⟩ := exists_trim s
  rw [hs] at h
  obtain ⟨pre', rest, rfl, hpre', hrest⟩ := h.of_append
  obtain ⟨core, post', rfl, hcore, hpost'⟩ := hrest.of_append
  have hstart : ∀ c, core.head? = some c → Text.isBlank c = false := by
    intro c hc
    cases htrim : Text.trim s with
    | nil =>
      rw [htrim] at hcore
      rw [hcore.eq_nil_iff.mpr rfl] at hc
      cases hc
    | cons d m =>
      have hd := head?_trim s d (by rw [htrim]; rfl)
      rw [htrim] at hcore
      obtain ⟨m', rfl, -⟩ := hcore.of_cons (ne_feed_of_firm hd)
      rwa [← Option.some.inj hc]
  rw [trim_between (hpre'.isBlank hpre) hstart (hcore.endsFirm (endsFirm_trim s))
    (hpost'.isBlank hpost)]
  exact hcore

/-- The part from the first brace on. -/
theorem dropWhile_brace (h : Reended s t) :
    Reended (s.dropWhile (· != '\x7b')) (t.dropWhile (· != '\x7b')) := by
  have hadded : ∀ {a a' : List Char}, Reended a a' → '\x7b' ∉ a → '\x7b' ∉ a' := by
    intro a a' ha hnot hmem
    exact (ha.mem_or_isBlank _ hmem).elim hnot (by decide)
  by_cases hbrace : '\x7b' ∈ s
  · obtain ⟨noise, rest, rfl, hnoise⟩ := List.eq_append_cons_of_mem hbrace
    obtain ⟨noise', rest', rfl, hnoise', hrest⟩ := h.of_append
    obtain ⟨tail, rfl, htail⟩ := hrest.of_cons (by decide)
    rw [Json.dropWhile_ne_brace hnoise, Json.dropWhile_ne_brace (hadded hnoise' hnoise)]
    exact .keep _ htail
  · rw [Json.dropWhile_of_notMem_brace hbrace, Json.dropWhile_of_notMem_brace (hadded h hbrace)]
    exact .nil

/-- Both texts start with their first brace, or neither does. -/
theorem dropWhile_brace_eq_iff (h : Reended s t) :
    t.dropWhile (· != '\x7b') = t ↔ s.dropWhile (· != '\x7b') = s := by
  cases h with
  | nil => exact Iff.rfl
  | keep c h => rw [Json.dropWhile_brace_cons_iff, Json.dropWhile_brace_cons_iff]
  | @feed pad ending s t hpad hending h =>
    have hblank : ∀ c ∈ pad ++ ending, Text.isBlank c = true :=
      List.forall_mem_append.mpr ⟨hpad.isBlank, isBlank_ending hending⟩
    have hne : pad ++ ending ≠ [] := by
      have hall : ∀ ending ∈ endings, ending ≠ [] := by decide
      exact List.append_ne_nil_of_right_ne_nil pad (hall ending hending)
    obtain ⟨c, rest, hc⟩ := List.exists_cons_of_ne_nil hne
    rw [hc] at hblank
    have hbrace : c ≠ '\x7b' := by
      rintro rfl
      exact absurd (hblank _ List.mem_cons_self) (by decide)
    rw [← List.append_assoc, hc, List.cons_append, Json.dropWhile_brace_cons_iff,
      Json.dropWhile_brace_cons_iff]
    exact iff_of_false hbrace (by decide)

end Reended

end Text

/-! ## 4. Readers -/

/-- The document in output does not depend on line endings. -/
theorem Json.inOutput?_reended {d : Json.Dialect} {output output' : String}
    (h : Reended output.toList output'.toList) : inOutput? d output' = inOutput? d output := by
  have htrim := h.trim
  unfold inOutput?
  generalize trim output.toList = s at *
  generalize trim output'.toList = t at *
  have hrest := htrim.dropWhile_brace
  simp only [htrim.eq_nil_iff, hrest.eq_nil_iff, htrim.dropWhile_brace_eq_iff,
    ← Json.readChars_respaced htrim.respaced, ← Json.readChars_respaced hrest.respaced]

/-- The lines of output do not depend on their endings. -/
theorem outputLines_reended {out out' : String} (hout : '\r' ∉ out.toList)
    (h : Reended out.toList out'.toList) : outputLines [out'] = outputLines [out] := by
  rw [outputLines_singleton, outputLines_singleton, h.map_lines hout]

namespace Builtin

/-- **No reader sees how lines end.** -/
theorem diagnostics_reended (b : Builtin) (m : Machine) (file root : Path)
    {out out' err err' : String} (hout : '\r' ∉ out.toList) (herr : '\r' ∉ err.toList)
    (h : Reended out.toList out'.toList) (h' : Reended err.toList err'.toList) :
    b.diagnostics m ⟨out', err', file, root⟩ = b.diagnostics m ⟨out, err, file, root⟩ := by
  have hlines := outputLines_reended hout h
  have hlines' := outputLines_reended herr h'
  have hboth : outputLines [out', err'] = outputLines [out, err] := by
    rw [← List.singleton_append, outputLines_append, hlines, hlines', ← outputLines_append]
    rfl
  have hswapped : outputLines [err', out'] = outputLines [err, out] := by
    rw [← List.singleton_append, outputLines_append, hlines, hlines', ← outputLines_append]
    rfl
  cases b with
  | python => simp only [diagnostics, Output.pyright, Json.inOutput?_reended h]
  | terraform => simp only [diagnostics, Output.terraform, hlines, hlines']
  | typeScript => simp only [diagnostics, Output.typeScript, hboth]
  | go => simp only [diagnostics, Output.goVet, hboth]
  | rust | cpp => simp only [diagnostics, Output.compiler, hboth]
  | java => simp only [diagnostics, Output.javac, hswapped]
  | php => simp only [diagnostics, Output.php, hswapped]
  | scala => simp only [diagnostics, Output.scala, hswapped]
  | lua => simp only [diagnostics, Output.luac, hswapped]
  | elixir => simp only [diagnostics, Output.elixir, hswapped]
  | zig => simp only [diagnostics, Output.compiler, hlines']

/-- A text with something else in the place of each line feed. -/
def endedWith (ending s : List Char) : List Char :=
  s.flatMap fun c => if c = '\n' then ending else [c]

theorem reended_endedWith {pad ending : List Char} (hpad : Pad pad) (hending : ending ∈ endings)
    (s : List Char) : Reended s (endedWith (pad ++ ending) s) := by
  induction s with
  | nil => exact .nil
  | cons c s ih =>
    rw [endedWith, List.flatMap_cons, ← endedWith]
    by_cases hc : c = '\n'
    · subst hc
      rw [if_pos rfl, List.append_assoc]
      exact .feed hpad hending ih
    · rw [if_neg hc]
      exact .keep c ih

/-- **A text with a carriage return in front of every line feed.** -/
def withReturns (s : String) : String := String.ofList (endedWith ['\r', '\n'] s.toList)

theorem reended_withReturns (s : String) : Reended s.toList (withReturns s).toList := by
  rw [withReturns, String.toList_ofList]
  exact reended_endedWith (List.forall_mem_nil _) (by decide) s.toList

/-- **Line endings make no difference to any reader**: neither carriage returns in front of all line
feeds, nor spaces, tabs and carriage returns in front of some. -/
theorem line_endings_unseen :
    (∀ (b : Builtin) (m : Machine) (file root : Path) (out err : String),
      '\r' ∉ out.toList → '\r' ∉ err.toList →
      b.diagnostics m ⟨withReturns out, withReturns err, file, root⟩ =
        b.diagnostics m ⟨out, err, file, root⟩) ∧
    ∀ (b : Builtin) (m : Machine) (file root : Path) (out err out' err' : String),
      '\r' ∉ out.toList → '\r' ∉ err.toList →
      Reended out.toList out'.toList → Reended err.toList err'.toList →
      b.diagnostics m ⟨out', err', file, root⟩ = b.diagnostics m ⟨out, err, file, root⟩ :=
  ⟨fun b m file root out err hout herr =>
    b.diagnostics_reended m file root hout herr (reended_withReturns out) (reended_withReturns err),
  fun b m file root _ _ _ _ hout herr h h' => b.diagnostics_reended m file root hout herr h h'⟩

/-- Two findings of Go vet. -/
def vetText : String := "a.go:1: x\nb.go:2:3: y\n"

/-- The same with a space and a tab in front of each line feed. -/
def paddedText : String := String.ofList (endedWith [' ', '\t', '\n'] vetText.toList)

theorem line_endings_unseen_vet :
    '\r' ∉ vetText.toList ∧ '\r' ∉ "".toList ∧ Reended vetText.toList paddedText.toList ∧
    Reended "".toList "".toList ∧
    go.diagnostics Output.bareMachine
        ⟨withReturns vetText, withReturns "", Output.checkedFile, Output.projectRoot⟩ =
      go.diagnostics Output.bareMachine ⟨vetText, "", Output.checkedFile, Output.projectRoot⟩ ∧
    go.diagnostics Output.bareMachine ⟨paddedText, "", Output.checkedFile, Output.projectRoot⟩ =
      go.diagnostics Output.bareMachine ⟨vetText, "", Output.checkedFile, Output.projectRoot⟩ := by
  have hout : '\r' ∉ vetText.toList := by decide +kernel
  have herr : '\r' ∉ "".toList := by decide
  have hpadded : Reended vetText.toList paddedText.toList := by
    rw [paddedText, String.toList_ofList]
    have hpad : Pad [' ', '\t'] := by
      simp [Pad]
    exact reended_endedWith hpad (by decide) vetText.toList
  exact ⟨hout, herr, hpadded, .nil, line_endings_unseen.1 go _ _ _ _ _ hout herr,
    line_endings_unseen.2 go _ _ _ _ _ _ _ hout herr hpadded .nil⟩

end Builtin

end SourceCheck

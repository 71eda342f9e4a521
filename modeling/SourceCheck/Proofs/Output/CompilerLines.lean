import SourceCheck.Output.Compiler
import SourceCheck.Proofs.Output.Written

/-!
# Compiler lines that are read back

Nothing marks the end of a path on a compiler line: it ends where the rest can be read as a
position, a severity and a message.  The path may hold colons and digits, and the message may hold
whole positions, so there can be many such places; the reader takes the first.  A position on a line
ends with a colon and a space, so a path without these two in a row holds no position, and the first
place is the right one.

* `CompilerLine.exists_position`: what can be read behind a path starts with a position.
* `CompilerFinding`, `CompilerFinding.Sound`: findings as compilers write them.
* `CompilerFinding.ofLine?_text`: their lines are taken apart as they were put together.
* `CompilerItem`: a line of output, which is a finding or noise.
* `Output.compiler_items`: the findings among the lines are read back, in order.
-/

namespace SourceCheck

open Text

/-! ## 1. Positions on a line -/

namespace CompilerLine

variable {s q L C X : List Char}

/-- What can be read behind a path starts with a position. -/
theorem exists_position {v} (h : behindPath? s = some v) :
    ∃ line column r, Numeral line ∧ Numeral column ∧
      s = ':' :: (line ++ ':' :: (column ++ ':' :: ' ' :: r)) := by
  rw [behindPath?] at h
  simp only [Option.bind_eq_bind, Option.bind_eq_some_iff, Prod.exists] at h
  obtain ⟨s₁, hfirst, line, s₂, hline, s₃, hsecond, column, s₄, hcolumn, s₅, hthird, -⟩ := h
  obtain ⟨rfl, hnumeral⟩ := numeral_of_digits? hline
  obtain ⟨rfl, hnumeral'⟩ := numeral_of_digits? hcolumn
  obtain rfl := of_afterWord hfirst
  obtain rfl := of_afterWord hsecond
  obtain rfl := of_afterWord hthird
  exact ⟨line, column, s₅, hnumeral, hnumeral', rfl⟩

/-- **A path without a colon and a space in a row has no position in it**: behind a part of it, only
what stands behind the whole can be read. -/
theorem behindPath?_eq_none (hq : q ≠ []) (hplain : ¬ [':', ' '] <:+: q) (hL : Numeral L)
    (hC : Numeral C) : behindPath? (q ++ ':' :: (L ++ ':' :: (C ++ X))) = none := by
  rw [Option.eq_none_iff_forall_ne_some]
  intro v hv
  obtain ⟨line, column, r, hline, hcolumn, heq⟩ := exists_position hv
  obtain ⟨c, q, rfl⟩ := List.exists_cons_of_ne_nil hq
  obtain ⟨rfl, htail⟩ := List.cons.inj heq
  have hcolon : isDecimal ':' = false := by decide
  -- The colons of a position are met one after another: each is in the part of the path, or it is
  -- one of those behind the path, which leave no room for the space at the end.
  rcases cut_at_colon (hline.notMem hcolon) htail with ⟨-, hbehind⟩ | ⟨v₁, rfl, hbehind⟩
  · rcases cut_at_colon (hcolumn.notMem hcolon) hbehind with ⟨-, hspace⟩ | ⟨v₂, rfl, -⟩
    · exact hC.append_ne_space hspace
    · exact hL.notMem hcolon (List.mem_append_right column List.mem_cons_self)
  · rcases cut_at_colon (hcolumn.notMem hcolon) hbehind.symm with ⟨-, hspace⟩ | ⟨v₂, rfl, hspace⟩
    · exact hL.append_ne_space hspace
    · cases v₂ with
      | nil => exact absurd (List.cons.inj hspace).1 (by decide)
      | cons d v₂ =>
        obtain ⟨rfl, -⟩ := List.cons.inj hspace
        refine hplain ⟨':' :: line ++ ':' :: column, v₂, ?_⟩
        simp only [List.append_assoc, List.cons_append, List.nil_append]

end CompilerLine

/-! ## 2. Findings as compilers write them -/

/-- **The compilers' words for a severity.** -/
inductive CompilerWord
  | fatalError
  | error
  | warning
  | note
  deriving DecidableEq

namespace CompilerWord

def text : CompilerWord → String
  | fatalError => "fatal error"
  | error => "error"
  | warning => "warning"
  | note => "note"

/-- What the word says; a note is information. -/
def severity : CompilerWord → Severity
  | fatalError => .error
  | error => .error
  | warning => .warning
  | note => .info

theorem oneOf_text (w : CompilerWord) (r : List Char) :
    oneOf CompilerLine.severities (w.text.toList ++ r) = some (w.text, r) := by
  cases w <;> rfl

theorem ofLabel_text (w : CompilerWord) : Severity.ofLabel w.text = w.severity := by
  cases w <;> decide

theorem unbroken_text (w : CompilerWord) : Unbroken w.text.toList := by
  cases w <;> decide

end CompilerWord

/-- **A finding as compilers write it.** -/
structure CompilerFinding where
  path : List Char
  line : Position
  column : Position
  word : CompilerWord
  code : Option (List Char)
  message : List Char

namespace CompilerFinding

variable {f : CompilerFinding}

/-- A code in brackets, if there is one. -/
def codeText : Option (List Char) → List Char
  | none => []
  | some code => '[' :: (code ++ [']'])

/-- What stands behind the path. -/
def behindPath (f : CompilerFinding) : List Char :=
  ':' :: (f.line.digits ++ ':' :: (f.column.digits ++ (": ".toList ++ (f.word.text.toList ++
    (codeText f.code ++ (": ".toList ++ f.message))))))

/-- **The line of the finding**, `path:line:column: severity[code]: message`. -/
def text (f : CompilerFinding) : List Char := f.path ++ f.behindPath

/-- What the line says. -/
def diagnostic (f : CompilerFinding) : Diagnostic :=
  ⟨f.line, f.column, f.word.severity, String.ofList f.message, f.code.map String.ofList⟩

/-- **Findings that can be told from their line.**  The path starts with something that can be seen
and has no colon and space in a row, the numbers are not too long, a code says something and does
not end itself, and the message is there and trimmed. -/
structure Sound (f : CompilerFinding) : Prop where
  path_start : ∃ c ∈ f.path.head?, isBlank c = false
  path_plain : ¬ [':', ' '] <:+: f.path
  line : Short f.line.digits
  column : Short f.column.digits
  code : ∀ code ∈ f.code, code ≠ [] ∧ ']' ∉ code
  message : f.message ≠ []
  trimmed : trim f.message = f.message
  path_unbroken : Unbroken f.path
  code_unbroken : ∀ code ∈ f.code, Unbroken code
  message_unbroken : Unbroken f.message

theorem codeIn_text (h : f.Sound) :
    CompilerLine.codeIn (codeText f.code ++ (": ".toList ++ f.message)) =
      (f.code, ": ".toList ++ f.message) := by
  cases hcode : f.code with
  | none => rfl
  | some code =>
    obtain ⟨hne, hbracket⟩ := h.code code hcode
    have hrun : run? (· != ']') (code ++ ']' :: (": ".toList ++ f.message)) =
        some (code, ']' :: (": ".toList ++ f.message)) :=
      run?_before hne (bne_of_not_mem hbracket) "]" (by decide) _
    rw [codeText, List.cons_append, List.append_assoc, List.singleton_append]
    simp only [CompilerLine.codeIn, hrun]

/-- What stands behind the path is read back. -/
theorem behindPath?_behindPath (h : f.Sound) :
    CompilerLine.behindPath? f.behindPath =
      some (f.line.digits, f.column.digits, f.word.text, f.code, f.message) := by
  have hline : ∀ r, digits? (f.line.digits ++ ':' :: r) = some (f.line.digits, ':' :: r) :=
    digits?_before f.line.numeral_digits ":" (by decide)
  have hcolumn := digits?_before f.column.numeral_digits ": " (by decide)
  have hcolon : ∀ r, afterWord ":" (':' :: r) = some r := afterWord_append ":"
  rw [CompilerLine.behindPath?, behindPath]
  simp only [hcolon, hline, hcolumn, afterWord_append, CompilerWord.oneOf_text, codeIn_text h,
    nonEmpty?, if_neg h.message, Option.bind_eq_bind, Option.bind_some, Option.pure_def]

theorem path_ne_nil (h : f.Sound) : f.path ≠ [] := by
  obtain ⟨c, hc, -⟩ := h.path_start
  rintro hnil
  rw [hnil] at hc
  cases hc

/-- **The line of a finding is taken apart as it was put together.** -/
theorem ofLine?_text (h : f.Sound) :
    CompilerLine.ofLine? f.text =
      some ⟨f.path, f.line.digits, f.column.digits, f.word.text, f.code, f.message⟩ := by
  have hsplit : shortest CompilerLine.behindPath? f.text =
      some (f.path, f.line.digits, f.column.digits, f.word.text, f.code, f.message) := by
    refine shortest_append (path_ne_nil h) (behindPath?_behindPath h) fun before q hpath _ hq => ?_
    refine CompilerLine.behindPath?_eq_none hq (fun hinner => ?_) f.line.numeral_digits
      f.column.numeral_digits
    exact h.path_plain (hinner.trans ⟨before, [], by rw [List.append_nil, hpath]⟩)
  rw [CompilerLine.ofLine?, hsplit]
  rfl

/-- A finding's line is trimmed. -/
theorem trim_text (h : f.Sound) : trim f.text = f.text := by
  refine trim_of_firm (fun c hc => ?_) fun c hc => ?_
  · obtain ⟨d, hd, hfirm⟩ := h.path_start
    rw [text, List.head?_append_of_ne_nil _ (path_ne_nil h), hd] at hc
    exact Option.some.inj hc ▸ hfirm
  · simp only [text, behindPath, ← List.append_assoc, ← List.cons_append] at hc
    exact endsFirm_append h.message h.trimmed c hc

/-- **A finding's line says what it is to say.** -/
theorem diagnostic_ofLine (h : f.Sound) :
    CompilerLine.diagnostic
        ⟨f.path, f.line.digits, f.column.digits, f.word.text, f.code, f.message⟩ =
      .ok f.diagnostic := by
  rw [CompilerLine.diagnostic, Position.ofDigits_digits h.line, Position.ofDigits_digits h.column]
  dsimp only
  rw [h.trimmed, CompilerWord.ofLabel_text]
  rfl

theorem unbroken_text (h : f.Sound) : Unbroken f.text := by
  have hcode : Unbroken (codeText f.code) := by
    cases hcode : f.code with
    | none => exact nofun
    | some code =>
      refine unbroken_cons_iff.mpr ⟨by decide, unbroken_append_iff.mpr ⟨?_, by decide⟩⟩
      exact h.code_unbroken code hcode
  have hfixed : isLineBreak ':' = false ∧ Unbroken ": ".toList := by decide
  simp only [text, behindPath, unbroken_append_iff, unbroken_cons_iff, hfixed, hcode,
    f.line.numeral_digits.unbroken, f.column.numeral_digits.unbroken, f.word.unbroken_text,
    h.path_unbroken, h.message_unbroken, and_self]

end CompilerFinding

/-! ## 3. Output -/

/-- **A line of a compiler's output**: a finding, or something else. -/
inductive CompilerItem
  | finding (f : CompilerFinding)
  | noise (line : List Char)

namespace CompilerItem

def text : CompilerItem → List Char
  | finding f => f.text
  | noise line => line

/-- The finding on the line, if there is one. -/
def finding? : CompilerItem → Option CompilerFinding
  | finding f => some f
  | noise _ => none

/-- **Lines that are what they are meant to be**: findings that can be told from their line, and
other lines that are no compiler lines. -/
def Sound : CompilerItem → Prop
  | finding f => f.Sound
  | noise line => Unbroken line ∧ CompilerLine.ofLine? (trim line) = none

variable {item : CompilerItem}

theorem unbroken_text (h : item.Sound) : Unbroken item.text := by
  cases item with
  | finding f => exact CompilerFinding.unbroken_text h
  | noise line => exact h.1

/-- What a line is read as. -/
theorem ofLine?_text (h : item.Sound) :
    CompilerLine.ofLine? (trim item.text) = item.finding?.map fun f =>
      ⟨f.path, f.line.digits, f.column.digits, f.word.text, f.code, f.message⟩ := by
  cases item with
  | finding f =>
    have htrim : trim (finding f).text = f.text := CompilerFinding.trim_text h
    rw [htrim]
    exact CompilerFinding.ofLine?_text h
  | noise line => exact h.2

theorem sound_of_finding? {f : CompilerFinding} (h : item.Sound) (hf : item.finding? = some f) :
    f.Sound := by
  cases item with
  | finding f' => exact Option.some.inj hf ▸ h
  | noise line => cases hf

end CompilerItem

namespace Output

/-- **The findings among the lines of the streams are read back**, in order and with nothing
changed. -/
theorem compiler_items {streams : List (List CompilerItem)}
    (h : ∀ items ∈ streams, ∀ item ∈ items, item.Sound) :
    compiler (streams.map fun items =>
        String.ofList (['\n'].intercalate (items.map CompilerItem.text))) =
      .ok ((streams.flatten.filterMap CompilerItem.finding?).map CompilerFinding.diagnostic) := by
  have hsound : ∀ item ∈ streams.flatten, item.Sound := by
    intro item hitem
    obtain ⟨items, hitems, hmem⟩ := List.mem_flatten.mp hitem
    exact h items hitems item hmem
  have hunbroken : ∀ ls ∈ streams.map (·.map CompilerItem.text), ∀ l ∈ ls, Unbroken l := by
    simp only [List.forall_mem_map]
    exact fun items hitems item hitem => CompilerItem.unbroken_text (h items hitems item hitem)
  have hlines : (outputLines (streams.map fun items =>
        String.ofList (['\n'].intercalate (items.map CompilerItem.text)))).filterMap
        (fun l => CompilerLine.ofLine? (trim l)) =
      (streams.flatten.filterMap CompilerItem.finding?).map fun f =>
        ⟨f.path, f.line.digits, f.column.digits, f.word.text, f.code, f.message⟩ := by
    have hread := filterMap_outputLines (f := CompilerLine.ofLine?) rfl hunbroken
    rw [List.map_map] at hread
    rw [List.map_filterMap]
    refine hread.trans ?_
    rw [← List.map_flatten, List.filterMap_map]
    exact List.filterMap_congr fun item hitem => CompilerItem.ofLine?_text (hsound item hitem)
  rw [compiler, hlines, mapM_eq_ok_iff, List.forall₂_map_left_iff, List.forall₂_map_right_iff,
    List.forall₂_same]
  intro f hf
  obtain ⟨item, hitem, hfound⟩ := List.mem_filterMap.mp hf
  have hf : f.Sound := CompilerItem.sound_of_finding? (hsound item hitem) hfound
  exact CompilerFinding.diagnostic_ofLine hf

/-- A finding in a file whose name looks like a position, with a position in its message. -/
def colonFinding : CompilerFinding where
  path := ['a', ':', '1', ':', '2', '.', 'c']
  line := .ofNat 3
  column := .ofNat 14
  word := .fatalError
  code := some ['E', '1']
  message := ['b', ':', '5', ':', '6', ':', ' ', 'n', 'o', 't', 'e', ':', ' ', 'c']

/-- A note without a code. -/
def noteFinding : CompilerFinding where
  path := ['b']
  line := .ofNat 5
  column := .ofNat 6
  word := .note
  code := none
  message := ['h', 'e', 'r', 'e']

theorem sound_colonFinding : colonFinding.Sound where
  path_start := ⟨'a', rfl, by decide⟩
  path_plain := by decide
  line := by decide
  column := by decide
  code code hcode := by
    obtain rfl := Option.some.inj hcode
    exact ⟨by decide, by decide⟩
  message := by decide
  trimmed := by decide
  path_unbroken := by decide
  code_unbroken code hcode := by
    obtain rfl := Option.some.inj hcode
    decide
  message_unbroken := by decide

theorem sound_noteFinding : noteFinding.Sound where
  path_start := ⟨'b', rfl, by decide⟩
  path_plain := by decide
  line := by decide
  column := by decide
  code := nofun
  message := by decide
  trimmed := by decide
  path_unbroken := by decide
  code_unbroken := nofun
  message_unbroken := by decide

theorem compiler_items_noise :
    (∀ items ∈ [[CompilerItem.finding colonFinding, .noise ['^'], .finding noteFinding]],
      ∀ item ∈ items, item.Sound) ∧
    compiler ([[CompilerItem.finding colonFinding, .noise ['^'], .finding noteFinding]].map
        fun items => String.ofList (['\n'].intercalate (items.map CompilerItem.text))) =
      .ok [colonFinding.diagnostic, noteFinding.diagnostic] := by
  have hsound : ∀ items ∈ [[CompilerItem.finding colonFinding, .noise ['^'], .finding noteFinding]],
      ∀ item ∈ items, item.Sound := by
    rw [List.forall_mem_singleton, List.forall_mem_cons, List.forall_mem_cons,
      List.forall_mem_singleton]
    exact ⟨sound_colonFinding, ⟨by decide, by decide⟩, sound_noteFinding⟩
  exact ⟨hsound, compiler_items hsound⟩

end Output

end SourceCheck

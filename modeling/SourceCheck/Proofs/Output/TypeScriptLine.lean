import SourceCheck.Output.TypeScript
import SourceCheck.Proofs.Output.Written

/-!
# The first line of a finding of the TypeScript compiler

The reader takes a line apart from the left: the path ends at the first parenthesis, and what
follows it is tied down part by part.  So a line that the compiler writes is taken apart as it was
put together if its path holds no parenthesis; and of any line that is taken apart, the parentheses
but the first are in the message.

* `TypeScriptHeader.Parts`: what a line comes to that is taken apart.
* `TypeScriptLine`: a line as the compiler writes it.
* `TypeScriptLine.ofLine?_text`: it is taken apart as it was put together.
* `TypeScriptHeader.count_parens`: parentheses are in the message.
-/

namespace SourceCheck

open Text

variable {s r message path : List Char} {h : TypeScriptHeader}

/-! ## 1. Lines that are taken apart -/

namespace TypeScriptHeader

/-- **What a line comes to that is taken apart**: the parts of its header, with a message that has
yet to be trimmed. -/
structure Parts (s : List Char) (h : TypeScriptHeader) (behindPosition behindWord : List Char)
    (message : List Char) : Prop where
  line : s = h.path ++ ("(".toList ++ (h.line ++ (",".toList ++ (h.column ++
    ("):".toList ++ behindPosition)))))
  word : trimLeft behindPosition = h.severity.toList ++ behindWord
  rest : codeAndMessage? behindWord = some (h.code, message)
  path_parens : '(' ∉ h.path
  numeral_line : Numeral h.line
  numeral_column : Numeral h.column
  severity : h.severity ∈ severities
  message : h.message = trim message

theorem exists_parts (hs : ofLine? s = some h) :
    ∃ behindPosition behindWord message, Parts s h behindPosition behindWord message := by
  rw [ofLine?] at hs
  simp only [Option.bind_eq_bind, Option.pure_def, Option.bind_eq_some_iff, Prod.exists] at hs
  obtain ⟨path, s₁, hpath, s₂, hopen, line, s₃, hline, s₄, hcomma, column, s₅, hcolumn, s₆, hclose,
    severity, s₇, hseverity, code, message, hrest, hh⟩ := hs
  cases hh
  have hparens : '(' ∉ path := by
    intro hmem
    rw [run?] at hpath
    split at hpath
    · cases hpath
    · obtain ⟨rfl, -⟩ := Prod.mk.inj (Option.some.inj hpath)
      exact absurd (List.mem_takeWhile_imp hmem) (by decide)
  have hseverity' := of_oneOf hseverity
  obtain ⟨hline', hnumeral⟩ := numeral_of_digits? hline
  obtain ⟨hcolumn', hnumeral'⟩ := numeral_of_digits? hcolumn
  refine ⟨s₆, s₇, message, ?_, hseverity'.2, hrest, hparens, hnumeral, hnumeral', hseverity'.1, rfl⟩
  rw [run?_eq_some_append hpath, of_afterWord hopen, hline', of_afterWord hcomma, hcolumn',
    of_afterWord hclose]

theorem severity_of_ofLine? (hs : ofLine? s = some h) : h.severity ∈ severities := by
  obtain ⟨_, _, _, hparts⟩ := exists_parts hs
  exact hparts.severity

/-- The message of a header is trimmed already. -/
theorem trim_message (hs : ofLine? s = some h) : trim h.message = h.message := by
  obtain ⟨_, _, message, hparts⟩ := exists_parts hs
  rw [hparts.message, trim_trim]

/-! ## 2. Parentheses -/

theorem count_paren_eq_zero (hs : ∀ c ∈ s, isBlank c = true) : s.count '(' = 0 :=
  List.count_eq_zero.mpr fun hmem => absurd (hs _ hmem) (by decide)

theorem count_paren_trimLeft (s : List Char) : (trimLeft s).count '(' = s.count '(' := by
  have hblank : (s.takeWhile isBlank).count '(' = 0 :=
    count_paren_eq_zero fun c hc => List.mem_takeWhile_imp hc
  conv_rhs => rw [← List.takeWhile_append_dropWhile (p := isBlank) (l := s), List.count_append,
    hblank, Nat.zero_add]
  rfl

theorem count_paren_trim (s : List Char) : (trim s).count '(' = s.count '(' := by
  obtain ⟨pre, post, hs, hpre, hpost⟩ := exists_trim s
  conv_rhs => rw [hs, List.count_append, List.count_append, count_paren_eq_zero hpre,
    count_paren_eq_zero hpost, Nat.zero_add, Nat.add_zero]

theorem count_paren_messageIn? (hs : messageIn? s = some message) :
    message.count '(' = s.count '(' := by
  rw [messageIn?] at hs
  rw [← count_paren_trimLeft s]
  split at hs
  · cases hs
  · rename_i rest hrest
    obtain rfl := Option.some.inj hs
    rw [hrest]
    split
    · rfl
    · rw [count_paren_trimLeft, List.count_cons_of_ne (by decide)]
  · rename_i hnil hcolon
    obtain rfl := Option.some.inj hs
    rfl

theorem count_paren_codeOf? {digits code : List Char} {n : Nat} (hdigits : Numeral digits)
    (hs : codeOf? digits r n = some (code, message)) : message.count '(' = r.count '(' := by
  induction n with
  | zero => cases hs
  | succ n ih =>
    rw [codeOf?] at hs
    split at hs
    · rename_i found hfound
      obtain ⟨-, rfl⟩ := Prod.mk.inj (Option.some.inj hs)
      have hdropped : (digits.drop (n + 1)).count '(' = 0 :=
        List.count_eq_zero.mpr fun hmem =>
          hdigits.notMem (by decide) (List.mem_of_mem_drop hmem)
      rw [count_paren_messageIn? hfound, List.count_append, hdropped, Nat.zero_add]
    · exact ih hs

theorem count_paren_codeAndMessage? {code : Option (List Char)}
    (hs : codeAndMessage? s = some (code, message)) : message.count '(' = s.count '(' := by
  rw [← count_paren_trimLeft s]
  rw [codeAndMessage?] at hs
  dsimp only at hs
  split at hs
  · rename_i code' message' hcode
    obtain ⟨-, rfl⟩ := Prod.mk.inj (Option.some.inj hs)
    simp only [Option.bind_eq_bind, Option.bind_eq_some_iff, Prod.exists] at hcode
    obtain ⟨rest, hafter, digits, rest', hdigits, hcode⟩ := hcode
    obtain ⟨hrest, hnumeral⟩ := numeral_of_digits? hdigits
    have hzero : digits.count '(' = 0 := List.count_eq_zero.mpr (hnumeral.notMem (by decide))
    rw [count_paren_codeOf? hnumeral hcode, of_afterWord hafter, hrest, List.count_append,
      List.count_append, hzero, Nat.zero_add]
    exact (Nat.zero_add _).symm
  · obtain ⟨message', hmessage, heq⟩ := Option.map_eq_some_iff.mp hs
    obtain ⟨-, rfl⟩ := Prod.mk.inj heq
    exact count_paren_messageIn? hmessage

/-- **The parentheses but the first are in the message.** -/
theorem count_parens (hs : ofLine? s = some h) : s.count '(' = 1 + h.message.count '(' := by
  obtain ⟨behindPosition, behindWord, message, hparts⟩ := exists_parts hs
  have hpath : h.path.count '(' = 0 := List.count_eq_zero.mpr hparts.path_parens
  have hline : h.line.count '(' = 0 :=
    List.count_eq_zero.mpr (hparts.numeral_line.notMem (by decide))
  have hcolumn : h.column.count '(' = 0 :=
    List.count_eq_zero.mpr (hparts.numeral_column.notMem (by decide))
  have hword : h.severity.toList.count '(' = 0 := by
    have hall : ∀ w ∈ severities, w.toList.count '(' = 0 := by decide
    exact hall _ hparts.severity
  have hbehind : behindPosition.count '(' = message.count '(' := by
    rw [← count_paren_trimLeft behindPosition, hparts.word, List.count_append, hword, Nat.zero_add,
      count_paren_codeAndMessage? hparts.rest]
  rw [hparts.message, count_paren_trim, ← hbehind, hparts.line]
  simp only [List.count_append, hpath, hline, hcolumn]
  have hmarks : "(".toList.count '(' = 1 ∧ ",".toList.count '(' = 0 ∧
      "):".toList.count '(' = 0 := by
    decide
  omega

end TypeScriptHeader

/-! ## 3. Lines that are put together -/

/-- **The compiler's words for a severity.** -/
inductive TypeScriptWord
  | error
  | warning
  | plain
  deriving DecidableEq

namespace TypeScriptWord

def text : TypeScriptWord → String
  | error => "error"
  | warning => "warning"
  | plain => "message"

/-- What the word says; a plain message is information. -/
def severity : TypeScriptWord → Severity
  | error => .error
  | warning => .warning
  | plain => .info

theorem oneOf_text (w : TypeScriptWord) (r : List Char) :
    oneOf TypeScriptHeader.severities (trimLeft (' ' :: (w.text.toList ++ r))) =
      some (w.text, r) := by
  cases w <;> rfl

theorem word_severity (w : TypeScriptWord) :
    w.severity.word = if w.text = "message" then "info" else w.text := by
  cases w <;> decide

theorem unbroken_text (w : TypeScriptWord) : Unbroken w.text.toList := by
  cases w <;> decide

end TypeScriptWord

/-- **A line as the compiler writes it.**  Its code is `TS` with the digits given here. -/
structure TypeScriptLine where
  path : List Char
  line : List Char
  column : List Char
  word : TypeScriptWord
  code : List Char
  message : List Char

namespace TypeScriptLine

variable {l : TypeScriptLine}

/-- **The text of the line.** -/
def text (l : TypeScriptLine) : List Char :=
  l.path ++ ("(".toList ++ (l.line ++ (",".toList ++ (l.column ++ ("):".toList ++
    (' ' :: (l.word.text.toList ++ (' ' :: ("TS".toList ++ (l.code ++
      (": ".toList ++ l.message)))))))))))

/-- The header that the text stands for. -/
def header (l : TypeScriptLine) : TypeScriptHeader :=
  ⟨l.path, l.line, l.column, l.word.text, some ('T' :: 'S' :: l.code), l.message⟩

/-- **Lines that say something**: with a path, numbers and a trimmed message. -/
structure Sound (l : TypeScriptLine) : Prop where
  path : l.path ≠ []
  line : Numeral l.line
  column : Numeral l.column
  code : Numeral l.code
  message : l.message ≠ []
  trimmed : trim l.message = l.message

theorem messageIn?_of_trimmed (hne : message ≠ []) (htrim : trim message = message) :
    TypeScriptHeader.messageIn? (": ".toList ++ message) = some message := by
  obtain ⟨c, cs, hcons, hfirm⟩ := exists_cons_of_trimmed hne htrim
  have hleft : trimLeft (' ' :: message) = message := by
    rw [trimLeft, List.dropWhile_cons_of_pos (by decide), hcons]
    exact List.dropWhile_cons_of_neg (by simp [hfirm])
  change some (if trimLeft (' ' :: message) = [] then ':' :: ' ' :: message
    else trimLeft (' ' :: message)) = some message
  rw [hleft, if_neg hne]

theorem codeAndMessage?_text (h : l.Sound) :
    TypeScriptHeader.codeAndMessage?
        (' ' :: ("TS".toList ++ (l.code ++ (": ".toList ++ l.message)))) =
      some (some ('T' :: 'S' :: l.code), l.message) := by
  have hleft : trimLeft (' ' :: ("TS".toList ++ (l.code ++ (": ".toList ++ l.message)))) =
      "TS".toList ++ (l.code ++ (": ".toList ++ l.message)) := rfl
  have hdigits := digits?_before h.code ": " (by decide) l.message
  have hcode : TypeScriptHeader.codeOf? l.code (": ".toList ++ l.message) l.code.length =
      some ('T' :: 'S' :: l.code, l.message) := by
    obtain ⟨n, hn⟩ := Nat.exists_eq_add_one.mpr (List.length_pos_iff.mpr h.code.1)
    rw [hn, TypeScriptHeader.codeOf?, ← hn, List.drop_length, List.nil_append, List.take_length,
      messageIn?_of_trimmed h.message h.trimmed]
  rw [TypeScriptHeader.codeAndMessage?, hleft]
  simp only [afterWord_append, hdigits, hcode, Option.bind_eq_bind, Option.bind_some]

/-- **A line is taken apart as it was put together** if its path holds no parenthesis. -/
theorem ofLine?_text (h : l.Sound) (hpath : '(' ∉ l.path) :
    TypeScriptHeader.ofLine? l.text = some l.header := by
  have hrun := run?_before h.path (bne_of_not_mem hpath) "(" (by decide)
  have hline := digits?_before h.line "," (by decide)
  have hcolumn := digits?_before h.column "):" (by decide)
  rw [TypeScriptHeader.ofLine?, text]
  simp only [hrun, afterWord_append, hline, hcolumn, TypeScriptWord.oneOf_text,
    codeAndMessage?_text h, h.trimmed, Option.bind_eq_bind, Option.bind_some, Option.pure_def]
  rfl

/-! ## 4. Lines that stand alone -/

/-- **A line that is the whole output** is its only line. -/
theorem outputLines_text (h : l.Sound) (hpath : Unbroken l.path) (hmessage : Unbroken l.message) :
    outputLines [String.ofList l.text, ""] = [l.text] := by
  have hfixed : Unbroken "(".toList ∧ Unbroken ",".toList ∧ Unbroken "):".toList ∧
      Unbroken "TS".toList ∧ Unbroken ": ".toList ∧ isLineBreak ' ' = false := by decide
  have hunbroken : Unbroken l.text := by
    simp only [text, unbroken_append_iff, unbroken_cons_iff, hfixed, h.line.unbroken,
      h.column.unbroken, h.code.unbroken, l.word.unbroken_text, hpath, hmessage, and_self]
  have hfirm : EndsFirm l.text := by
    simp only [text, ← List.append_assoc, ← List.cons_append]
    exact endsFirm_append h.message h.trimmed
  have hne : l.text ≠ [] := by
    rw [text]
    exact List.append_ne_nil_of_left_ne_nil h.path _
  rw [outputLines, List.flatMap_cons, String.toList_ofList, lines_of_no_break hne hunbroken,
    List.map_singleton, trimRight_of_firm hfirm]
  rfl

end TypeScriptLine

end SourceCheck

import SourceCheck.Proofs.Output.Carets

/-!
# Blocks with carets that are read back

The Java compiler and version 2 of the Scala compiler write a finding as a block: a first line with
a path, a line number, a severity and a text, perhaps some lines that go on with the text, the
source line, and carets below the column of the finding.  What a reader makes of the lines behind
the first depends on where the carets are, which it looks for in five lines.  Up to three lines in
front of the source line leave the carets in its reach.

* `JvmTool`: the two compilers, and what their readers have in common.
* `CaretBlock`, `CaretBlock.Sound`, `CaretBlock.Clear`: blocks as the compilers write them.
* `CaretBlock.header?_header`: their first lines are taken apart as they were put together.
* `CaretBlock.below?_behind`: their carets are found.
* `Output.caret_blocks`: the blocks of some output are read back, in order.
-/

namespace SourceCheck

open Text

/-! ## 1. The compilers -/

/-- **The compilers that write carets below the source line.** -/
inductive JvmTool
  | java
  | scala
  deriving DecidableEq

namespace JvmTool

/-- The suffixes of source files. -/
def suffixes : JvmTool → List String
  | java => [".java"]
  | scala => [".scala", ".sc"]

/-- The words for a severity. -/
def severities : JvmTool → List String
  | java => ["error", "warning", "note"]
  | scala => ["error", "warning", "info"]

/-- The first line of a block with carets, if it is one. -/
def header? (t : JvmTool) (l : List Char) : Option LocatedLine :=
  LocatedLine.ofLine? t.suffixes t.severities l

/-- The finding that starts at a line, if one does. -/
def find? : JvmTool → List Char → List (List Char) → Option (Except Fault Diagnostic)
  | java => Javac.find?
  | scala => Scala.finding?

def findings : JvmTool → List (List Char) → Except Fault (List Diagnostic)
  | java => Javac.findings
  | scala => Scala.findings

/-- **What the compiler's output is read as.** -/
def output : JvmTool → List String → Except Fault (List Diagnostic)
  | java => Output.javac
  | scala => Output.scala

/-- Whether a finding starts at the line, in any version of the compiler. -/
def isHeader (t : JvmTool) (l : List Char) : Bool :=
  (t.header? l).isSome || (t == scala && (Scala.header3? l).isSome)

variable {t : JvmTool} {l : List Char}

theorem looksAhead (t : JvmTool) : LooksAhead t.find? t.findings := by
  cases t with
  | java => exact Javac.looksAhead
  | scala => exact Scala.looksAhead

theorem output_eq (t : JvmTool) (streams : List String) :
    t.output streams = t.findings (outputLines streams) := by
  cases t <;> rfl

/-- At a line that is no first line there is no finding, whatever follows. -/
theorem find?_eq_none (h : t.isHeader l = false) (rest : List (List Char)) :
    t.find? l rest = none := by
  obtain ⟨htwo, hthree⟩ := Bool.or_eq_false_iff.mp h
  have hheader : t.header? l = none :=
    Option.isNone_iff_eq_none.mp (Option.isSome_eq_false_iff.mp htwo)
  cases t with
  | java => exact Option.map_eq_none_iff.mpr hheader
  | scala =>
    have hthree : Scala.header3? l = none :=
      Option.isNone_iff_eq_none.mp (Option.isSome_eq_false_iff.mp hthree)
    rw [find?, Scala.finding?, hthree]
    exact Option.map_eq_none_iff.mpr hheader

/-- A suffix starts with its only dot and has no colon. -/
theorem suffix_shape (t : JvmTool) :
    ∀ suffix ∈ t.suffixes, ∃ s, suffix.toList = '.' :: s ∧ '.' ∉ s ∧ ':' ∉ suffix.toList := by
  cases t with
  | java => exact List.forall_mem_singleton.mpr ⟨_, rfl, by decide, by decide⟩
  | scala =>
    refine List.forall_mem_cons.mpr ⟨⟨_, rfl, by decide, by decide⟩, ?_⟩
    exact List.forall_mem_singleton.mpr ⟨_, rfl, by decide, by decide⟩

theorem oneOf_suffix {suffix : String} (h : suffix ∈ t.suffixes) (r : List Char) :
    oneOf t.suffixes (suffix.toList ++ ':' :: r) = some (suffix, ':' :: r) := by
  cases t with
  | java =>
    obtain rfl := List.mem_singleton.mp h
    rfl
  | scala =>
    rcases List.mem_cons.mp h with rfl | h
    · rfl
    · obtain rfl := List.mem_singleton.mp h
      rfl

end JvmTool

/-- **The compilers' words for a severity.** -/
inductive CaretWord
  | error
  | warning
  | note
  | info
  deriving DecidableEq

namespace CaretWord

def text : CaretWord → String
  | error => "error"
  | warning => "warning"
  | note => "note"
  | info => "info"

/-- What the word says; a note is information. -/
def severity : CaretWord → Severity
  | error => .error
  | warning => .warning
  | note => .info
  | info => .info

theorem ofLabel_text (w : CaretWord) : Severity.ofLabel w.text = w.severity := by
  cases w <;> decide

theorem oneOf_text {t : JvmTool} {w : CaretWord} (h : w.text ∈ t.severities) (r : List Char) :
    oneOf t.severities (w.text.toList ++ r) = some (w.text, r) := by
  cases t <;> cases w <;> first | rfl | exact absurd h (by decide)

end CaretWord

/-! ## 2. Blocks as the compilers write them -/

/-- **A finding as the compilers write it**: the parts of its first line, lines that go on with the
text, the source line, one caret and more of them, and lines behind these. -/
structure CaretBlock where
  path : List Char
  line : Position
  column : Position
  word : CaretWord
  code : Option (List Char)
  message : List Char
  details : List (List Char)
  source : List Char
  carets : Nat
  trailing : List (List Char)

namespace CaretBlock

/-- The text of the first line: the message, perhaps behind a code in brackets. -/
def text (b : CaretBlock) : List Char :=
  match b.code with
  | none => b.message
  | some code => '[' :: (code ++ ("] ".toList ++ b.message))

/-- What stands behind the path. -/
def behindPath (b : CaretBlock) : List Char :=
  ':' :: (b.line.digits ++ (": ".toList ++ (b.word.text.toList ++ (": ".toList ++ b.text))))

/-- **The first line**, `path:line: severity: text`. -/
def header (b : CaretBlock) : List Char := b.path ++ b.behindPath

/-- The line of carets, the first of which is in the column. -/
def caretLine (b : CaretBlock) : List Char :=
  List.replicate (b.column.value - 1) ' ' ++ List.replicate (b.carets + 1) '^'

/-- The lines behind the first one. -/
def behind (b : CaretBlock) : List (List Char) :=
  b.details ++ b.source :: b.caretLine :: b.trailing

def lines (b : CaretBlock) : List (List Char) := b.header :: b.behind

/-- **What the block says.**  Java has a code in front of the message, if one is there; with Scala
the message goes on in the lines above the source line. -/
def diagnostic (t : JvmTool) (b : CaretBlock) : Diagnostic :=
  match t with
  | .java => ⟨b.line, b.column, b.word.severity, String.ofList b.message, b.code.map String.ofList⟩
  | .scala => ⟨b.line, b.column, b.word.severity, String.ofList
      ([' '].intercalate (b.text :: (b.details.map trim).filter (· != []))), none⟩

/-- **Blocks that can be told from their lines.**  The path is that of a source file, has no colon
and space in a row and starts with no dash; the word is one of the compiler's; the line number is
not too long; the message is there and trimmed, a code is one that can be read, and with Java a
message without a code does not look like one that has one; there are at most three lines that go on
with it; no other line is the first one of a block. -/
structure Sound (t : JvmTool) (b : CaretBlock) : Prop where
  suffix : ∃ suffix ∈ t.suffixes, suffix.toList <:+ b.path
  plain : ¬ [':', ' '] <:+: b.path
  start : b.path.head? ≠ some '-'
  word : b.word.text ∈ t.severities
  line : Short b.line.digits
  message : b.message ≠ []
  trimmed : trim b.message = b.message
  code : ∀ code ∈ b.code, code ≠ [] ∧ ∀ c ∈ code, Javac.isCodeChar c = true
  uncoded : t = .java → b.code = none → Javac.lint? b.message = none
  few : b.details.length ≤ 3
  others : ∀ l ∈ b.details ++ b.source :: b.trailing, t.isHeader (trimRight l) = false

/-- **Blocks in which nothing hides what is read.**  There is something in front of the suffix, and
neither the source line nor the lines above it are carets, with or without white space around
them. -/
structure Clear (t : JvmTool) (b : CaretBlock) : Prop where
  stem : ∀ suffix ∈ t.suffixes, suffix.toList ≠ b.path
  source : ∀ l ∈ b.details ++ [b.source], Caret.isCarets (trim l) = false

end CaretBlock

/-! ## 3. First lines -/

namespace JvmTool

variable {t : JvmTool} {s q U X L : List Char} {suffix : String}

/-- What can be read behind a stem starts with a suffix and a number. -/
theorem exists_number {suffixes severities : List String} {v}
    (h : LocatedLine.behindPath? suffixes severities s = some v) :
    ∃ suffix ∈ suffixes, ∃ line r, Numeral line ∧
      s = suffix.toList ++ ':' :: (line ++ ':' :: ' ' :: r) := by
  rw [LocatedLine.behindPath?] at h
  simp only [Option.bind_eq_bind, Option.bind_eq_some_iff, Prod.exists] at h
  obtain ⟨suffix, s₁, hsuffix, s₂, hfirst, line, s₃, hline, s₄, hsecond, -⟩ := h
  obtain ⟨hmem, rfl⟩ := of_oneOf hsuffix
  obtain ⟨rfl, hnumeral⟩ := numeral_of_digits? hline
  obtain rfl := of_afterWord hfirst
  obtain rfl := of_afterWord hsecond
  exact ⟨suffix, hmem, line, s₄, hnumeral, rfl⟩

/-- There is a colon in a first line. -/
theorem colon_mem_of_header? (h : (t.header? s).isSome) : ':' ∈ s := by
  obtain ⟨l, hl⟩ := Option.isSome_iff_exists.mp h
  rw [header?, LocatedLine.ofLine?] at hl
  obtain ⟨⟨stem, v⟩, hsplit, -⟩ := Option.map_eq_some_iff.mp hl
  obtain ⟨-, behind, rfl, hbehind⟩ := shortest_sound hsplit
  obtain ⟨suffix, -, line, r, -, rfl⟩ := exists_number hbehind
  exact List.mem_append_right stem (List.mem_append_right _ List.mem_cons_self)

/-- A line without colons and dashes is no first line. -/
theorem isHeader_eq_false (hcolon : ':' ∉ s) (hdash : '-' ∉ s) : t.isHeader s = false := by
  rw [isHeader, Bool.or_eq_false_iff, Bool.and_eq_false_iff]
  refine ⟨Bool.eq_false_iff.mpr fun h => hcolon (colon_mem_of_header? h), .inr ?_⟩
  refine Bool.eq_false_iff.mpr fun h => hdash ?_
  exact (Scala.dashes_of_header3? h).subset List.mem_cons_self

/-- No suffix ends in another one. -/
theorem eq_nil_of_suffix {suffix' : String} (h : suffix ∈ t.suffixes) (h' : suffix' ∈ t.suffixes)
    (heq : q ++ suffix.toList = suffix'.toList) : q = [] := by
  obtain ⟨s, hs, -, -⟩ := t.suffix_shape suffix h
  obtain ⟨s', hs', hdot, -⟩ := t.suffix_shape suffix' h'
  rw [hs, hs'] at heq
  cases q with
  | nil => rfl
  | cons c q =>
    obtain ⟨-, rfl⟩ := List.cons.inj heq
    exact absurd (List.mem_append_right q List.mem_cons_self) hdot

/-- **A path without a colon and a space in a row holds no suffix with a number behind it**: in
front of its own suffix, nothing can be read. -/
theorem behindPath?_eq_none (h : suffix ∈ t.suffixes) (hq : q ≠ [])
    (hplain : ¬ [':', ' '] <:+: q ++ suffix.toList) (hL : Numeral L) :
    LocatedLine.behindPath? t.suffixes t.severities (q ++ (suffix.toList ++ ':' :: (L ++ X))) =
      none := by
  rw [Option.eq_none_iff_forall_ne_some]
  intro v hv
  obtain ⟨suffix', h', line, r, hline, heq⟩ := exists_number hv
  obtain ⟨-, -, -, hcolon⟩ := t.suffix_shape suffix' h'
  rw [← List.append_assoc] at heq
  -- The colon in front of the number is the one behind the path, or it is in the path; so is the
  -- one behind the number, and with it the space that follows.
  rcases cut_at_colon hcolon heq with ⟨hsuffix, -⟩ | ⟨v, hpath, hnumber⟩
  · exact hq (eq_nil_of_suffix h h' hsuffix)
  · rcases cut_at_colon (hline.notMem (by decide)) hnumber.symm with ⟨-, hspace⟩ | ⟨w, rfl, hspace⟩
    · exact hL.append_ne_space hspace
    · cases w with
      | nil => exact absurd (List.cons.inj hspace).1 (by decide)
      | cons c w =>
        obtain ⟨rfl, -⟩ := List.cons.inj hspace
        refine hplain ⟨suffix'.toList ++ ':' :: line, w, ?_⟩
        rw [hpath]
        simp only [List.append_assoc, List.cons_append, List.nil_append]

end JvmTool

namespace CaretBlock

variable {t : JvmTool} {b : CaretBlock}

theorem text_ne_nil (h : b.Sound t) : b.text ≠ [] := by
  rw [text]
  cases b.code with
  | none => exact h.message
  | some code => exact List.cons_ne_nil _ _

theorem message_suffix_text (b : CaretBlock) : b.message <:+ b.text := by
  rw [text]
  cases b.code with
  | none => exact List.suffix_refl _
  | some code => exact ⟨'[' :: (code ++ "] ".toList), by rw [List.cons_append, List.append_assoc]⟩

theorem endsFirm_of_message (h : b.Sound t) {s : List Char} (hs : b.message <:+ s) :
    EndsFirm s := by
  obtain ⟨front, rfl⟩ := hs
  exact endsFirm_append h.message h.trimmed

theorem endsFirm_header (h : b.Sound t) : EndsFirm b.header := by
  refine endsFirm_of_message h ((message_suffix_text b).trans ⟨b.path ++ ':' :: (b.line.digits ++
    (": ".toList ++ (b.word.text.toList ++ ": ".toList))), ?_⟩)
  simp only [header, behindPath, List.append_assoc, List.cons_append]

/-- What stands behind a stem is read back. -/
theorem behindPath?_behindPath (h : b.Sound t) {suffix : String} (hsuffix : suffix ∈ t.suffixes) :
    LocatedLine.behindPath? t.suffixes t.severities (suffix.toList ++ b.behindPath) =
      some (suffix, b.line.digits, b.word.text, b.text) := by
  have hline := digits?_before b.line.numeral_digits ": " (by decide)
  have hcolon : ∀ r, afterWord ":" (':' :: r) = some r := afterWord_append ":"
  rw [LocatedLine.behindPath?, behindPath]
  simp only [JvmTool.oneOf_suffix hsuffix, hcolon, hline, afterWord_append,
    CaretWord.oneOf_text h.word, nonEmpty?, if_neg (text_ne_nil h), Option.bind_eq_bind,
    Option.bind_some, Option.pure_def]

/-- **The first line of a block is taken apart as it was put together.** -/
theorem header?_header (h : b.Sound t) (hclear : b.Clear t) :
    t.header? b.header = some ⟨b.path, b.line.digits, b.word.text, b.text⟩ := by
  obtain ⟨suffix, hsuffix, stem, hpath⟩ := h.suffix
  have hstem : stem ≠ [] := by
    rintro rfl
    exact hclear.stem suffix hsuffix hpath
  have hsplit : shortest (LocatedLine.behindPath? t.suffixes t.severities)
      (stem ++ (suffix.toList ++ b.behindPath)) =
      some (stem, suffix, b.line.digits, b.word.text, b.text) := by
    refine shortest_append hstem (behindPath?_behindPath h hsuffix) fun before q hq _ hne => ?_
    refine JvmTool.behindPath?_eq_none hsuffix hne (fun hinner => h.plain ?_) b.line.numeral_digits
    refine hinner.trans ⟨before, [], ?_⟩
    rw [List.append_nil, ← List.append_assoc, ← hq, hpath]
  rw [JvmTool.header?, LocatedLine.ofLine?, header, ← hpath, List.append_assoc, hsplit]
  rfl

/-- No block with carets is one of version 3. -/
theorem header3?_header (h : b.Sound t) : Scala.header3? b.header = none := by
  rw [← Option.not_isSome_iff_eq_none]
  intro hthree
  obtain ⟨r, hr⟩ := Scala.dashes_of_header3? hthree
  have hpath : b.path ≠ [] := by
    obtain ⟨suffix, hsuffix, hends⟩ := h.suffix
    obtain ⟨s, hs, -, -⟩ := t.suffix_shape suffix hsuffix
    intro hnil
    rw [hs, hnil] at hends
    exact absurd (List.suffix_nil.mp hends) (List.cons_ne_nil '.' s)
  refine h.start ?_
  have hhead : b.header.head? = some '-' := by rw [← hr]; rfl
  rwa [header, List.head?_append_of_ne_nil _ hpath] at hhead

end CaretBlock

/-! ## 4. The lines behind -/

namespace Caret

variable {before rest : List (List Char)} {l : List Char} {n c : Nat}

/-- **The first carets in reach are found.** -/
theorem below?_first (hbefore : ∀ l ∈ before, columnIn? l = none) (hl : columnIn? l = some c)
    (hreach : before.length < n) (rest : List (List Char)) :
    below? n (before ++ l :: rest) = some (c, before.length) := by
  induction before generalizing n with
  | nil =>
    obtain ⟨m, rfl⟩ := Nat.exists_eq_add_one_of_ne_zero (Nat.ne_zero_of_lt hreach)
    rw [List.nil_append, below?, hl]
    rfl
  | cons l' before ih =>
    obtain ⟨m, rfl⟩ := Nat.exists_eq_add_one_of_ne_zero (Nat.ne_zero_of_lt hreach)
    obtain ⟨hl', hbefore⟩ := List.forall_mem_cons.mp hbefore
    rw [List.cons_append, below?, hl']
    dsimp only
    rw [ih hbefore (Nat.lt_of_succ_lt_succ hreach)]
    rfl

theorem columnIn?_trimRight_eq_none (h : isCarets (trim l) = false) :
    columnIn? (trimRight l) = none := by
  rw [columnIn?, trim_trimRight, h]
  rfl

theorem isCarets_carets (n : Nat) : isCarets (List.replicate (n + 1) '^') = true := by
  simp [isCarets]

theorem trim_carets (n : Nat) : trim (List.replicate n '^') = List.replicate n '^' := by
  refine trim_of_no_blank fun c hc => ?_
  rw [List.eq_of_mem_replicate hc]
  decide

theorem findIdx_spaces (n : Nat) (s : List Char) :
    (List.replicate n ' ' ++ '^' :: s).findIdx (· == '^') = n := by
  induction n with
  | zero => rfl
  | succ n ih => rw [List.replicate_succ, List.cons_append, List.findIdx_cons, ih]; rfl

end Caret

namespace CaretBlock

variable {t : JvmTool} {b : CaretBlock}

theorem mem_caretLine {c : Char} (h : c ∈ b.caretLine) : c = ' ' ∨ c = '^' := by
  rcases List.mem_append.mp h with h | h
  · exact .inl (List.eq_of_mem_replicate h)
  · exact .inr (List.eq_of_mem_replicate h)

theorem endsFirm_caretLine (b : CaretBlock) : EndsFirm b.caretLine :=
  endsFirm_replicate (by decide) b.carets _

/-- The line of carets shows the column. -/
theorem columnIn?_caretLine (b : CaretBlock) :
    Caret.columnIn? b.caretLine = some b.column.value := by
  have hspaces : ∀ c ∈ List.replicate (b.column.value - 1) ' ', isBlank c = true := by
    intro c hc
    rw [List.eq_of_mem_replicate hc]
    decide
  have htrim : trim b.caretLine = List.replicate (b.carets + 1) '^' := by
    have hpadded := trim_padded hspaces (List.forall_mem_nil _) (List.replicate (b.carets + 1) '^')
    rwa [List.append_nil, Caret.trim_carets] at hpadded
  rw [Caret.columnIn?, htrim, if_pos (Caret.isCarets_carets b.carets), caretLine,
    List.replicate_succ, Caret.findIdx_spaces, Nat.sub_add_cancel b.column.one_le]

/-- The line of carets is no first line. -/
theorem isHeader_caretLine (b : CaretBlock) : t.isHeader b.caretLine = false := by
  refine JvmTool.isHeader_eq_false (fun hcolon => ?_) fun hdash => ?_
  · rcases mem_caretLine hcolon with h | h
    · exact absurd h (by decide)
    · exact absurd h (by decide)
  · rcases mem_caretLine hdash with h | h
    · exact absurd h (by decide)
    · exact absurd h (by decide)

/-- **The carets of a block are found** below its source line. -/
theorem below?_behind (h : b.Sound t) (hclear : b.Clear t) (rest : List (List Char)) :
    Caret.below? Caret.lookahead (b.behind.map trimRight ++ rest) =
      some (b.column.value, b.details.length + 1) := by
  have hbefore : ∀ l ∈ (b.details ++ [b.source]).map trimRight, Caret.columnIn? l = none :=
    List.forall_mem_map.mpr fun l hl => Caret.columnIn?_trimRight_eq_none (hclear.source l hl)
  have hreach : ((b.details ++ [b.source]).map trimRight).length < Caret.lookahead := by
    have := h.few
    simp only [List.length_map, List.length_append, List.length_singleton, Caret.lookahead]
    omega
  have hfound := Caret.below?_first hbefore b.columnIn?_caretLine hreach
    (b.trailing.map trimRight ++ rest)
  rw [behind, List.map_append, List.map_cons, List.map_cons, trimRight_of_firm b.endsFirm_caretLine]
  simpa using hfound

/-- No line behind the first one starts a finding. -/
theorem find?_behind (h : b.Sound t) :
    ∀ l ∈ b.behind.map trimRight, ∀ rest, t.find? l rest = none := by
  refine List.forall_mem_map.mpr fun l hl => JvmTool.find?_eq_none ?_
  rcases List.mem_append.mp hl with hl | hl
  · exact h.others l (List.mem_append_left _ hl)
  · rcases List.mem_cons.mp hl with rfl | hl
    · exact h.others _ (List.mem_append_right _ List.mem_cons_self)
    · rcases List.mem_cons.mp hl with rfl | hl
      · rw [trimRight_of_firm b.endsFirm_caretLine]
        exact b.isHeader_caretLine
      · exact h.others l (List.mem_append_right _ (List.mem_cons_of_mem _ hl))

/-! ## 5. Blocks -/

theorem trim_text (h : b.Sound t) : trim b.text = b.text := by
  refine trim_of_firm ?_ (endsFirm_of_message h (message_suffix_text b))
  rw [text]
  cases b.code with
  | none => exact head?_of_trimmed h.trimmed
  | some code => exact fun c hc => Option.some.inj hc ▸ by decide

/-- **The code is told from the message.** -/
theorem lint?_text (h : b.Sound .java) :
    Javac.lint? b.text = b.code.map fun code => (code, b.message) := by
  rw [text]
  cases hcode : b.code with
  | none => exact h.uncoded rfl hcode
  | some code =>
    obtain ⟨hne, hchars⟩ := h.code code hcode
    have hrun : run? Javac.isCodeChar (code ++ ("] ".toList ++ b.message)) =
        some (code, "] ".toList ++ b.message) := run?_before hne hchars "] " (by decide) _
    have hopen : ∀ r, afterWord "[" ('[' :: r) = some r := afterWord_append "["
    have hclose : afterWord "]" ("] ".toList ++ b.message) = some (' ' :: b.message) := rfl
    have hleft : trimLeft (' ' :: b.message) = b.message :=
      dropWhile_eq_self (head?_of_trimmed h.trimmed)
    simp only [Javac.lint?, hopen, hrun, hclose, hleft, nonEmpty?, if_neg h.message,
      Option.bind_eq_bind, Option.bind_some, Option.pure_def, Option.map_some]

end CaretBlock

namespace Scala

theorem joinSpaces_eq (ls : List (List Char)) : joinSpaces ls = [' '].intercalate ls :=
  eq_intercalate rfl (fun _ => rfl) (fun _ _ _ => rfl) ls

end Scala

namespace CaretBlock

variable {t : JvmTool} {b : CaretBlock}

/-- The lines above the source line are the details. -/
theorem detailsAbove_behind (h : b.Sound t) (hclear : b.Clear t) (rest : List (List Char)) :
    Scala.detailsAbove (b.behind.map trimRight ++ rest) =
      (b.details.map trim).filter (· != []) := by
  have htake : (b.behind.map trimRight ++ rest).take b.details.length =
      b.details.map trimRight := by
    rw [behind, List.map_append, List.append_assoc]
    exact List.take_left' (List.length_map _)
  have htrim : (b.details.map trimRight).map trim = b.details.map trim := by
    rw [List.map_map]
    exact List.map_congr_left fun l _ => trim_trimRight l
  rw [Scala.detailsAbove, below?_behind h hclear]
  dsimp only [Option.map_some, Option.getD_some]
  rw [Nat.add_sub_cancel, htake, htrim]

/-- **The finding of a block is found at its first line.** -/
theorem find?_header (h : b.Sound t) (hclear : b.Clear t) (rest : List (List Char)) :
    t.find? b.header (b.behind.map trimRight ++ rest) = some (.ok (b.diagnostic t)) := by
  have hheader := header?_header h hclear
  have hbelow := below?_behind h hclear rest
  have hcolumn := Position.ofNat_value b.column
  have hline := Position.ofDigits_digits h.line
  cases t with
  | java =>
    rw [JvmTool.find?, Javac.find?]
    refine Option.map_eq_some_iff.mpr ⟨_, hheader, ?_⟩
    have hmessage : ((b.code.map fun code => (code, b.message)).map (·.2)).getD b.text =
        b.message := by
      rw [text]
      cases b.code <;> rfl
    rw [Javac.diagnostic_of_line hline, hbelow]
    simp only [trim_text h, lint?_text h, hmessage, hcolumn, CaretWord.ofLabel_text,
      Option.map_some, Option.getD_some, diagnostic]
    rw [Option.map_map]
    rfl
  | scala =>
    rw [JvmTool.find?, Scala.finding?, header3?_header h]
    refine Option.map_eq_some_iff.mpr ⟨_, hheader, ?_⟩
    rw [Scala.diagnostic2_of_line hline, hbelow]
    simp only [trim_text h, detailsAbove_behind h hclear, Scala.joinSpaces_eq, hcolumn,
      CaretWord.ofLabel_text, Option.map_some, Option.getD_some, diagnostic]

/-- **The lines of some blocks come to their findings**, in order. -/
theorem findings_blocks {blocks : List CaretBlock} (h : ∀ b ∈ blocks, b.Sound t ∧ b.Clear t) :
    t.findings ((blocks.flatMap lines).map trimRight) = .ok (blocks.map (diagnostic t)) := by
  rw [List.map_flatMap]
  refine t.looksAhead.findings_blocks (fun b hb rest => ?_) fun b hb => find?_behind (h b hb).1
  rw [trimRight_of_firm (endsFirm_header (h b hb).1)]
  exact find?_header (h b hb).1 (h b hb).2 rest

end CaretBlock

/-! ## 6. Output -/

namespace Output

variable {t : JvmTool} {streams : List String} {blocks : List CaretBlock}

theorem output_of_lines (hlines : (streams.flatMap fun s => lines s.toList) =
      blocks.flatMap CaretBlock.lines) :
    t.output streams = t.findings ((blocks.flatMap CaretBlock.lines).map trimRight) := by
  rw [JvmTool.output_eq, outputLines, ← List.map_flatMap, hlines]

/-- **The blocks of some output are read back**, in order and with nothing changed: if its lines are
those of the blocks, then there is one finding for each. -/
theorem caret_blocks (hlines : (streams.flatMap fun s => lines s.toList) =
      blocks.flatMap CaretBlock.lines)
    (h : ∀ b ∈ blocks, b.Sound t ∧ b.Clear t) :
    t.output streams = .ok (blocks.map (CaretBlock.diagnostic t)) := by
  rw [output_of_lines hlines]
  exact CaretBlock.findings_blocks h

/-- **The text of some blocks.** -/
def textOfBlocks (blocks : List CaretBlock) : String := feedLines (blocks.flatMap CaretBlock.lines)

theorem lines_textOfBlocks (h : ∀ l ∈ blocks.flatMap CaretBlock.lines, Unbroken l) :
    ([textOfBlocks blocks].flatMap fun s => lines s.toList) = blocks.flatMap CaretBlock.lines := by
  rw [List.flatMap_singleton]
  exact lines_feedLines h

/-- A warning with a code, right below which stand an empty source line and carets in the first
column. -/
def codedBlock : CaretBlock where
  path := "a.java".toList
  line := .ofNat 3
  column := .first
  word := .warning
  code := some "cast".toList
  message := "m: n".toList
  details := []
  source := []
  carets := 0
  trailing := ["1 warning".toList]

/-- An error with a text that goes on for three lines. -/
def detailedBlock : CaretBlock where
  path := "a:1.sc".toList
  line := .ofNat 12
  column := .ofNat 5
  word := .error
  code := none
  message := "[m".toList
  details := [" n ".toList, [], "o".toList]
  source := "val x".toList
  carets := 1
  trailing := []

theorem sound_codedBlock : codedBlock.Sound .java where
  suffix := ⟨".java", by decide, by decide⟩
  plain := by decide
  start := by decide
  word := by decide
  line := by decide
  message := by decide
  trimmed := by decide
  code code hcode := by
    obtain rfl := Option.some.inj hcode
    exact ⟨by decide, List.all_eq_true.mp (by decide)⟩
  uncoded := by decide
  few := by decide
  others := by decide

theorem sound_detailedBlock : detailedBlock.Sound .scala where
  suffix := ⟨".sc", by decide, by decide⟩
  plain := by decide
  start := by decide
  word := by decide
  line := by decide
  message := by decide
  trimmed := by decide
  code := nofun
  uncoded := by decide
  few := by decide
  others := by decide

theorem caret_blocks_read :
    (codedBlock.Sound .java ∧ codedBlock.Clear .java) ∧
    (detailedBlock.Sound .scala ∧ detailedBlock.Clear .scala) ∧
    javac [textOfBlocks [codedBlock, codedBlock]] =
      .ok [⟨.ofNat 3, .first, .warning, "m: n", some "cast"⟩,
        ⟨.ofNat 3, .first, .warning, "m: n", some "cast"⟩] ∧
    scala [textOfBlocks [detailedBlock]] =
      .ok [⟨.ofNat 12, .ofNat 5, .error, "[m n o", none⟩] := by
  have hcoded : codedBlock.Sound .java ∧ codedBlock.Clear .java :=
    ⟨sound_codedBlock, by decide, by decide⟩
  have hdetailed : detailedBlock.Sound .scala ∧ detailedBlock.Clear .scala :=
    ⟨sound_detailedBlock, by decide, by decide⟩
  refine ⟨hcoded, hdetailed, ?_, ?_⟩
  · have hcodeds : ∀ b ∈ [codedBlock, codedBlock], b.Sound .java ∧ b.Clear .java :=
      List.forall_mem_cons.mpr ⟨hcoded, List.forall_mem_singleton.mpr hcoded⟩
    have hread : JvmTool.java.output [textOfBlocks [codedBlock, codedBlock]] = _ :=
      caret_blocks (lines_textOfBlocks (by decide)) hcodeds
    exact hread.trans (by decide)
  · have hread : JvmTool.scala.output [textOfBlocks [detailedBlock]] = _ :=
      caret_blocks (lines_textOfBlocks (by decide)) (List.forall_mem_singleton.mpr hdetailed)
    exact hread.trans (by decide)

/-- A block whose path is a suffix and nothing else. -/
def suffixBlock : CaretBlock where
  path := ".java".toList
  line := .first
  column := .first
  word := .error
  code := none
  message := "m".toList
  details := []
  source := "x".toList
  carets := 0
  trailing := []

/-- A block with carets behind spaces in front of its source line. -/
def indentedBlock : CaretBlock :=
  { suffixBlock with path := "a.java".toList, details := ["  ^".toList] }

theorem sound_suffixBlock : suffixBlock.Sound .java where
  suffix := ⟨".java", by decide, by decide⟩
  plain := by decide
  start := by decide
  word := by decide
  line := by decide
  message := by decide
  trimmed := by decide
  code := nofun
  uncoded := by decide
  few := by decide
  others := by decide

theorem sound_indentedBlock : indentedBlock.Sound .java :=
  { sound_suffixBlock with
    suffix := ⟨".java", by decide, by decide⟩
    plain := by decide
    start := by decide
    few := by decide
    others := by decide }

/-- **Not every block is read back**: one whose path is a suffix is not even found, and one with
carets behind spaces above its source line has its column from these. -/
theorem exists_block_not_read_back :
    (¬ ∀ (t : JvmTool) (streams : List String) (blocks : List CaretBlock),
      (streams.flatMap fun s => lines s.toList) = blocks.flatMap CaretBlock.lines →
      (∀ b ∈ blocks, b.Sound t ∧ ∀ l ∈ b.details ++ [b.source], Caret.isCarets l = false) →
      t.output streams = .ok (blocks.map (CaretBlock.diagnostic t))) ∧
    ¬ ∀ (t : JvmTool) (streams : List String) (blocks : List CaretBlock),
      (streams.flatMap fun s => lines s.toList) = blocks.flatMap CaretBlock.lines →
      (∀ b ∈ blocks, b.Sound t ∧ (∀ suffix ∈ t.suffixes, suffix.toList ≠ b.path) ∧
        ∀ l ∈ b.details ++ [b.source], Caret.isCarets l = false) →
      t.output streams = .ok (blocks.map (CaretBlock.diagnostic t)) := by
  constructor
  · intro hall
    have hclaimed := hall .java [textOfBlocks [suffixBlock]] _ (lines_textOfBlocks (by decide))
      (List.forall_mem_singleton.mpr ⟨sound_suffixBlock, by decide⟩)
    rw [output_of_lines (lines_textOfBlocks (by decide))] at hclaimed
    exact absurd hclaimed (by decide)
  · intro hall
    have hclaimed := hall .java [textOfBlocks [indentedBlock]] _ (lines_textOfBlocks (by decide))
      (List.forall_mem_singleton.mpr ⟨sound_indentedBlock, by decide, by decide⟩)
    rw [output_of_lines (lines_textOfBlocks (by decide))] at hclaimed
    exact absurd hclaimed (by decide)

end Output

end SourceCheck

import SourceCheck.Proofs.Output.CaretBlocks

/-!
# Blocks with a gutter that are read back

Version 3 of the Scala compiler writes a finding as a header between dashes and lines with a gutter
below it.  The gutter holds the source, carets, empty lines and the details of the message, in any
arrangement; a longer explanation may follow, which is not part of the message.  The block ends at
the first line without a gutter.

* `GutterText`, `GutterLine`: what stands in a gutter, and the lines it stands on.
* `GutterBlock`, `GutterBlock.Sound`: blocks as the compiler writes them.
* `GutterBlock.header3?_header`: their headers are taken apart as they were put together.
* `Scala.details_gutter`: the details are told from everything else in the gutter.
* `Output.gutter_blocks`: the blocks of some output are read back, in order.
-/

namespace SourceCheck

open Text

/-! ## 1. Words -/

namespace Text

variable {c : Char} {words : List (List Char)}

/-- The code points of white space. -/
def blankPoints : List Nat :=
  List.range' 9 5 ++ List.range' 28 5 ++ [0x85, 0xA0, 0x1680] ++ List.range' 0x2000 11 ++
    [0x2028, 0x2029, 0x202F, 0x205F, 0x3000]

theorem mem_blankPoints (h : isBlank c = true) : c.toNat ∈ blankPoints := by
  simp only [isBlank, Bool.or_eq_true, Bool.and_eq_true, decide_eq_true_eq, beq_iff_eq] at h
  simp only [blankPoints, List.mem_append, List.mem_range'_1, List.mem_cons, List.not_mem_nil]
  omega

set_option maxRecDepth 4000 in
theorem blankPoints_apart : ∀ n ∈ blankPoints, isWord (Char.ofNat n) = false := by
  decide

/-- White space is in no word. -/
theorem isWord_eq_false_of_isBlank (h : isBlank c = true) : isWord c = false := by
  have hpoint := blankPoints_apart c.toNat (mem_blankPoints h)
  rwa [Char.ofNat_toNat] at hpoint

/-- Words with spaces between them end with a word. -/
theorem endsFirm_intercalate (h : ∀ w ∈ words, w ≠ [] ∧ ∀ c ∈ w, isBlank c = false) :
    EndsFirm ([' '].intercalate words) := by
  induction words with
  | nil => exact nofun
  | cons w words ih =>
    obtain ⟨⟨-, hw⟩, hwords⟩ := List.forall_mem_cons.mp h
    cases words with
    | nil =>
      rw [List.intercalate_singleton]
      exact fun c hc => hw c (List.mem_of_getLast? hc)
    | cons w' words =>
      have hne : [' '].intercalate (w' :: words) ≠ [] := by
        obtain ⟨c, cs, rfl⟩ := List.exists_cons_of_ne_nil (hwords w' List.mem_cons_self).1
        cases words <;> simp
      intro c hc
      rw [List.intercalate_cons_cons, List.getLast?_append_of_ne_nil _ hne] at hc
      exact ih hwords c hc

/-- A space behind each word is one between the words and one at the end. -/
theorem flatMap_spaces (w : List Char) (words : List (List Char)) :
    (w :: words).flatMap (· ++ [' ']) = [' '].intercalate (w :: words) ++ [' '] := by
  induction words generalizing w with
  | nil => rw [List.flatMap_singleton, List.intercalate_singleton]
  | cons w' words ih =>
    rw [List.flatMap_cons, ih, List.intercalate_cons_cons]
    simp only [List.append_assoc]

/-- **Words with a space behind each** are trimmed to words with spaces between them. -/
theorem trim_words (h : ∀ w ∈ words, w ≠ [] ∧ ∀ c ∈ w, isBlank c = false) :
    trim (words.flatMap (· ++ [' '])) = [' '].intercalate words := by
  cases words with
  | nil => rfl
  | cons w words =>
    obtain ⟨hne, hw⟩ := h w List.mem_cons_self
    have hstart : ∀ c, ([' '].intercalate (w :: words)).head? = some c → isBlank c = false := by
      obtain ⟨c, cs, rfl⟩ := List.exists_cons_of_ne_nil hne
      have hhead : ([' '].intercalate ((c :: cs) :: words)).head? = some c := by
        cases words <;> simp
      intro c' hc'
      rw [hhead] at hc'
      exact Option.some.inj hc' ▸ hw c List.mem_cons_self
    rw [flatMap_spaces]
    exact trim_between (List.forall_mem_nil _) hstart (endsFirm_intercalate h)
      (List.forall_mem_singleton.mpr (by decide))

end Text

namespace Javac

theorem isBlank_eq_false_of_isCodeChar {c : Char} (h : isCodeChar c = true) :
    isBlank c = false := by
  rw [Bool.eq_false_iff]
  intro hblank
  rw [isCodeChar, isWord_eq_false_of_isBlank hblank, Bool.false_or, beq_iff_eq] at h
  rw [h] at hblank
  exact absurd hblank (by decide)

end Javac

/-- **The words for a severity** of version 3. -/
inductive GutterWord
  | error
  | warning
  | info
  deriving DecidableEq

namespace GutterWord

def text : GutterWord → String
  | error => "Error"
  | warning => "Warning"
  | info => "Info"

def severity : GutterWord → Severity
  | error => .error
  | warning => .warning
  | info => .info

theorem ofLabel_text (w : GutterWord) : Severity.ofLabel w.text = w.severity := by
  cases w <;> decide

theorem oneOf_text (w : GutterWord) (r : List Char) :
    oneOf ["Error", "Warning", "Info"] (w.text.toList ++ r) = some (w.text, r) := by
  cases w <;> rfl

end GutterWord

/-! ## 2. Blocks as the compiler writes them -/

/-- **What stands in a gutter**: a numbered line of the source, nothing, one caret and more of them,
a detail of the message, or the start of a longer explanation. -/
inductive GutterText
  | source (number text : List Char)
  | blank
  | carets (more : Nat)
  | detail (text : List Char)
  | explanation (more : List Char)

namespace GutterText

/-- The number in front of the gutter. -/
def number : GutterText → List Char
  | source number _ => number
  | _ => []

/-- The text in the gutter, without white space around it. -/
def content : GutterText → List Char
  | source _ text => text
  | blank => []
  | carets more => List.replicate (more + 1) '^'
  | detail text => text
  | explanation more => Scala.explanation.toList ++ more

/-- **Texts that can be told from each other.**  A number is one; a detail is there and trimmed,
does not consist of carets and does not start like an explanation. -/
def Sound : GutterText → Prop
  | source number _ => Numeral number
  | detail text => text ≠ [] ∧ trim text = text ∧ Caret.isCarets text = false ∧
      ¬ Scala.explanation.toList <+: text
  | _ => True

instance : (t : GutterText) → Decidable t.Sound
  | source number _ => inferInstanceAs (Decidable (Numeral number))
  | blank => inferInstanceAs (Decidable True)
  | carets _ => inferInstanceAs (Decidable True)
  | detail text => inferInstanceAs (Decidable (text ≠ [] ∧ trim text = text ∧
      Caret.isCarets text = false ∧ ¬ Scala.explanation.toList <+: text))
  | explanation _ => inferInstanceAs (Decidable True)

/-- The number in front of a gutter is one, if it is there. -/
theorem Sound.number {t : GutterText} (h : t.Sound) : ∀ c ∈ t.number, isDecimal c = true := by
  cases t with
  | source number text => exact h.2
  | blank | carets | detail | explanation => exact List.forall_mem_nil _

end GutterText

/-- **A line with a gutter**: what stands in the gutter, and the white space around it and around
the number. -/
structure GutterLine where
  text : GutterText
  indent : List Char := []
  gap : List Char := []
  before : List Char := []
  after : List Char := []

namespace GutterLine

/-- What follows the gutter. -/
def inside (g : GutterLine) : List Char := g.before ++ (g.text.content ++ g.after)

def line (g : GutterLine) : List Char :=
  g.indent ++ (g.text.number ++ (g.gap ++ '|' :: g.inside))

structure Sound (g : GutterLine) : Prop where
  white : ∀ c ∈ g.indent ++ g.gap ++ (g.before ++ g.after), isBlank c = true
  text : g.text.Sound

instance (g : GutterLine) : Decidable g.Sound :=
  have : Decidable (∀ c ∈ g.indent ++ g.gap ++ (g.before ++ g.after), isBlank c = true) :=
    List.decidableBAll (fun c => isBlank c = true) _
  decidable_of_iff (_ ∧ g.text.Sound) ⟨fun h => ⟨h.1, h.2⟩, fun h => ⟨h.white, h.text⟩⟩

/-- The details in some lines, up to an explanation. -/
def shown : List GutterLine → List (List Char)
  | [] => []
  | g :: gs =>
    match g.text with
    | .explanation _ => []
    | .detail text => text :: shown gs
    | _ => shown gs

end GutterLine

/-- **A finding as version 3 of the compiler writes it**: the parts of its header, one dash and more
of them, the lines with a gutter, and lines behind these. -/
structure GutterBlock where
  /-- The digits of the code. -/
  code : Option (List Char)
  /-- The words of the kind. -/
  words : List (List Char)
  word : GutterWord
  path : List Char
  line : Position
  column : Position
  dashes : Nat
  gutter : List GutterLine
  trailing : List (List Char)

namespace GutterBlock

/-- The code in brackets, if there is one. -/
def codeText (b : GutterBlock) : List Char :=
  match b.code with
  | none => []
  | some digits => "[E".toList ++ (digits ++ "] ".toList)

/-- The kind, with a space behind each word. -/
def kind (b : GutterBlock) : List Char := b.words.flatMap (· ++ [' '])

/-- What stands behind the path. -/
def behindPath (b : GutterBlock) : List Char :=
  ":".toList ++ (b.line.digits ++ (":".toList ++ (b.column.digits ++ (" ".toList ++
    List.replicate (b.dashes + 1) '-'))))

/-- What stands behind the kind. -/
def behindKind (b : GutterBlock) : List Char :=
  b.word.text.toList ++ (": ".toList ++ (b.path ++ b.behindPath))

/-- **The header**, `-- [code] kind severity: path:line:column ---`. -/
def header (b : GutterBlock) : List Char :=
  "-- ".toList ++ (b.codeText ++ (b.kind ++ b.behindKind))

/-- The lines behind the header. -/
def behind (b : GutterBlock) : List (List Char) := b.gutter.map GutterLine.line ++ b.trailing

def lines (b : GutterBlock) : List (List Char) := b.header :: b.behind

/-- The kind and the details, with a colon between them; the severity if there is neither. -/
def message (b : GutterBlock) : List Char :=
  let parts := [[' '].intercalate b.words, [' '].intercalate (GutterLine.shown b.gutter)].filter
    (· != [])
  if parts = [] then b.word.text.toList else ": ".toList.intercalate parts

/-- **What the block says.** -/
def diagnostic (b : GutterBlock) : Diagnostic :=
  ⟨b.line, b.column, b.word.severity, String.ofList b.message,
    b.code.map fun digits => String.ofList ('E' :: digits)⟩

/-- **Blocks that can be told from their lines.**  The code is a number, the words of the kind are
made of word characters and dashes; the path is there and has no colon; the line and the column are
not too long; the lines behind the gutter do not go on with it. -/
structure Sound (b : GutterBlock) : Prop where
  code : ∀ digits ∈ b.code, Numeral digits
  words : ∀ w ∈ b.words, w ≠ [] ∧ ∀ c ∈ w, Javac.isCodeChar c = true
  path : b.path ≠ []
  plain : ':' ∉ b.path
  line : Short b.line.digits
  column : Short b.column.digits
  gutter : ∀ g ∈ b.gutter, g.Sound
  trailing : ∀ first ∈ b.trailing.head?, Scala.gutter? (trimRight first) = none

end GutterBlock

/-! ## 3. Headers -/

namespace GutterBlock

variable {b : GutterBlock}

/-- The position behind the path is read back. -/
theorem position?_behindPath (b : GutterBlock) :
    Scala.position? b.behindPath = some (b.line.digits, b.column.digits) := by
  have hline := digits?_before b.line.numeral_digits ":" (by decide)
  have hcolumn := digits?_before b.column.numeral_digits " " (by decide)
  rw [Scala.position?, behindPath]
  simp only [afterWord_append, hline, hcolumn, Option.bind_eq_bind, Option.bind_some,
    Option.pure_def]

/-- **The severity, the path and the position are read back**: in a path without colons there is no
other position. -/
theorem located?_behindKind (h : b.Sound) :
    Scala.located? b.behindKind = some (b.word.text, b.path, b.line.digits, b.column.digits) := by
  have hpath : shortest Scala.position? (b.path ++ b.behindPath) =
      some (b.path, b.line.digits, b.column.digits) := by
    refine shortest_append h.path b.position?_behindPath fun before q hq _ hne => ?_
    rw [Option.eq_none_iff_forall_ne_some]
    intro v hv
    obtain ⟨rest, hrest, -⟩ := Option.bind_eq_some_iff.mp hv
    obtain ⟨c, q, rfl⟩ := List.exists_cons_of_ne_nil hne
    obtain ⟨rfl, -⟩ := List.cons.inj (of_afterWord hrest)
    refine h.plain ?_
    rw [hq]
    exact List.mem_append_right before List.mem_cons_self
  rw [Scala.located?, behindKind]
  simp only [GutterWord.oneOf_text, afterWord_append, hpath, Option.bind_eq_bind, Option.bind_some,
    Option.pure_def]

end GutterBlock

namespace Scala

variable {w s X : List Char}

/-- A severity is made of letters. -/
theorem severity_isCodeChar : ∀ word ∈ ["Error", "Warning", "Info"],
    word.toList ≠ [] ∧ word.toList.all Javac.isCodeChar = true := by
  decide

/-- **A word with a space behind it is no severity**, which has a colon there. -/
theorem located?_word (hne : w ≠ []) (hw : ∀ c ∈ w, Javac.isCodeChar c = true) (X : List Char) :
    located? (w ++ (" ".toList ++ X)) = none := by
  rw [Option.eq_none_iff_forall_ne_some]
  intro v hv
  rw [located?] at hv
  simp only [Option.bind_eq_bind, Option.bind_eq_some_iff, Prod.exists] at hv
  obtain ⟨word, rest, hword, rest', hcolon, -⟩ := hv
  obtain ⟨hmem, hs⟩ := of_oneOf hword
  obtain ⟨hne', hletters⟩ := severity_isCodeChar word hmem
  obtain rfl := of_afterWord hcolon
  have hspace := run?_before hne hw " " (by decide) X
  rw [hs, run?_before hne' (List.all_eq_true.mp hletters) ": " (by decide)] at hspace
  exact absurd (List.cons.inj (Prod.mk.inj (Option.some.inj hspace)).2).1 (by decide)

/-- **The words of the kind are taken off** in front of something that is located. -/
theorem kindAndRest?_words {words : List (List Char)}
    {located : String × List Char × List Char × List Char}
    (hwords : ∀ w ∈ words, w ≠ [] ∧ ∀ c ∈ w, Javac.isCodeChar c = true)
    (hs : located? s = some located) {n : Nat} (hn : words.length ≤ n) :
    kindAndRest? n (words.flatMap (· ++ [' ']) ++ s) =
      some (words.flatMap (· ++ [' ']), located) := by
  induction words generalizing n with
  | nil =>
    rw [List.flatMap_nil, List.nil_append]
    cases n with
    | zero => rw [kindAndRest?, hs]; rfl
    | succ n => rw [kindAndRest?, hs]
  | cons w words ih =>
    obtain ⟨⟨hne, hw⟩, hwords⟩ := List.forall_mem_cons.mp hwords
    cases n with
    | zero => exact absurd hn (Nat.not_succ_le_zero _)
    | succ n =>
      have hcut : (w :: words).flatMap (· ++ [' ']) ++ s =
          w ++ (" ".toList ++ (words.flatMap (· ++ [' ']) ++ s)) := by
        simp only [List.flatMap_cons, List.append_assoc]
        rfl
      rw [hcut, kindAndRest?, located?_word hne hw]
      simp only [run?_before hne hw " " (by decide), afterWord_append,
        ih hwords (Nat.le_of_succ_le_succ hn), Option.bind_eq_bind, Option.bind_some,
        Option.pure_def, List.flatMap_cons, List.append_assoc]
      rfl

end Scala

namespace GutterBlock

variable {b : GutterBlock}

/-- The code is told from the kind and the severity, which start with no bracket. -/
theorem codeIn_codeText (h : b.Sound) :
    Scala.codeIn (b.codeText ++ (b.kind ++ b.behindKind)) =
      (b.code.map ('E' :: ·), b.kind ++ b.behindKind) := by
  rw [codeText, Scala.codeIn]
  cases hcode : b.code with
  | some digits =>
    have hdigits := digits?_before (h.code digits hcode) "] " (by decide)
    simp only [List.append_assoc, afterWord_append, hdigits, Option.bind_eq_bind, Option.bind_some,
      Option.pure_def, Option.map_some]
  | none =>
    have hnone : afterWord "[E" (b.kind ++ b.behindKind) = none := by
      rw [kind]
      cases hwords : b.words with
      | nil =>
        rw [behindKind]
        cases b.word <;> rfl
      | cons w words =>
        obtain ⟨hne, hw⟩ := h.words w (by rw [hwords]; exact List.mem_cons_self)
        obtain ⟨c, cs, rfl⟩ := List.exists_cons_of_ne_nil hne
        rw [Option.eq_none_iff_forall_ne_some]
        intro rest hrest
        obtain ⟨rfl, -⟩ := List.cons.inj (of_afterWord hrest)
        exact absurd (hw '[' List.mem_cons_self) (by decide)
    simp only [List.nil_append, hnone, Option.bind_eq_bind, Option.bind_none, Option.map_none]

/-- Every word takes its place in the line. -/
theorem length_words_le (b : GutterBlock) : b.words.length ≤ (b.kind ++ b.behindKind).length := by
  have hkind : ∀ words : List (List Char),
      words.length ≤ (words.flatMap (· ++ [' '])).length := by
    intro words
    induction words with
    | nil => exact Nat.le_refl 0
    | cons w words ih =>
      simp only [List.flatMap_cons, List.length_append, List.length_cons, List.length_nil]
      omega
  rw [List.length_append]
  exact (hkind b.words).trans (Nat.le_add_right _ _)

/-- **The header of a block is taken apart as it was put together.** -/
theorem header3?_header (h : b.Sound) :
    Scala.header3? b.header = some ⟨b.code.map ('E' :: ·), b.kind, b.word.text, b.path,
      b.line.digits, b.column.digits⟩ := by
  have hkind := Scala.kindAndRest?_words h.words (located?_behindKind h) b.length_words_le
  rw [← kind] at hkind
  rw [Scala.header3?, header]
  simp only [afterWord_append, codeIn_codeText h, hkind, Option.bind_eq_bind, Option.bind_some,
    Option.pure_def]

/-- A header ends with a dash. -/
theorem endsFirm_header (b : GutterBlock) : EndsFirm b.header := by
  have hdashes : List.replicate (b.dashes + 1) '-' <:+ b.header := by
    refine ⟨"-- ".toList ++ (b.codeText ++ (b.kind ++ (b.word.text.toList ++ (": ".toList ++
      (b.path ++ (":".toList ++ (b.line.digits ++ (":".toList ++ (b.column.digits ++
      " ".toList))))))))), ?_⟩
    simp only [header, behindKind, behindPath, List.append_assoc]
  obtain ⟨front, hfront⟩ := hdashes
  rw [← hfront]
  exact endsFirm_replicate (by decide) b.dashes front

end GutterBlock

/-! ## 4. The gutter -/

namespace Scala

variable {indent number gap l s : List Char}

/-- A line that starts with dashes has no gutter. -/
theorem gutter?_of_dashes (h : "--".toList <+: l) : gutter? l = none := by
  obtain ⟨r, rfl⟩ := h
  rfl

/-- **The number and the text of a line with a gutter**, whatever the white space around the
number. -/
theorem gutter?_cut (hindent : ∀ c ∈ indent, isBlank c = true)
    (hnumber : ∀ c ∈ number, isDecimal c = true) (hgap : ∀ c ∈ gap, isBlank c = true)
    (s : List Char) :
    gutter? (indent ++ (number ++ (gap ++ '|' :: s))) = some (number != [], s) := by
  have hbar : trimLeft (gap ++ '|' :: s) = '|' :: s := by
    rw [trimLeft, List.dropWhile_append_of_pos hgap]
    rfl
  rw [gutter?, trimLeft, List.dropWhile_append_of_pos hindent]
  cases number with
  | nil =>
    rw [List.nil_append, ← trimLeft, hbar]
    rfl
  | cons d ds =>
    have hfirst : isBlank d = false :=
      isBlank_eq_false_of_isDigitLike (isDigitLike_of_isDecimal (hnumber d List.mem_cons_self))
    have hrest : ∀ c ∈ (gap ++ '|' :: s).head?, isDecimal c = false := by
      cases gap with
      | nil => exact fun c hc => Option.some.inj hc ▸ by decide
      | cons c gap =>
        intro c' hc
        obtain rfl := Option.some.inj hc
        exact isDecimal_eq_false_of_isBlank (hgap c List.mem_cons_self)
    obtain ⟨htake, hdrop⟩ := Json.run_append_of_not hrest (d :: ds)
    have htaken : (d :: ds ++ (gap ++ '|' :: s)).takeWhile isDecimal = d :: ds :=
      htake.trans (List.takeWhile_eq_self_iff.mpr hnumber)
    have hdropped : (d :: ds ++ (gap ++ '|' :: s)).dropWhile isDecimal = gap ++ '|' :: s := by
      rw [hdrop, List.dropWhile_eq_nil_iff.mpr hnumber, List.nil_append]
    have hstart : (d :: ds ++ (gap ++ '|' :: s)).dropWhile isBlank =
        d :: ds ++ (gap ++ '|' :: s) :=
      List.dropWhile_cons_of_neg (by rw [hfirst]; exact Bool.false_ne_true)
    rw [hstart]
    simp only [run, htaken, hdropped, hbar]
    rfl

end Scala

namespace GutterLine

variable {g : GutterLine}

/-- **A line with a gutter is read back**, without the white space at its end. -/
theorem gutter?_line (h : g.Sound) :
    Scala.gutter? (trimRight g.line) = some (g.text.number != [], trimRight g.inside) := by
  obtain ⟨houter, hinner⟩ := List.forall_mem_append.mp h.white
  obtain ⟨hindent, hgap⟩ := List.forall_mem_append.mp houter
  have hcut : g.line = (g.indent ++ (g.text.number ++ (g.gap ++ ['|']))) ++ g.inside := by
    simp only [line, List.append_assoc, List.cons_append, List.nil_append]
  have hfirm : EndsFirm (g.indent ++ (g.text.number ++ (g.gap ++ ['|']))) := by
    rw [← List.append_assoc, ← List.append_assoc]
    exact endsFirm_append (List.cons_ne_nil _ _) (by decide)
  rw [hcut, trimRight_append_of_firm hfirm]
  simp only [List.append_assoc, List.cons_append, List.nil_append]
  exact Scala.gutter?_cut hindent h.text.number hgap _

/-- The white space in the gutter makes no difference. -/
theorem trim_inside (h : g.Sound) : trim (trimRight g.inside) = trim g.text.content := by
  obtain ⟨hbefore, hafter⟩ := List.forall_mem_append.mp (List.forall_mem_append.mp h.white).2
  rw [trim_trimRight, inside, trim_padded hbefore hafter]

theorem dashes_line (h : g.Sound) : (afterWord "--" (trimRight g.line)).isSome = false := by
  rw [Bool.eq_false_iff]
  intro hdashes
  have hnone := Scala.gutter?_of_dashes (isSome_afterWord_iff.mp hdashes)
  rw [gutter?_line h] at hnone
  cases hnone

end GutterLine

namespace Scala

/-- An explanation is told from carets and from nothing by its beginning. -/
theorem trim_explanation (more : List Char) :
    trim (explanation.toList ++ more) = explanation.toList ++ trimRight more := by
  rw [trim, trimLeft, dropWhile_eq_self fun c hc => ?_, trimRight_append_of_firm (by decide)]
  exact Option.some.inj hc ▸ by decide

/-- **The details are told from everything else in the gutter**, which ends where a line has
none. -/
theorem details_gutter {gutter : List GutterLine} {rest : List (List Char)}
    (h : ∀ g ∈ gutter, g.Sound) (hrest : ∀ first ∈ rest.head?, gutter? first = none) :
    details ((gutter.map GutterLine.line).map trimRight ++ rest) = GutterLine.shown gutter := by
  induction gutter with
  | nil => exact details_append (fun first hfirst => .inl (hrest first hfirst)) []
  | cons g gutter ih =>
    obtain ⟨hg, hgutter⟩ := List.forall_mem_cons.mp h
    have htext := hg.text
    have htrim := GutterLine.trim_inside hg
    rw [List.map_cons, List.map_cons, List.cons_append, details, GutterLine.gutter?_line hg]
    dsimp only
    rw [GutterLine.dashes_line hg, htrim, ih hgutter, GutterLine.shown]
    cases hg : g.text with
    | source number text =>
      rw [hg] at htext
      simp [GutterText.number, htext.1]
    | blank => simp [GutterText.number, GutterText.content, trim, trimLeft, trimRight]
    | carets more =>
      simp [GutterText.number, GutterText.content, Caret.trim_carets, Caret.isCarets_carets]
    | detail text =>
      rw [hg] at htext
      obtain ⟨hne, htrimmed, hcarets, hstart⟩ := htext
      have hother : (afterWord explanation text).isSome = false :=
        Bool.eq_false_iff.mpr fun h => hstart (isSome_afterWord_iff.mp h)
      simp [GutterText.number, GutterText.content, htrimmed, hne, hcarets, hother]
    | explanation more =>
      have hne : explanation ≠ "" := by decide
      have hcarets : Caret.isCarets (explanation.toList ++ trimRight more) = false := rfl
      simp [GutterText.number, GutterText.content, trim_explanation, hne, hcarets,
        afterWord_append]

end Scala

/-! ## 5. Blocks -/

namespace GutterBlock

variable {b : GutterBlock} {rest : List (List Char)}

/-- **The message is put together from the kind and the details.** -/
theorem message3_header (h : b.Sound) (hrest : ∀ first ∈ rest.head?, Scala.gutter? first = none)
    (header : Scala.Header3) (hkind : header.kind = b.kind)
    (hword : header.severity = b.word.text) :
    Scala.message3 header (b.behind.map trimRight ++ rest) = b.message := by
  have hbehind : ∀ first ∈ (b.trailing.map trimRight ++ rest).head?,
      Scala.gutter? first = none := by
    have htrailing := h.trailing
    cases hb : b.trailing with
    | nil => exact hrest
    | cons first ls =>
      rw [hb] at htrailing
      exact fun l hl => Option.some.inj hl ▸ htrailing first rfl
  have hwords : ∀ w ∈ b.words, w ≠ [] ∧ ∀ c ∈ w, isBlank c = false := fun w hw =>
    ⟨(h.words w hw).1, fun c hc => Javac.isBlank_eq_false_of_isCodeChar ((h.words w hw).2 c hc)⟩
  have hdetails := Scala.details_gutter h.gutter hbehind
  rw [← List.append_assoc, ← List.map_append, ← behind] at hdetails
  rw [Scala.message3, hdetails, hkind, hword, kind, trim_words hwords, Scala.joinSpaces_eq, message]
  by_cases hkind : [' '].intercalate b.words = []
  · by_cases hshown : [' '].intercalate (GutterLine.shown b.gutter) = []
    · simp [hkind, hshown]
    · simp [hkind, hshown]
  · by_cases hshown : [' '].intercalate (GutterLine.shown b.gutter) = []
    · simp [hkind, hshown]
    · simp [hkind, hshown]

/-- **The finding of a block is found at its header.** -/
theorem finding?_header (h : b.Sound)
    (hrest : ∀ first ∈ rest.head?, Scala.gutter? first = none) :
    Scala.finding? b.header (b.behind.map trimRight ++ rest) = some (.ok b.diagnostic) := by
  have hmessage := message3_header h hrest ⟨b.code.map ('E' :: ·), b.kind, b.word.text, b.path,
    b.line.digits, b.column.digits⟩ rfl rfl
  rw [Scala.finding?, header3?_header h]
  dsimp only
  rw [Scala.diagnostic3, Position.ofDigits_digits h.line, Position.ofDigits_digits h.column,
    hmessage, GutterWord.ofLabel_text, Option.map_map]
  rfl

/-- The next block starts with no gutter. -/
theorem gutter?_head (blocks : List GutterBlock) :
    ∀ first ∈ ((blocks.flatMap lines).map trimRight).head?, Scala.gutter? first = none := by
  cases blocks with
  | nil => exact nofun
  | cons b blocks =>
    intro first hfirst
    rw [List.flatMap_cons, lines, List.cons_append, List.map_cons,
      trimRight_of_firm b.endsFirm_header] at hfirst
    obtain rfl := Option.some.inj hfirst
    exact Scala.gutter?_of_dashes ⟨_, rfl⟩

/-- **No other line starts a finding**, in any version of the compiler. -/
def Alone (b : GutterBlock) : Prop :=
  ∀ l ∈ b.behind, JvmTool.scala.isHeader (trimRight l) = false

instance (b : GutterBlock) : Decidable b.Alone :=
  List.decidableBAll (fun l => JvmTool.scala.isHeader (trimRight l) = false) b.behind

/-- **The lines of some blocks come to their findings**, in order, if no other line starts one. -/
theorem findings_blocks {blocks : List GutterBlock} (h : ∀ b ∈ blocks, b.Sound)
    (halone : ∀ b ∈ blocks, b.Alone) :
    Scala.findings ((blocks.flatMap lines).map trimRight) = .ok (blocks.map diagnostic) := by
  induction blocks with
  | nil => rfl
  | cons b blocks ih =>
    obtain ⟨hb, hblocks⟩ := List.forall_mem_cons.mp h
    obtain ⟨hbehind, halone⟩ := List.forall_mem_cons.mp halone
    have hskip : ∀ l ∈ b.behind.map trimRight, ∀ rest, Scala.finding? l rest = none :=
      List.forall_mem_map.mpr fun l hl => JvmTool.find?_eq_none (hbehind l hl)
    rw [List.flatMap_cons, List.map_append, lines, List.map_cons,
      trimRight_of_firm b.endsFirm_header]
    exact Scala.looksAhead.block_append (finding?_header hb (gutter?_head blocks)) hskip
      (ih hblocks halone)

/-- A finding starts at each header, and at each other line that looks like one. -/
theorem countP_isHeader {blocks : List GutterBlock} (h : ∀ b ∈ blocks, b.Sound) :
    ((blocks.flatMap lines).map trimRight).countP JvmTool.scala.isHeader =
      blocks.length + ((blocks.flatMap behind).map trimRight).countP JvmTool.scala.isHeader := by
  induction blocks with
  | nil => rfl
  | cons b blocks ih =>
    obtain ⟨hb, hblocks⟩ := List.forall_mem_cons.mp h
    have hheader : JvmTool.scala.isHeader b.header = true := by
      rw [JvmTool.isHeader, header3?_header hb]
      exact Bool.or_true _
    simp only [List.flatMap_cons, lines, List.map_append, List.map_cons, List.cons_append,
      List.countP_append, trimRight_of_firm b.endsFirm_header, List.countP_cons_of_pos hheader,
      List.length_cons, ih hblocks]
    omega

end GutterBlock

namespace Scala

/-- Whether a finding starts at a line is for the line alone to tell. -/
theorem isSome_finding? (l : List Char) (rest : List (List Char)) :
    (finding? l rest).isSome = JvmTool.scala.isHeader l := by
  rw [finding?, JvmTool.isHeader]
  cases header3? l with
  | none => exact Option.isSome_map.trans (Bool.or_false _).symm
  | some h => exact (Bool.or_true _).symm

end Scala

namespace GutterBlock

/-- **Lines of blocks with as many findings** have no other line that starts one. -/
theorem alone_of_findings {blocks : List GutterBlock} (h : ∀ b ∈ blocks, b.Sound)
    {ds : List Diagnostic} (hlength : ds.length = blocks.length)
    (hds : Scala.findings ((blocks.flatMap lines).map trimRight) = .ok ds) :
    ∀ b ∈ blocks, b.Alone := by
  have hcount := Scala.looksAhead.length_of_findings Scala.isSome_finding? hds
  rw [countP_isHeader h, hlength] at hcount
  have hnone := List.countP_eq_zero.mp (Nat.left_eq_add.mp hcount)
  intro b hb l hl
  refine Bool.eq_false_iff.mpr (hnone _ (List.mem_map_of_mem ?_))
  exact List.mem_flatMap.mpr ⟨b, hb, hl⟩

end GutterBlock

/-! ## 6. Output -/

namespace Output

variable {streams : List String} {blocks : List GutterBlock}

/-- **The blocks of some output are read back**, in order and with nothing changed, exactly if no
other line in them looks like the first one of a finding. -/
theorem gutter_blocks (hlines : (streams.flatMap fun s => lines s.toList) =
      blocks.flatMap GutterBlock.lines)
    (h : ∀ b ∈ blocks, b.Sound) :
    scala streams = .ok (blocks.map GutterBlock.diagnostic) ↔ ∀ b ∈ blocks, b.Alone := by
  rw [scala, outputLines, ← List.map_flatMap, hlines]
  constructor
  · exact GutterBlock.alone_of_findings h (List.length_map _)
  · exact GutterBlock.findings_blocks h

/-- An error with a code and a kind, with everything in its gutter. -/
def kindBlock : GutterBlock where
  code := some "007".toList
  words := ["Type".toList, "Mis-match".toList]
  word := .error
  path := "a.scala".toList
  line := .ofNat 3
  column := .ofNat 14
  dashes := 2
  gutter :=
    [ { text := .source ['3'] "x".toList, gap := [' '] },
      { text := .carets 1, indent := "  ".toList, before := [' '] },
      { text := .detail "m n".toList, indent := "  ".toList, before := [' '], after := [' '] },
      { text := .blank },
      { text := .detail "o".toList },
      { text := .explanation " |".toList },
      { text := .detail "p".toList } ]
  trailing := ["1 error found".toList]

/-- A warning that tells nothing, at the end of the lines. -/
def bareBlock : GutterBlock where
  code := none
  words := []
  word := .warning
  path := "b".toList
  line := .first
  column := .ofNat 2
  dashes := 0
  gutter := []
  trailing := []

theorem sound_kindBlock : kindBlock.Sound where
  code := fun digits hdigits => Option.some.inj hdigits ▸ by decide
  words := by
    refine List.forall_mem_cons.mpr ⟨⟨by decide, List.all_eq_true.mp (by decide)⟩, ?_⟩
    exact List.forall_mem_singleton.mpr ⟨by decide, List.all_eq_true.mp (by decide)⟩
  path := by decide
  plain := by decide
  line := by decide
  column := by decide
  gutter := by decide
  trailing := by decide

theorem sound_bareBlock : bareBlock.Sound where
  code := nofun
  words := List.forall_mem_nil _
  path := by decide
  plain := by decide
  line := by decide
  column := by decide
  gutter := List.forall_mem_nil _
  trailing := nofun

theorem gutter_blocks_read :
    (kindBlock.Sound ∧ bareBlock.Sound) ∧
    scala [feedLines ([kindBlock, bareBlock].flatMap GutterBlock.lines)] =
      .ok [⟨.ofNat 3, .ofNat 14, .error, "Type Mis-match: m n o", some "E007"⟩,
        ⟨.first, .ofNat 2, .warning, "Warning", none⟩] := by
  have hlines : ([feedLines ([kindBlock, bareBlock].flatMap GutterBlock.lines)].flatMap
      fun s => lines s.toList) = [kindBlock, bareBlock].flatMap GutterBlock.lines := by
    rw [List.flatMap_singleton]
    exact lines_feedLines (by decide)
  have hsound : ∀ b ∈ [kindBlock, bareBlock], b.Sound :=
    List.forall_mem_cons.mpr ⟨sound_kindBlock, List.forall_mem_singleton.mpr sound_bareBlock⟩
  refine ⟨⟨sound_kindBlock, sound_bareBlock⟩, ?_⟩
  exact ((gutter_blocks hlines hsound).mpr (by decide)).trans (by decide)

end Output

end SourceCheck

import Mathlib.Data.List.Infix
import SourceCheck.Proofs.Output.ReportBlocks

/-!
# Framed blocks that are read back

Terraform writes what it cannot read as blocks framed by box characters: a first line with a
severity and a message, and behind it, with three other lines at most in between, a line with the
path and the line number.  The reader takes the frames off and looks for that line in four.

* `Frame`, `FramedBlock`: blocks as Terraform writes them.
* `FramedBlock.Sound`, `FramedBlock.Clear`: blocks that can be told from their lines.
* `FramedBlock.location?_location`: the line number is read, past the path and the context.
* `FramedBlock.findings_blocks`: the lines of some blocks come to their findings, in order.
* `Output.reported_blocks`: the blocks of some output are read back, with Elixir and with Terraform.
-/

namespace SourceCheck

open Text

/-! ## 1. Blocks as Terraform writes them -/

/-- **The words for a severity** of Terraform. -/
inductive FrameWord
  | error
  | warning
  deriving DecidableEq

namespace FrameWord

def text : FrameWord → String
  | error => "Error"
  | warning => "Warning"

def severity : FrameWord → Severity
  | error => .error
  | warning => .warning

theorem ofLabel_text (w : FrameWord) : Severity.ofLabel w.text = w.severity := by
  cases w <;> decide

theorem oneOf_text (w : FrameWord) (r : List Char) :
    oneOf ["Error", "Warning"] (w.text.toList ++ r) = some (w.text, r) := by
  cases w <;> rfl

theorem head?_text (w : FrameWord) (r : List Char) :
    ∀ c, (w.text.toList ++ r).head? = some c → Terraform.isFrame c = false := by
  intro c hc
  cases w with
  | error | warning => exact Option.some.inj hc ▸ by decide

end FrameWord

/-- **A frame around a line**: box characters and spaces. -/
structure Frame where
  before : List Char
  after : List Char

namespace Frame

/-- A text in its frame. -/
def line (f : Frame) (s : List Char) : List Char := f.before ++ (s ++ f.after)

def Sound (f : Frame) : Prop := ∀ c ∈ f.before ++ f.after, Terraform.isFrame c = true

instance (f : Frame) : Decidable f.Sound :=
  List.decidableBAll (fun c => Terraform.isFrame c = true) (f.before ++ f.after)

end Frame

/-- **A finding as Terraform writes it**: a severity and a message, lines below these, the path, the
line number and perhaps a context, each with its frame, and lines behind these. -/
structure FramedBlock where
  word : FrameWord
  message : List Char
  between : List (List Char)
  path : List Char
  line : Position
  context : Option (List Char)
  trailing : List (List Char)
  headerFrame : Frame
  locationFrame : Frame

namespace Terraform

/-- **A line of output as the reader takes it**, trimmed at the end and then without its frame. -/
def inner (l : List Char) : List Char := unframe (trimRight l)

end Terraform

namespace FramedBlock

/-- **The first line**, `severity: message`. -/
def header (b : FramedBlock) : List Char := b.word.text.toList ++ (": ".toList ++ b.message)

/-- What stands behind the line number. -/
def ending (b : FramedBlock) : List Char :=
  match b.context with
  | none => ":".toList
  | some context => ", in ".toList ++ (context ++ ":".toList)

/-- What stands behind the path. -/
def behindPath (b : FramedBlock) : List Char := " line ".toList ++ (b.line.digits ++ b.ending)

/-- **The line with the position**, `on path line number, in context:`. -/
def location (b : FramedBlock) : List Char := "on ".toList ++ (b.path ++ b.behindPath)

/-- The lines behind the first one. -/
def behind (b : FramedBlock) : List (List Char) :=
  b.between ++ b.locationFrame.line b.location :: b.trailing

def lines (b : FramedBlock) : List (List Char) := b.headerFrame.line b.header :: b.behind

/-- **What the block says.** -/
def diagnostic (b : FramedBlock) : Diagnostic :=
  ⟨b.line, .first, b.word.severity, String.ofList b.message, none⟩

/-- **Blocks that can be told from their lines.**  The message is there and trimmed, and does not
end with a character of the frame; the path does not hold the word in front of the line number, the
context has no colon, and the number is not too long; at most three lines, which tell no position,
are in front of the one that does; no other line is the first one of a block. -/
structure Sound (b : FramedBlock) : Prop where
  message : b.message ≠ []
  trimmed : trim b.message = b.message
  unframed : ∀ c ∈ b.message.getLast?, Terraform.isFrame c = false
  path : ¬ " line ".toList <:+: b.path
  line : Short b.line.digits
  context : ∀ context ∈ b.context, ':' ∉ context
  few : b.between.length ≤ 3
  untold : ∀ l ∈ b.between, Terraform.location? (Terraform.inner l) = none
  others : ∀ l ∈ b.between ++ b.trailing, Terraform.header? (Terraform.inner l) = none
  headerFrame : b.headerFrame.Sound
  locationFrame : b.locationFrame.Sound

/-- **Blocks with nothing left out**: there is a path, and the context is no empty text. -/
structure Clear (b : FramedBlock) : Prop where
  path : b.path ≠ []
  context : ∀ context ∈ b.context, context ≠ []

end FramedBlock

/-! ## 2. Frames -/

/-- **What stands in a frame is left**, if it cannot be taken for a part of the frame. -/
theorem Frame.Sound.inner_line {f : Frame} (h : f.Sound) {s : List Char}
    (hstart : ∀ c, s.head? = some c → Terraform.isFrame c = false)
    (hend : ∀ c, s.getLast? = some c → Terraform.isFrame c = false) (hne : s ≠ [])
    (hfirm : EndsFirm s) : Terraform.inner (f.line s) = s := by
  obtain ⟨hbefore, hafter⟩ := List.forall_mem_append.mp h
  have htrim : trimRight (f.line s) = f.before ++ (s ++ trimRight f.after) := by
    have hcut : f.line s = (f.before ++ s) ++ f.after := by rw [Frame.line, List.append_assoc]
    rw [hcut, trimRight_append_of_firm, List.append_assoc]
    intro c hc
    rw [List.getLast?_append_of_ne_nil _ hne] at hc
    exact hfirm c hc
  rw [Terraform.inner, htrim]
  exact trimOf_between hbefore hstart hend fun c hc => hafter c ((begins_trimRight _).subset hc)

/-! ## 3. First lines and positions -/

namespace Terraform

variable {q s : List Char}

/-- What is read behind a path starts with the word and a number. -/
theorem of_behindPath? {digits : List Char} (h : behindPath? s = some digits) :
    Numeral digits ∧ ∃ r, s = " line ".toList ++ (digits ++ r) := by
  rw [behindPath?] at h
  simp only [Option.bind_eq_bind, Option.bind_eq_some_iff, Prod.exists] at h
  obtain ⟨s₁, hline, line, s₂, hdigits, -, -, heq⟩ := h
  obtain rfl := Option.some.inj heq
  obtain ⟨rfl, hnumeral⟩ := numeral_of_digits? hdigits
  exact ⟨hnumeral, s₂, of_afterWord hline⟩

/-- The proper ends of the word: nothing, a space, and those that start with something else. -/
theorem ends_of_line : ∀ gap ∈ " line ".toList.tail.tails,
    gap = [] ∨ gap = [' '] ∨ gap ≠ [] ∧ gap.head? ≠ some ' ' := by
  decide

/-- **In a path without the word, nothing can be read** before its end. -/
theorem behindPath?_eq_none (hq : q ≠ []) (hword : ¬ " line ".toList <:+: q) (r : List Char) :
    behindPath? (q ++ (" line ".toList ++ r)) = none := by
  rw [Option.eq_none_iff_forall_ne_some]
  intro digits hdigits
  obtain ⟨hnumeral, r', heq⟩ := of_behindPath? hdigits
  rcases List.append_eq_append_iff.mp heq with ⟨gap, hgap, hrest⟩ | ⟨gap, rfl, -⟩
  · obtain ⟨c, q, rfl⟩ := List.exists_cons_of_ne_nil hq
    have htail : " line ".toList.tail = q ++ gap := congrArg List.tail hgap
    have hend := ends_of_line gap ((List.mem_tails _ _).mpr ⟨q, htail.symm⟩)
    rcases hend with rfl | rfl | ⟨hne, hhead⟩
    · exact hnumeral.append_ne_space hrest.symm
    · exact hnumeral.append_ne_cons (by decide) (List.cons.inj hrest).2.symm
    · rw [← List.head?_append_of_ne_nil gap hne, ← hrest] at hhead
      exact hhead rfl
  · exact hword ⟨[], gap, rfl⟩

end Terraform

namespace FramedBlock

variable {b : FramedBlock}

/-- **The first line is taken apart as it was put together.** -/
theorem header?_header (h : b.Sound) :
    Terraform.header? b.header = some (b.word.text, b.message) := by
  rw [Terraform.header?, header, FrameWord.oneOf_text]
  simp only [afterWord_append, nonEmpty?, if_neg h.message, Option.bind_eq_bind, Option.bind_some,
    Option.pure_def]

/-- The context ends with a colon. -/
theorem skipContext_ending (h : b.Sound) (hclear : b.Clear) :
    Terraform.skipContext b.ending = ":".toList := by
  rw [Terraform.skipContext, ending]
  cases hcontext : b.context with
  | none => rfl
  | some context =>
    have hrun := run?_before (hclear.context context hcontext)
      (bne_of_not_mem (h.context context hcontext)) ":" (by decide) []
    rw [List.append_nil] at hrun
    dsimp only
    rw [afterWord_append, Option.bind_some, hrun]

theorem behindPath?_behindPath (h : b.Sound) (hclear : b.Clear) :
    Terraform.behindPath? b.behindPath = some b.line.digits := by
  have hdigits : digits? (b.line.digits ++ b.ending) = some (b.line.digits, b.ending) := by
    refine run?_append b.line.numeral_digits.1 b.line.numeral_digits.2 fun c hc => ?_
    rw [ending] at hc
    cases hcontext : b.context with
    | none =>
      rw [hcontext] at hc
      exact Option.some.inj hc ▸ rfl
    | some context =>
      rw [hcontext] at hc
      exact Option.some.inj hc ▸ rfl
  have hend : afterWord ":" (Terraform.skipContext b.ending) = some [] := by
    rw [skipContext_ending h hclear]
    rfl
  change Terraform.behindPath? (" line ".toList ++ (b.line.digits ++ b.ending)) = _
  rw [Terraform.behindPath?, afterWord_append]
  simp only [hdigits, hend, Option.bind_eq_bind, Option.bind_some, Option.pure_def]

/-- **The line number is told**, past the path and the context. -/
theorem location?_location (h : b.Sound) (hclear : b.Clear) :
    Terraform.location? b.location = some b.line.digits := by
  have hpath : shortest Terraform.behindPath? (b.path ++ b.behindPath) =
      some (b.path, b.line.digits) := by
    refine shortest_append hclear.path (behindPath?_behindPath h hclear) fun before q hq _ hne => ?_
    refine Terraform.behindPath?_eq_none hne (fun hinner => h.path (hinner.trans ?_)) _
    exact hq ▸ (List.suffix_append before q).isInfix
  simp only [Terraform.location?, location, afterWord_append, hpath, Option.bind_eq_bind,
    Option.bind_some]
  rfl

/-- The first line is seen without its frame. -/
theorem inner_header (h : b.Sound) :
    Terraform.inner (b.headerFrame.line b.header) = b.header := by
  have hcut : b.header = b.word.text.toList ++ ": ".toList ++ b.message := by
    rw [header, List.append_assoc]
  refine h.headerFrame.inner_line (b.word.head?_text _) (fun c hc => ?_) ?_ ?_
  · rw [hcut, List.getLast?_append_of_ne_nil _ h.message] at hc
    exact h.unframed c hc
  · rw [hcut]
    exact List.append_ne_nil_of_right_ne_nil _ h.message
  · rw [hcut]
    exact endsFirm_append h.message h.trimmed

/-- So is the line with the position, which ends with a colon. -/
theorem inner_location (h : b.Sound) :
    Terraform.inner (b.locationFrame.line b.location) = b.location := by
  obtain ⟨s, hs⟩ : ∃ s, b.ending = s ++ ":".toList := by
    rw [ending]
    cases b.context with
    | none => exact ⟨[], rfl⟩
    | some context => exact ⟨", in ".toList ++ context, (List.append_assoc ..).symm⟩
  have hcut : b.location =
      "on ".toList ++ (b.path ++ (" line ".toList ++ (b.line.digits ++ s))) ++ ":".toList := by
    change "on ".toList ++ (b.path ++ (" line ".toList ++ (b.line.digits ++ b.ending))) = _
    rw [hs]
    simp only [List.append_assoc]
  refine h.locationFrame.inner_line (fun c hc => Option.some.inj hc ▸ by decide) (fun c hc => ?_)
    (List.append_ne_nil_of_left_ne_nil (by decide) _) ?_
  · rw [hcut, List.getLast?_append_of_ne_nil _ (by decide)] at hc
    exact Option.some.inj hc ▸ by decide
  · rw [hcut]
    exact endsFirm_append (by decide) (by decide)

/-! ## 4. Blocks -/

/-- No line behind the first one starts a block. -/
theorem blockAt_behind (h : b.Sound) :
    ∀ l ∈ b.behind.map Terraform.inner, ∀ rest, Terraform.blockAt l rest = none := by
  refine List.forall_mem_map.mpr fun l hl rest => Option.map_eq_none_iff.mpr ?_
  rcases List.mem_append.mp hl with hl | hl
  · exact h.others l (List.mem_append_left _ hl)
  · rcases List.mem_cons.mp hl with rfl | hl
    · rw [inner_location h]
      rfl
    · exact h.others l (List.mem_append_right _ hl)

/-- **What a block says** once its line number is found. -/
theorem diagnostic_block (h : b.Sound) {rest : List (List Char)}
    (hrest : (rest.take Terraform.lookahead).findSome? Terraform.location? =
      some b.line.digits) :
    Terraform.diagnostic b.word.text b.message rest = .ok b.diagnostic := by
  have hline : Position.ofDigits? (some b.line.digits) = .ok b.line :=
    Position.ofDigits_digits h.line
  rw [Terraform.diagnostic, hrest, hline, h.trimmed, FrameWord.ofLabel_text]
  rfl

/-- **The finding of a block is found at its first line.** -/
theorem blockAt_header (h : b.Sound) (hclear : b.Clear) (rest : List (List Char)) :
    Terraform.blockAt (Terraform.inner (b.headerFrame.line b.header))
        (b.behind.map Terraform.inner ++ rest) = some (.ok b.diagnostic) := by
  have hbefore : ∀ l ∈ b.between.map Terraform.inner, Terraform.location? l = none :=
    List.forall_mem_map.mpr h.untold
  have hreach : (b.between.map Terraform.inner).length < Terraform.lookahead := by
    rw [List.length_map, Terraform.lookahead]
    exact Nat.lt_succ_of_le h.few
  have htold := findSome?_take_first hbefore (location?_location h hclear) hreach
    (b.trailing.map Terraform.inner ++ rest)
  have hbehind : b.behind.map Terraform.inner ++ rest = b.between.map Terraform.inner ++
      b.location :: (b.trailing.map Terraform.inner ++ rest) := by
    rw [behind, List.map_append, List.map_cons, inner_location h, List.append_assoc,
      List.cons_append]
  rw [Terraform.blockAt, inner_header h, header?_header h, hbehind, Option.map_some]
  exact congrArg some (diagnostic_block h htold)

/-- **The lines of some blocks come to their findings**, in order. -/
theorem findings_blocks {blocks : List FramedBlock} (h : ∀ b ∈ blocks, b.Sound ∧ b.Clear) :
    Terraform.blocks ((blocks.flatMap lines).map Terraform.inner) =
      .ok (blocks.map diagnostic) := by
  rw [List.map_flatMap]
  refine Terraform.looksAhead.findings_blocks (fun b hb rest => ?_) fun b hb => ?_
  · obtain ⟨hsound, hclear⟩ := h b hb
    exact blockAt_header hsound hclear rest
  · exact blockAt_behind (h b hb).1

end FramedBlock

/-! ## 5. Output -/

namespace Output

theorem elixir_of_lines {streams : List String} {blocks : List ReportBlock}
    (hlines : (streams.flatMap fun s => lines s.toList) = blocks.flatMap ReportBlock.lines) :
    elixir streams = Elixir.findings ((blocks.flatMap ReportBlock.lines).map trimRight) := by
  rw [elixir, outputLines, ← List.map_flatMap, hlines]

theorem terraform_of_lines {stdout stderr : String} {blocks : List FramedBlock}
    (hlines : lines stderr.toList = blocks.flatMap FramedBlock.lines) :
    terraform stdout stderr = (do
      let format ← Terraform.hunks none (outputLines [stdout])
      let found ← Terraform.blocks ((blocks.flatMap FramedBlock.lines).map Terraform.inner)
      return format ++ found) := by
  have hinner : (outputLines [stderr]).map Terraform.unframe =
      (blocks.flatMap FramedBlock.lines).map Terraform.inner := by
    rw [outputLines, List.flatMap_singleton, hlines, List.map_map]
    rfl
  rw [terraform, hinner]

/-- **The blocks of some output are read back**, in order: if its lines are those of the blocks,
then there is one finding for each, with what the block says.  With Terraform these are behind the
findings about the format. -/
theorem reported_blocks :
    (∀ (streams : List String) (blocks : List ReportBlock),
      (streams.flatMap fun s => lines s.toList) = blocks.flatMap ReportBlock.lines →
      (∀ b ∈ blocks, b.Sound ∧ b.Clear) →
      elixir streams = .ok (blocks.map ReportBlock.diagnostic)) ∧
    ∀ (stdout stderr : String) (blocks : List FramedBlock),
      lines stderr.toList = blocks.flatMap FramedBlock.lines →
      (∀ b ∈ blocks, b.Sound ∧ b.Clear) →
      terraform stdout stderr = (Terraform.hunks none (outputLines [stdout])).map
        (· ++ blocks.map FramedBlock.diagnostic) := by
  constructor
  · intro streams blocks hlines h
    rw [elixir_of_lines hlines]
    exact ReportBlock.findings_blocks h
  · intro stdout stderr blocks hlines h
    rw [terraform_of_lines hlines, FramedBlock.findings_blocks h]
    cases Terraform.hunks none (outputLines [stdout]) <;> rfl

/-- The lines of some reports, as a text. -/
def textOfReports (blocks : List ReportBlock) : String :=
  feedLines (blocks.flatMap ReportBlock.lines)

theorem lines_textOfReports {blocks : List ReportBlock}
    (h : ∀ l ∈ blocks.flatMap ReportBlock.lines, Unbroken l) :
    ([textOfReports blocks].flatMap fun s => lines s.toList) =
      blocks.flatMap ReportBlock.lines := by
  rw [List.flatMap_singleton]
  exact lines_feedLines h

/-- The lines of some framed blocks, as a text. -/
def textOfFramed (blocks : List FramedBlock) : String :=
  feedLines (blocks.flatMap FramedBlock.lines)

theorem lines_textOfFramed {blocks : List FramedBlock}
    (h : ∀ l ∈ blocks.flatMap FramedBlock.lines, Unbroken l) :
    lines (textOfFramed blocks).toList = blocks.flatMap FramedBlock.lines :=
  lines_feedLines h

/-- A report on one line. -/
def inlineReport : ReportBlock where
  stem := "Compile".toList
  path := "a.ex".toList
  line := .ofNat 3
  column := none
  message := "m: n".toList
  summary := none
  trailing := ["  (elixir) b".toList]

/-- A report with three lines in front of its message, and a summary that looks as if the path
followed. -/
def summarisedReport : ReportBlock where
  stem := "Token".toList
  path := "b.exs".toList
  line := .ofNat 2
  column := some (.ofNat 5)
  message := "told".toList
  summary := some
    { text := "end on c.ex:1: x".toList, between := ["|".toList, [], "2 | f(".toList]
      indent := "\t ".toList }
  trailing := [" ^".toList]

theorem sound_inlineReport : inlineReport.Sound where
  stem := by decide
  word := List.all_eq_true.mp (by decide)
  plain := List.all_eq_true.mp (by decide)
  line := by decide
  column := nofun
  message := by decide
  trimmed := by decide
  summary := nofun
  others := by decide

theorem sound_summarisedReport : summarisedReport.Sound where
  stem := by decide
  word := List.all_eq_true.mp (by decide)
  plain := List.all_eq_true.mp (by decide)
  line := by decide
  column := by decide
  message := by decide
  trimmed := by decide
  summary s hs := by
    obtain rfl := Option.some.inj hs
    exact ⟨by decide, by decide, by decide, by decide, List.all_eq_true.mp (by decide)⟩
  others := by decide

/-- An error without a context, behind three lines. -/
def plainBlock : FramedBlock where
  word := .error
  message := "m: n".toList
  between := [['│'], ['│', ' ', 'x'], []]
  path := "a line.tf".toList
  line := .ofNat 3
  context := none
  trailing := [['│', ' ', '}'], ['╵']]
  headerFrame := ⟨['╷', ' ', '│', ' '], [' ', '│']⟩
  locationFrame := ⟨['│', ' ', ' '], [' ', '│', ' ']⟩

/-- A warning with a context, right below which stands its position. -/
def contextBlock : FramedBlock where
  word := .warning
  message := "m".toList
  between := []
  path := "a/b.tf".toList
  line := .ofNat 12
  context := some "resource x".toList
  trailing := []
  headerFrame := ⟨[], []⟩
  locationFrame := ⟨[' '], []⟩

theorem sound_plainBlock : plainBlock.Sound where
  message := by decide
  trimmed := by decide
  unframed c hc := Option.some.inj hc ▸ by decide
  path := by decide
  line := by decide
  context := nofun
  few := by decide
  untold := by decide
  others := by decide
  headerFrame := by decide
  locationFrame := by decide

theorem sound_contextBlock : contextBlock.Sound where
  message := by decide
  trimmed := by decide
  unframed c hc := Option.some.inj hc ▸ by decide
  path := by decide
  line := by decide
  context := by decide
  few := by decide
  untold := nofun
  others := nofun
  headerFrame := by decide
  locationFrame := by decide

theorem reported_blocks_read :
    (inlineReport.Sound ∧ inlineReport.Clear) ∧
    (summarisedReport.Sound ∧ summarisedReport.Clear) ∧
    (plainBlock.Sound ∧ plainBlock.Clear) ∧
    (contextBlock.Sound ∧ contextBlock.Clear) ∧
    elixir [textOfReports [inlineReport, summarisedReport]] =
      .ok [⟨.ofNat 3, .first, .error, "m: n", some "CompileError"⟩,
        ⟨.ofNat 2, .ofNat 5, .error, "told", some "TokenError"⟩] ∧
    terraform "" (textOfFramed [plainBlock, contextBlock]) =
      .ok [⟨.ofNat 3, .first, .error, "m: n", none⟩, ⟨.ofNat 12, .first, .warning, "m", none⟩] := by
  have hinline : inlineReport.Sound ∧ inlineReport.Clear := ⟨sound_inlineReport, by decide, nofun⟩
  have hsummarised : summarisedReport.Sound ∧ summarisedReport.Clear := by
    refine ⟨sound_summarisedReport, by decide, fun s hs => ?_⟩
    obtain rfl := Option.some.inj hs
    exact Elixir.not_startsLocated (by decide)
  have hplain : plainBlock.Sound ∧ plainBlock.Clear := ⟨sound_plainBlock, by decide, nofun⟩
  have hcontext : contextBlock.Sound ∧ contextBlock.Clear :=
    ⟨sound_contextBlock, by decide, by decide⟩
  obtain ⟨helixir, hterraform⟩ := reported_blocks
  refine ⟨hinline, hsummarised, hplain, hcontext, ?_, ?_⟩
  · have hblocks : ∀ b ∈ [inlineReport, summarisedReport], b.Sound ∧ b.Clear :=
      List.forall_mem_cons.mpr ⟨hinline, List.forall_mem_singleton.mpr hsummarised⟩
    exact (helixir _ _ (lines_textOfReports (by decide)) hblocks).trans (by decide)
  · have hblocks : ∀ b ∈ [plainBlock, contextBlock], b.Sound ∧ b.Clear :=
      List.forall_mem_cons.mpr ⟨hplain, List.forall_mem_singleton.mpr hcontext⟩
    exact (hterraform "" _ _ (lines_textOfFramed (by decide)) hblocks).trans (by decide)

/-- A report whose summary starts with a path and a position of its own. -/
def locatedReport : ReportBlock where
  stem := "Token".toList
  path := "b.ex".toList
  line := .ofNat 2
  column := none
  message := "y".toList
  summary := some { text := "a:1: x".toList, between := [], indent := [' '] }
  trailing := []

/-- A report without a path. -/
def pathlessReport : ReportBlock := { locatedReport with path := [], summary := none }

theorem sound_locatedReport : locatedReport.Sound where
  stem := by decide
  word := List.all_eq_true.mp (by decide)
  plain := List.all_eq_true.mp (by decide)
  line := by decide
  column := nofun
  message := by decide
  trimmed := by decide
  summary s hs := by
    obtain rfl := Option.some.inj hs
    exact ⟨by decide, by decide, by decide, nofun, List.all_eq_true.mp (by decide)⟩
  others := nofun

theorem sound_pathlessReport : pathlessReport.Sound :=
  { sound_locatedReport with plain := nofun, summary := nofun, others := nofun }

/-- A block without a path. -/
def pathlessBlock : FramedBlock := { contextBlock with path := [] }

/-- A block with an empty context. -/
def hollowBlock : FramedBlock := { contextBlock with context := some [] }

theorem sound_pathlessBlock : pathlessBlock.Sound := { sound_contextBlock with path := by decide }

theorem sound_hollowBlock : hollowBlock.Sound := { sound_contextBlock with context := by decide }

/-- **Not every block is read back**: a report whose summary starts with a path and a position has
these for its own, one without a path is not found, and a framed block without a path or with an
empty context does not tell its line. -/
theorem exists_report_not_read_back :
    (¬ ∀ (streams : List String) (blocks : List ReportBlock),
      (streams.flatMap fun s => lines s.toList) = blocks.flatMap ReportBlock.lines →
      (∀ b ∈ blocks, b.Sound ∧ b.path ≠ []) →
      elixir streams = .ok (blocks.map ReportBlock.diagnostic)) ∧
    (¬ ∀ (streams : List String) (blocks : List ReportBlock),
      (streams.flatMap fun s => lines s.toList) = blocks.flatMap ReportBlock.lines →
      (∀ b ∈ blocks, b.Sound ∧ ∀ s ∈ b.summary, ¬ Elixir.StartsLocated (s.text ++ [' '])) →
      elixir streams = .ok (blocks.map ReportBlock.diagnostic)) ∧
    (¬ ∀ (stderr : String) (blocks : List FramedBlock),
      lines stderr.toList = blocks.flatMap FramedBlock.lines →
      (∀ b ∈ blocks, b.Sound ∧ ∀ context ∈ b.context, context ≠ []) →
      terraform "" stderr = .ok (blocks.map FramedBlock.diagnostic)) ∧
    ¬ ∀ (stderr : String) (blocks : List FramedBlock),
      lines stderr.toList = blocks.flatMap FramedBlock.lines →
      (∀ b ∈ blocks, b.Sound ∧ b.path ≠ []) →
      terraform "" stderr = .ok (blocks.map FramedBlock.diagnostic) := by
  refine ⟨?_, ?_, ?_, ?_⟩
  · intro hall
    have hclaimed := hall [textOfReports [locatedReport]] _ (lines_textOfReports (by decide))
      (List.forall_mem_singleton.mpr ⟨sound_locatedReport, by decide⟩)
    rw [elixir_of_lines (lines_textOfReports (by decide))] at hclaimed
    exact absurd hclaimed (by decide)
  · intro hall
    have hclaimed := hall [textOfReports [pathlessReport]] _ (lines_textOfReports (by decide))
      (List.forall_mem_singleton.mpr ⟨sound_pathlessReport, nofun⟩)
    rw [elixir_of_lines (lines_textOfReports (by decide))] at hclaimed
    exact absurd hclaimed (by decide)
  · intro hall
    have hclaimed := hall (textOfFramed [pathlessBlock]) _ (lines_textOfFramed (by decide))
      (List.forall_mem_singleton.mpr ⟨sound_pathlessBlock, by decide⟩)
    rw [terraform_of_lines (lines_textOfFramed (by decide))] at hclaimed
    exact absurd hclaimed (by decide)
  · intro hall
    have hclaimed := hall (textOfFramed [hollowBlock]) _ (lines_textOfFramed (by decide))
      (List.forall_mem_singleton.mpr ⟨sound_hollowBlock, by decide⟩)
    rw [terraform_of_lines (lines_textOfFramed (by decide))] at hclaimed
    exact absurd hclaimed (by decide)

end Output

end SourceCheck

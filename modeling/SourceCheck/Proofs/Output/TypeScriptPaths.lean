import SourceCheck.Proofs.Machine.Following
import SourceCheck.Proofs.Output.TypeScriptBlocks

/-!
# Findings that are lost because of their path

The TypeScript compiler writes the path of a file in front of a parenthesis, and the reader takes
the first parenthesis for that one.  A path that holds a parenthesis is cut short there: mostly
nothing is read at all, and what is read is another finding.  Every other path comes back whole, and
a path that comes back whole designates the file that it is the path of.

* `Machine.sameFile_self`: a path that resolves designates its own file.
* `TypeScriptFinding`: a finding of the checked file as the compiler writes it.
* `TypeScriptFinding.not_mem_of_reported`: a finding that is reported has none in its path.
* `Output.typeScript_output_iff`: such findings, and no others, are reported.
-/

namespace SourceCheck

open Text

/-! ## 1. Own paths -/

/-- **A path designates its own file**, if it resolves. -/
theorem Machine.sameFile_self {m : Machine} {root : Path} {text : List Char}
    (hne : text ≠ []) (htrim : trim text = text)
    (hfile : m.Resolves (root.join (Path.ofString (String.ofList text)))) :
    m.sameFile (some (String.ofList text)) (root.join (Path.ofString (String.ofList text))) root =
      .ok true := by
  have hempty : ¬ (String.ofList text == "") = true := by
    intro h
    have hnil : (String.ofList text).toList = [] := congrArg String.toList (beq_iff_eq.mp h)
    rw [String.toList_ofList] at hnil
    exact hne hnil
  have htext : String.ofList (trim (String.ofList text).toList) = String.ofList text := by
    rw [String.toList_ofList, htrim]
  rw [sameFile]
  rw [if_neg hempty, htext, same]
  cases hresolved : m.resolve (root.join (Path.ofString (String.ofList text))) with
  | ok file => exact congrArg Except.ok (beq_self_eq_true file)
  | error f => exact (if_pos (hfile f hresolved)).trans (congrArg Except.ok (beq_self_eq_true _))

/-! ## 2. Findings of the checked file -/

/-- **A finding as the compiler writes it**, with positions counted from one. -/
structure TypeScriptFinding where
  path : List Char
  line : Position
  column : Position
  word : TypeScriptWord
  code : List Char
  message : List Char

namespace TypeScriptFinding

variable {f : TypeScriptFinding} {m : Machine} {file root : Path}

/-- The line that the compiler writes. -/
def written (f : TypeScriptFinding) : TypeScriptLine :=
  ⟨f.path, f.line.digits, f.column.digits, f.word, f.code, f.message⟩

/-- The compiler's output, which is the line. -/
def output (f : TypeScriptFinding) : String := String.ofList f.written.text

/-- The file that the path designates below a root. -/
def fileIn (f : TypeScriptFinding) (root : Path) : Path :=
  root.join (Path.ofString (String.ofList f.path))

/-- What is to be reported. -/
def diagnostic (f : TypeScriptFinding) : Diagnostic :=
  ⟨f.line, f.column, f.word.severity, String.ofList f.message,
    some (String.ofList ('T' :: 'S' :: f.code))⟩

/-- **Findings that fit on a line**: the path and the message are trimmed and there, nothing in them
breaks the line, the code is a number, and no number is too long. -/
structure Sound (f : TypeScriptFinding) : Prop where
  path : f.path ≠ []
  path_trimmed : trim f.path = f.path
  path_unbroken : Unbroken f.path
  line : Short f.line.digits
  column : Short f.column.digits
  code : Numeral f.code
  message : f.message ≠ []
  message_trimmed : trim f.message = f.message
  message_unbroken : Unbroken f.message

theorem sound_written (h : f.Sound) : f.written.Sound where
  path := h.path
  line := f.line.numeral_digits
  column := f.column.numeral_digits
  code := h.code
  message := h.message
  trimmed := h.message_trimmed

theorem outputLines_output (h : f.Sound) : outputLines [f.output, ""] = [f.written.text] :=
  TypeScriptLine.outputLines_text (sound_written h) h.path_unbroken h.message_unbroken

theorem segments_output (h : f.Sound) :
    TypeScriptReading.segments (outputLines [f.output, ""]) =
      ((TypeScriptHeader.ofLine? f.written.text).map fun header => ⟨header, []⟩).toList := by
  rw [outputLines_output h]
  cases hheader : TypeScriptHeader.ofLine? f.written.text with
  | none =>
    rw [TypeScriptReading.segments_other hheader]
    rfl
  | some header =>
    rw [TypeScriptReading.segments_header hheader]
    rfl

/-! ## 3. Parentheses in the path -/

/-- The parentheses of the line are those of the path, of the message, and one more. -/
theorem count_paren_text (h : f.Sound) :
    f.written.text.count '(' = f.path.count '(' + 1 + f.message.count '(' := by
  have hnumerals : f.line.digits.count '(' = 0 ∧ f.column.digits.count '(' = 0 ∧
      f.code.count '(' = 0 := by
    refine ⟨?_, ?_, ?_⟩
    · exact List.count_eq_zero.mpr (f.line.numeral_digits.notMem (by decide))
    · exact List.count_eq_zero.mpr (f.column.numeral_digits.notMem (by decide))
    · exact List.count_eq_zero.mpr (h.code.notMem (by decide))
  have hword : f.word.text.toList.count '(' = 0 := by
    cases f.word <;> decide
  have hmarks : "(".toList.count '(' = 1 ∧ ",".toList.count '(' = 0 ∧ "):".toList.count '(' = 0 ∧
      "TS".toList.count '(' = 0 ∧ ": ".toList.count '(' = 0 := by
    decide
  rw [TypeScriptLine.text]
  simp only [List.count_append, List.count_cons_of_ne (by decide : ' ' ≠ '('), written, hnumerals,
    hword, hmarks]
  omega

/-- **A finding that is reported has no parenthesis in its path**, since those of its line but the
first are then in the message. -/
theorem not_mem_of_reported (h : f.Sound)
    (hread : Output.typeScript m f.output "" file root = .ok [f.diagnostic]) : '(' ∉ f.path := by
  have hall := (Output.typeScript_eq_ok_iff (Output.compared_of_returns ⟨_, hread⟩)).mp hread
  obtain ⟨s, rest, hreports, -, hown⟩ := List.forall₂_cons_right_iff.mp hall
  have hkept : s ∈ Output.ownSegments m file root (outputLines [f.output, ""]) :=
    hown ▸ List.mem_cons_self
  have hs := (List.mem_filter.mp hkept).1
  rw [segments_output h] at hs
  obtain ⟨header, hheader, rfl⟩ := Option.map_eq_some_iff.mp (Option.mem_toList.mp hs)
  have hmessage : String.ofList f.message = String.ofList header.message := by
    rw [← TypeScriptHeader.trim_message hheader]
    exact hreports.message.trans (congrArg String.ofList (List.intercalate_singleton ..))
  -- The messages agree, so the parentheses of the line, counted twice, leave none for the path.
  have hcount := TypeScriptHeader.count_parens hheader
  rw [count_paren_text h, String.ofList_injective hmessage] at hcount
  rw [← List.count_eq_zero]
  omega

/-! ## 4. Findings that are reported -/

/-- A finding's line says what it is to say. -/
theorem reports_header (h : f.Sound) : Reports ⟨f.written.header, []⟩ f.diagnostic where
  line := Position.ofDigits_digits h.line
  column := Position.ofDigits_digits h.column
  severity := f.word.word_severity
  code := rfl
  message := by
    rw [List.map_singleton, List.intercalate_singleton]
    exact congrArg String.ofList h.message_trimmed.symm

/-- **A finding without a parenthesis in its path is reported**, if the path designates the checked
file. -/
theorem typeScript_output (h : f.Sound) (hparen : '(' ∉ f.path)
    (hown : m.sameFile (some (String.ofList f.path)) file root = .ok true) :
    Output.typeScript m f.output "" file root = .ok [f.diagnostic] := by
  have hheader : TypeScriptHeader.ofLine? f.written.text = some f.written.header :=
    TypeScriptLine.ofLine?_text (sound_written h) hparen
  have hsegments : TypeScriptReading.segments (outputLines [f.output, ""]) =
      [⟨f.written.header, []⟩] := by
    rw [segments_output h, hheader]
    rfl
  have hcompared : Output.Compared m file root (outputLines [f.output, ""]) := by
    rw [Output.Compared, ← TypeScriptReading.headers_segments, hsegments, List.map_singleton,
      List.forall_mem_singleton]
    exact ⟨true, hown⟩
  have hkept : Output.isOwn m file root f.written.header = true :=
    congrArg accepts hown
  rw [Output.typeScript_eq_ok_iff hcompared, Output.ownSegments, hsegments, List.filter_cons,
    if_pos hkept]
  exact .cons (reports_header h) .nil

end TypeScriptFinding

namespace Output

variable {m : Machine} {root : Path} {f : TypeScriptFinding}

/-- **A finding of the checked file is reported exactly if its path holds no parenthesis.**  The
path may hold anything else that leaves the line whole, the checked file's path has no null
character, and no links are on the way. -/
theorem typeScript_output_iff (h : f.Sound) (hnull : (f.fileIn root).hasNull = false)
    (hlinks : Machine.Unlinked m.files (m.startOf (f.fileIn root)) (f.fileIn root).parts) :
    typeScript m f.output "" (f.fileIn root) root = .ok [f.diagnostic] ↔ '(' ∉ f.path := by
  constructor
  · exact TypeScriptFinding.not_mem_of_reported h
  · intro hparen
    have hfile := Machine.resolves_of_unlinked hnull hlinks
    exact TypeScriptFinding.typeScript_output h hparen
      (Machine.sameFile_self h.path h.path_trimmed hfile)

/-- A finding in a file whose name is like a position without its parenthesis. -/
def commaFinding : TypeScriptFinding where
  path := ['a', ' ', '1', ',', '2', ')', ':', '.', 't', 's']
  line := .ofNat 3
  column := .ofNat 14
  word := .plain
  code := ['7']
  message := ['s', 'e', 'e', ' ', 'b', '(', '1', ')']

theorem sound_commaFinding : commaFinding.Sound where
  path := by decide
  path_trimmed := by decide
  path_unbroken := by decide
  line := by decide
  column := by decide
  code := by decide
  message := by decide
  message_trimmed := by decide
  message_unbroken := by decide

theorem unlinked_bareMachine (here : Location) (names : List String) :
    Machine.Unlinked bareMachine.files here names := by
  refine Machine.unlinked_of_no_links fun l target hlink => ?_
  rw [FileTree.lookup] at hlink
  split at hlink
  · cases hlink
  · cases hlink

theorem typeScript_output_iff_comma :
    commaFinding.Sound ∧ (commaFinding.fileIn projectRoot).hasNull = false ∧
      typeScript bareMachine commaFinding.output "" (commaFinding.fileIn projectRoot) projectRoot =
        .ok [commaFinding.diagnostic] := by
  have hnull : (commaFinding.fileIn projectRoot).hasNull = false := by decide
  exact ⟨sound_commaFinding, hnull, (typeScript_output_iff sound_commaFinding hnull
    (unlinked_bareMachine _ _)).mpr (by decide)⟩

/-- A finding in a file whose name holds a parenthesis. -/
def parenthesizedFinding : TypeScriptFinding :=
  { commaFinding with path := ['a', '(', '1', ')', '.', 't', 's'] }

/-- **A finding of the checked file may be lost because of its path.** -/
theorem exists_own_not_reported :
    ¬ ∀ (m : Machine) (root : Path) (f : TypeScriptFinding),
      f.Sound → (f.fileIn root).hasNull = false →
        Machine.Unlinked m.files (m.startOf (f.fileIn root)) (f.fileIn root).parts →
          typeScript m f.output "" (f.fileIn root) root = .ok [f.diagnostic] := by
  intro hall
  have hsound : parenthesizedFinding.Sound :=
    { sound_commaFinding with
      path := by decide
      path_trimmed := by decide
      path_unbroken := by decide }
  have hread := hall bareMachine projectRoot parenthesizedFinding hsound (by decide)
    (unlinked_bareMachine _ _)
  exact absurd (TypeScriptFinding.not_mem_of_reported hsound hread) (by decide)

end Output

end SourceCheck

import SourceCheck.Proofs.Output.OwnFindings
import SourceCheck.Proofs.Output.TypeScriptLine

/-!
# The lines that a finding of the TypeScript compiler owns

The reader goes through the lines once.  It keeps the latest finding open for the lines behind it,
whether it will report it or not, and closes it at the first line that does not belong to it.  What
comes out can be said without any of this: a header owns the longest run of indented lines directly
behind it, and a finding is reported if the path of its header designates the checked file.  So what
belongs to another file can be taken out of the output, and nothing changes.

* `TypeScriptReading.segments`: the headers of some lines, each with the lines that it owns.
* `TypeScriptReading.foldl_step`: what the reader has found after some lines.
* `Reports`: what a diagnostic says of a header and its lines.
* `TypeScriptReading.withoutForeign`: the lines without what belongs to other files.
* `Output.typeScript_by_segments`: the reader reports the segments of the checked file.
-/

namespace SourceCheck

open Text

/-- **A header and the lines that it owns.** -/
structure TypeScriptSegment where
  header : TypeScriptHeader
  owned : List (List Char)
  deriving DecidableEq

namespace TypeScriptSegment

/-- What the reader makes of a segment. -/
def block (s : TypeScriptSegment) : TypeScriptBlock := ⟨s.header, s.owned.map trim⟩

end TypeScriptSegment

namespace TypeScriptReading

variable {l : List Char} {ls : List (List Char)} {header : TypeScriptHeader}
  {r : TypeScriptReading} {b : TypeScriptBlock} {bs : List TypeScriptBlock}
  {keeps : TypeScriptHeader → Bool} {s : TypeScriptSegment}

/-! ## 1. Segments -/

/-- A line that a header above it can own: it is no header and starts with two spaces. -/
def isOwned (l : List Char) : Bool :=
  (TypeScriptHeader.ofLine? l).isNone && [' ', ' '].isPrefixOf l

/-- **The headers of some lines, each with the longest run of lines directly behind it that it can
own.** -/
def segments : List (List Char) → List TypeScriptSegment
  | [] => []
  | l :: ls =>
    match TypeScriptHeader.ofLine? l with
    | some header => ⟨header, ls.takeWhile isOwned⟩ :: segments ls
    | none => segments ls

theorem isOwned_of_header (hl : TypeScriptHeader.ofLine? l = some header) : isOwned l = false := by
  rw [isOwned, hl]
  rfl

theorem segments_header (hl : TypeScriptHeader.ofLine? l = some header) :
    segments (l :: ls) = ⟨header, ls.takeWhile isOwned⟩ :: segments ls := by
  rw [segments, hl]

theorem segments_other (hl : TypeScriptHeader.ofLine? l = none) :
    segments (l :: ls) = segments ls := by
  rw [segments, hl]

theorem headers_segments (ls : List (List Char)) :
    (segments ls).map (·.header) = ls.filterMap TypeScriptHeader.ofLine? := by
  induction ls with
  | nil => rfl
  | cons l ls ih =>
    cases hl : TypeScriptHeader.ofLine? l with
    | some header => rw [segments_header hl, List.map_cons, ih, List.filterMap_cons_some hl]
    | none => rw [segments_other hl, ih, List.filterMap_cons_none hl]

theorem exists_line_of_mem_segments (hs : s ∈ segments ls) :
    ∃ l ∈ ls, TypeScriptHeader.ofLine? l = some s.header := by
  have hmem : s.header ∈ (segments ls).map (·.header) := List.mem_map_of_mem hs
  rw [headers_segments] at hmem
  exact List.mem_filterMap.mp hmem

/-! ## 2. The reader -/

/-- A trimmed line that starts with two spaces says something. -/
theorem isContinuation_eq (hl : EndsFirm l) : isContinuation l = [' ', ' '].isPrefixOf l := by
  rw [isContinuation, Bool.eq_iff_iff, Bool.and_eq_true, List.isPrefixOf_iff_prefix, bne_iff_ne]
  constructor
  · rintro ⟨hspaces, -⟩
    obtain ⟨rest, hrest⟩ := Option.isSome_iff_exists.mp hspaces
    exact ⟨rest, (of_afterWord hrest).symm⟩
  · rintro ⟨rest, rfl⟩
    refine ⟨Option.isSome_iff_exists.mpr ⟨rest, afterWord_append "  " rest⟩, fun hnil => ?_⟩
    obtain ⟨pre, post, hline, hpre, hpost⟩ := exists_trim ([' ', ' '] ++ rest)
    rw [hnil, List.nil_append] at hline
    obtain ⟨c, hc⟩ : ∃ c, ([' ', ' '] ++ rest).getLast? = some c :=
      Option.ne_none_iff_exists'.mp (by simp)
    have hmem : c ∈ pre ++ post := hline ▸ List.mem_of_getLast? hc
    have hblank : isBlank c = true := (List.mem_append.mp hmem).elim (hpre c) (hpost c)
    rw [hl c hc] at hblank
    cases hblank

theorem step_header (hl : TypeScriptHeader.ofLine? l = some header) :
    r.step l = ⟨⟨header, []⟩ :: r.blocks, true⟩ := by
  rw [step, hl]

theorem step_owned (hfirm : EndsFirm l) (hl : isOwned l = true) :
    step ⟨b :: bs, true⟩ l = ⟨{ b with details := b.details ++ [trim l] } :: bs, true⟩ := by
  rw [isOwned, Bool.and_eq_true, Option.isNone_iff_eq_none] at hl
  rw [step, hl.1]
  simp only [isContinuation_eq hfirm, hl.2, Bool.and_self]

theorem step_closed (hl : TypeScriptHeader.ofLine? l = none) :
    step ⟨bs, false⟩ l = ⟨bs, false⟩ := by
  rw [step, hl]
  rfl

theorem step_other (hfirm : EndsFirm l) (hl : TypeScriptHeader.ofLine? l = none)
    (hother : isOwned l = false) : step ⟨bs, true⟩ l = ⟨bs, false⟩ := by
  rw [isOwned, hl, Option.isNone_none, Bool.true_and] at hother
  rw [step, hl]
  simp only [isContinuation_eq hfirm, hother, Bool.and_false]

/-- **What the reader has found after some lines**, latest first.  A finding that is open takes the
lines that it owns; behind it come the segments. -/
theorem foldl_step (hls : ∀ l ∈ ls, EndsFirm l) (bs : List TypeScriptBlock) :
    (ls.foldl step ⟨bs, false⟩).blocks =
        ((segments ls).map TypeScriptSegment.block).reverse ++ bs ∧
      ∀ b, (ls.foldl step ⟨b :: bs, true⟩).blocks =
        ((segments ls).map TypeScriptSegment.block).reverse ++
          { b with details := b.details ++ (ls.takeWhile isOwned).map trim } :: bs := by
  -- Both states go through one induction: a header opens a finding from either, and a line that is
  -- not owned closes the one that is open.
  induction ls generalizing bs with
  | nil =>
    refine ⟨rfl, fun b => ?_⟩
    rw [List.takeWhile_nil, List.map_nil, List.append_nil]
    rfl
  | cons l ls ih =>
    obtain ⟨hfirm, hls⟩ := List.forall_mem_cons.mp hls
    simp only [List.foldl_cons]
    cases hl : TypeScriptHeader.ofLine? l with
    | some header =>
      have hopen := fun bs => (ih hls bs).2 ⟨header, []⟩
      have hblock : (⟨header, [] ++ (ls.takeWhile isOwned).map trim⟩ : TypeScriptBlock) =
          TypeScriptSegment.block ⟨header, ls.takeWhile isOwned⟩ := rfl
      simp only [step_header hl, hopen, segments_header hl, List.map_cons, List.reverse_cons,
        List.append_assoc, List.singleton_append, hblock, true_and]
      intro b
      rw [List.takeWhile_cons_of_neg (by simp [isOwned_of_header hl]), List.map_nil,
        List.append_nil]
    | none =>
      rw [step_closed hl, segments_other hl]
      refine ⟨(ih hls bs).1, fun b => ?_⟩
      cases howned : isOwned l with
      | true =>
        rw [step_owned hfirm howned, (ih hls bs).2, List.takeWhile_cons_of_pos howned,
          List.map_cons, List.append_assoc, List.singleton_append]
      | false =>
        rw [step_other hfirm hl howned, (ih hls (b :: bs)).1,
          List.takeWhile_cons_of_neg (by simp [howned]), List.map_nil, List.append_nil]

/-- **The findings of some lines are their segments.** -/
theorem blocksOf_eq (hls : ∀ l ∈ ls, EndsFirm l) :
    blocksOf ls = (segments ls).map TypeScriptSegment.block := by
  rw [blocksOf, (foldl_step hls []).1, List.append_nil, List.reverse_reverse]

/-! ## 3. Lines of other files -/

/-- **The lines without the headers that are not to be kept**, and without the lines that these
own. -/
def withoutForeign (keeps : TypeScriptHeader → Bool) : List (List Char) → List (List Char)
  | [] => []
  | l :: ls =>
    match TypeScriptHeader.ofLine? l with
    | some header =>
      if keeps header then l :: withoutForeign keeps ls
      else withoutForeign keeps (ls.dropWhile isOwned)
    | none => l :: withoutForeign keeps ls
  termination_by ls => ls.length
  decreasing_by
    · exact Nat.lt_succ_self _
    · exact Nat.lt_succ_of_le (List.dropWhile_sublist _).length_le
    · exact Nat.lt_succ_self _

theorem withoutForeign_sublist (keeps : TypeScriptHeader → Bool) (ls : List (List Char)) :
    (withoutForeign keeps ls).Sublist ls := by
  fun_induction withoutForeign keeps ls with
  | case1 => exact .slnil
  | case2 l ls header hl hkeeps ih => exact ih.cons_cons l
  | case3 l ls header hl hkeeps ih => exact (ih.trans (List.dropWhile_sublist _)).cons l
  | case4 l ls hl ih => exact ih.cons_cons l

/-- What a header above the lines owns stays. -/
theorem takeWhile_withoutForeign (keeps : TypeScriptHeader → Bool) (ls : List (List Char)) :
    (withoutForeign keeps ls).takeWhile isOwned = ls.takeWhile isOwned := by
  fun_induction withoutForeign keeps ls with
  | case1 => rfl
  | case2 l ls header hl hkeeps ih =>
    have hheader : ¬ isOwned l = true := by simp [isOwned_of_header hl]
    rw [List.takeWhile_cons_of_neg hheader, List.takeWhile_cons_of_neg hheader]
  | case3 l ls header hl hkeeps ih =>
    have hheader : ¬ isOwned l = true := by simp [isOwned_of_header hl]
    rw [ih, List.takeWhile_cons_of_neg hheader, List.takeWhile_eq_nil_iff]
    intro hne howned
    exact absurd howned (by simpa using List.dropWhile_get_zero_not isOwned ls hne)
  | case4 l ls hl ih =>
    rw [List.takeWhile_cons, List.takeWhile_cons, ih]

/-- Lines that a header owns are no headers. -/
theorem segments_dropWhile (ls : List (List Char)) :
    segments (ls.dropWhile isOwned) = segments ls := by
  induction ls with
  | nil => rfl
  | cons l ls ih =>
    cases howned : isOwned l with
    | false => rw [List.dropWhile_cons_of_neg (by simp [howned])]
    | true =>
      have hl : TypeScriptHeader.ofLine? l = none := by
        rw [isOwned, Bool.and_eq_true, Option.isNone_iff_eq_none] at howned
        exact howned.1
      rw [List.dropWhile_cons_of_pos howned, ih, segments_other hl]

/-- **The segments that are kept are those of the lines that are left.** -/
theorem segments_withoutForeign (keeps : TypeScriptHeader → Bool) (ls : List (List Char)) :
    segments (withoutForeign keeps ls) = (segments ls).filter fun s => keeps s.header := by
  fun_induction withoutForeign keeps ls with
  | case1 => rfl
  | case2 l ls header hl hkeeps ih =>
    rw [segments_header hl, segments_header hl, takeWhile_withoutForeign, ih, List.filter_cons,
      if_pos hkeeps]
  | case3 l ls header hl hkeeps ih =>
    rw [segments_header hl, ih, segments_dropWhile, List.filter_cons, if_neg hkeeps]
  | case4 l ls hl ih =>
    rw [segments_other hl, segments_other hl, ih]

end TypeScriptReading

/-! ## 4. Diagnostics -/

/-- **What a diagnostic says of a header and the lines that it owns**: the header's position, code
and severity, a plain message being information, and the messages of all the lines, one below the
other. -/
structure Reports (s : TypeScriptSegment) (d : Diagnostic) : Prop where
  line : Position.ofDigits s.header.line = .ok d.line
  column : Position.ofDigits s.header.column = .ok d.column
  severity : d.severity.word =
    if s.header.severity = "message" then "info" else s.header.severity
  code : d.code = s.header.code.map String.ofList
  message : d.message =
    String.ofList (['\n'].intercalate ((s.header.message :: s.owned).map trim))

namespace TypeScriptBlock

theorem joinLines_eq (ls : List (List Char)) : joinLines ls = ['\n'].intercalate ls :=
  eq_intercalate rfl (fun _ => rfl) (fun _ _ _ => rfl) ls

/-- The severity that the reader gives a header. -/
def severityOf (header : TypeScriptHeader) : Severity :=
  Severity.ofLabel (if header.severity == "message" then "info" else header.severity)

theorem word_severityOf {header : TypeScriptHeader} {l : List Char}
    (hl : TypeScriptHeader.ofLine? l = some header) :
    (severityOf header).word =
      if header.severity = "message" then "info" else header.severity := by
  have hwords : ∀ word ∈ TypeScriptHeader.severities,
      (Severity.ofLabel (if word == "message" then "info" else word)).word =
        if word = "message" then "info" else word := by decide
  exact hwords _ (TypeScriptHeader.severity_of_ofLine? hl)

theorem word_injective : Function.Injective Severity.word := by
  intro a b h
  cases a <;> cases b <;> first | rfl | exact absurd h (by decide)

/-- What is reported of a segment, given its position. -/
def reported (s : TypeScriptSegment) (line column : Position) : Diagnostic :=
  ⟨line, column, severityOf s.header,
    String.ofList (joinLines (s.header.message :: s.owned.map trim)),
    s.header.code.map String.ofList⟩

theorem diagnostic_block (s : TypeScriptSegment) :
    s.block.diagnostic = (do
      let line ← Position.ofDigits s.header.line
      let column ← Position.ofDigits s.header.column
      return reported s line column) :=
  rfl

/-- **A block of a segment is read as a diagnostic that reports it.** -/
theorem diagnostic_eq_ok_iff {s : TypeScriptSegment} {d : Diagnostic} {l : List Char}
    (hl : TypeScriptHeader.ofLine? l = some s.header) :
    s.block.diagnostic = .ok d ↔ Reports s d := by
  have hword := word_severityOf hl
  have hmessage : String.ofList (joinLines (s.header.message :: s.owned.map trim)) =
      String.ofList (['\n'].intercalate ((s.header.message :: s.owned).map trim)) := by
    rw [joinLines_eq, List.map_cons, TypeScriptHeader.trim_message hl]
  rw [diagnostic_block]
  constructor
  · intro hd
    cases hline : Position.ofDigits s.header.line with
    | error f =>
      rw [hline] at hd
      cases hd
    | ok line =>
      cases hcolumn : Position.ofDigits s.header.column with
      | error f =>
        rw [hline, hcolumn] at hd
        cases hd
      | ok column =>
        rw [hline, hcolumn] at hd
        have hvalue : reported s line column = d := Except.ok.inj hd
        rw [← hvalue]
        refine ⟨hline, hcolumn, ?_, rfl, hmessage⟩
        dsimp only [reported]
        exact hword
  · intro hd
    obtain ⟨line, column, severity, message, code⟩ := d
    obtain ⟨hline, hcolumn, hseverity, hcode, htext⟩ := hd
    have hsame : severity = severityOf s.header := word_injective (hseverity.trans hword.symm)
    dsimp only at hline hcolumn hcode htext
    rw [hline, hcolumn, hsame, hcode, htext, ← hmessage]
    rfl

end TypeScriptBlock

/-! ## 5. The findings of the checked file -/

namespace Output

open TypeScriptReading

variable {m : Machine} {file root : Path} {stdout stderr : String}

/-- Whether the path of a header designates the checked file. -/
def designates (m : Machine) (file root : Path) (header : TypeScriptHeader) : Except Fault Bool :=
  m.sameFile (some (String.ofList header.path)) file root

/-- Whether the header is one of the checked file. -/
def isOwn (m : Machine) (file root : Path) (header : TypeScriptHeader) : Bool :=
  accepts (designates m file root header)

/-- **Output whose findings can be told from those of other files**: the comparison with the checked
file has an answer for each header. -/
def Compared (m : Machine) (file root : Path) (ls : List (List Char)) : Prop :=
  ∀ header ∈ ls.filterMap TypeScriptHeader.ofLine?, Returns (designates m file root header)

/-- The segments of the checked file. -/
def ownSegments (m : Machine) (file root : Path) (ls : List (List Char)) : List TypeScriptSegment :=
  (segments ls).filter fun s => isOwn m file root s.header

/-- What belongs to other files leaves the segments of the checked file alone. -/
theorem ownSegments_withoutForeign (ls : List (List Char)) :
    ownSegments m file root (withoutForeign (isOwn m file root) ls) =
      ownSegments m file root ls := by
  rw [ownSegments, segments_withoutForeign, List.filter_filter]
  simp only [Bool.and_self]
  rfl

theorem typeScript_eq (h : Compared m file root (outputLines [stdout, stderr])) :
    typeScript m stdout stderr file root =
      (ownSegments m file root (outputLines [stdout, stderr])).mapM
        fun s => s.block.diagnostic := by
  have hfirm : ∀ l ∈ outputLines [stdout, stderr], EndsFirm l := by
    intro l hl
    exact (of_mem_outputLines hl).2
  have hreturns : ∀ b ∈ blocksOf (outputLines [stdout, stderr]),
      Returns (m.sameFile (some (String.ofList b.header.path)) file root) := by
    rw [Compared, ← headers_blocksOf] at h
    exact fun b hb => h b.header (List.mem_map_of_mem hb)
  rw [typeScript, filterM_eq_ok hreturns, blocksOf_eq hfirm, List.filter_map]
  exact List.mapM_map

/-- The reader reports the segments of the checked file, one diagnostic for each and in their
order. -/
theorem typeScript_eq_ok_iff {ds : List Diagnostic}
    (h : Compared m file root (outputLines [stdout, stderr])) :
    typeScript m stdout stderr file root = .ok ds ↔
      List.Forall₂ Reports (ownSegments m file root (outputLines [stdout, stderr])) ds := by
  have hlines : ∀ s ∈ ownSegments m file root (outputLines [stdout, stderr]),
      ∃ l, TypeScriptHeader.ofLine? l = some s.header := by
    intro s hs
    obtain ⟨l, -, hl⟩ := exists_line_of_mem_segments (List.mem_filter.mp hs).1
    exact ⟨l, hl⟩
  rw [typeScript_eq h, mapM_eq_ok_iff]
  constructor
  · intro hread
    refine ((List.forall₂_and_left _ _).mpr ⟨hlines, hread⟩).imp ?_
    rintro s d ⟨⟨l, hl⟩, hd⟩
    exact (TypeScriptBlock.diagnostic_eq_ok_iff hl).mp hd
  · intro hreports
    refine ((List.forall₂_and_left _ _).mpr ⟨hlines, hreports⟩).imp ?_
    rintro s d ⟨⟨l, hl⟩, hd⟩
    exact (TypeScriptBlock.diagnostic_eq_ok_iff hl).mpr hd

/-- What is read at all has been compared. -/
theorem compared_of_returns (h : Returns (typeScript m stdout stderr file root)) :
    Compared m file root (outputLines [stdout, stderr]) := by
  intro header hheader
  exact Machine.returns_sameFile.mpr (returns_typeScript.mp h header hheader).1

theorem Compared.withoutForeign {ls : List (List Char)} (h : Compared m file root ls)
    (keeps : TypeScriptHeader → Bool) :
    Compared m file root (TypeScriptReading.withoutForeign keeps ls) := by
  intro header hheader
  exact h header (((withoutForeign_sublist keeps ls).filterMap _).subset hheader)

/-- **The reader reports the segments of the checked file**, one diagnostic for each and in their
order, and fails only over a number that is too long.  What belongs to other files makes no
difference: the output without it is that of some tool, and is read in the same way. -/
theorem typeScript_by_segments (h : Compared m file root (outputLines [stdout, stderr])) :
    (∀ ds, typeScript m stdout stderr file root = .ok ds ↔
      List.Forall₂ Reports (ownSegments m file root (outputLines [stdout, stderr])) ds) ∧
    (Returns (typeScript m stdout stderr file root) ↔
      ∀ s ∈ ownSegments m file root (outputLines [stdout, stderr]),
        Short s.header.line ∧ Short s.header.column) ∧
    (∃ stdout', outputLines [stdout', ""] =
      withoutForeign (isOwn m file root) (outputLines [stdout, stderr])) ∧
    ∀ stdout' stderr', outputLines [stdout', stderr'] =
        withoutForeign (isOwn m file root) (outputLines [stdout, stderr]) →
      typeScript m stdout' stderr' file root = typeScript m stdout stderr file root := by
  refine ⟨fun ds => typeScript_eq_ok_iff h, ?_, ?_, ?_⟩
  · rw [typeScript_eq h, returns_mapM]
    exact forall₂_congr fun s _ => TypeScriptBlock.returns_diagnostic s.block
  · refine ⟨_, outputLines_of_lines fun l hl => ?_⟩
    exact of_mem_outputLines ((withoutForeign_sublist _ _).subset hl)
  · intro stdout' stderr' hlines
    have hcompared : Compared m file root (outputLines [stdout', stderr']) :=
      hlines ▸ h.withoutForeign (isOwn m file root)
    rw [typeScript_eq hcompared, typeScript_eq h, hlines, ownSegments_withoutForeign]

/-- A machine without files. -/
def bareMachine : Machine := { files := ⟨[]⟩ }

/-- A finding of the file `a.ts` and one of another file, both with a second line. -/
def twoFindings : String :=
  "a.ts(1,2): error TS7: first\n  second\nb.ts(3,4): error TS8: other\n  more\n"

/-- The finding of the file `a.ts`. -/
def ownFinding : Diagnostic :=
  ⟨.first, .ofNat 2, .error, "first\nsecond", some "TS7"⟩

/-- The file that is checked, and the root of its project. -/
def checkedFile : Path := ⟨.root, ["w", "a.ts"]⟩

def projectRoot : Path := ⟨.root, ["w"]⟩

/-- What the headers of the two findings say. -/
def ownHeader : TypeScriptHeader :=
  ⟨['a', '.', 't', 's'], ['1'], ['2'], "error", some ['T', 'S', '7'], ['f', 'i', 'r', 's', 't']⟩

def otherHeader : TypeScriptHeader :=
  ⟨['b', '.', 't', 's'], ['3'], ['4'], "error", some ['T', 'S', '8'], ['o', 't', 'h', 'e', 'r']⟩

theorem typeScript_by_segments_two :
    Compared bareMachine checkedFile projectRoot (outputLines [twoFindings, ""]) ∧
    typeScript bareMachine twoFindings "" checkedFile projectRoot = .ok [ownFinding] := by
  have hsegments : segments (outputLines [twoFindings, ""]) =
      [⟨ownHeader, ["  second".toList]⟩, ⟨otherHeader, ["  more".toList]⟩] := by
    decide
  have hcompared :
      Compared bareMachine checkedFile projectRoot (outputLines [twoFindings, ""]) := by
    rw [Compared, ← headers_segments, hsegments, List.map_cons, List.map_singleton,
      List.forall_mem_cons, List.forall_mem_singleton]
    exact ⟨⟨true, by decide⟩, ⟨false, by decide⟩⟩
  have hown : isOwn bareMachine checkedFile projectRoot ownHeader = true ∧
      ¬ isOwn bareMachine checkedFile projectRoot otherHeader = true := by
    decide
  refine ⟨hcompared, ((typeScript_by_segments hcompared).1 [ownFinding]).mpr ?_⟩
  rw [ownSegments, hsegments, List.filter_cons, if_pos hown.1, List.filter_cons, if_neg hown.2,
    List.filter_nil]
  exact .cons ⟨by decide, by decide, by decide, by decide, by decide⟩ .nil

/-- A header whose line is one, written with more digits than are read. -/
def paddedLine : TypeScriptLine :=
  ⟨['a', '.', 't', 's'], List.replicate Fault.digitLimit '0' ++ ['1'], ['2'], .error, ['1'], ['m']⟩

theorem sound_paddedLine : paddedLine.Sound where
  path := by decide
  line := by
    refine ⟨by simp [paddedLine], fun c hc => ?_⟩
    rcases List.mem_append.mp hc with hc | hc
    · rw [List.eq_of_mem_replicate hc]
      decide
    · rw [List.mem_singleton.mp hc]
      decide
  column := by decide
  code := by decide
  message := by decide
  trimmed := by decide

/-- **The comparison with the checked file may have an answer for every header, and yet nothing is
reported**: the number of a position may be too long to be read. -/
theorem exists_compared_not_read :
    ¬ ∀ (m : Machine) (stdout stderr : String) (file root : Path),
      Compared m file root (outputLines [stdout, stderr]) →
        ∃ ds, typeScript m stdout stderr file root = .ok ds := by
  intro hall
  have hlines : outputLines [String.ofList paddedLine.text, ""] = [paddedLine.text] :=
    TypeScriptLine.outputLines_text sound_paddedLine (by decide) (by decide)
  have hheaders : (outputLines [String.ofList paddedLine.text, ""]).filterMap
      TypeScriptHeader.ofLine? = [paddedLine.header] := by
    rw [hlines, List.filterMap_cons_some (TypeScriptLine.ofLine?_text sound_paddedLine (by decide)),
      List.filterMap_nil]
  have hown : bareMachine.sameFile (some (String.ofList paddedLine.header.path))
      checkedFile projectRoot = .ok true := by decide
  have hcompared : Compared bareMachine checkedFile projectRoot
      (outputLines [String.ofList paddedLine.text, ""]) := by
    rw [Compared, hheaders, List.forall_mem_singleton]
    exact ⟨true, hown⟩
  have hread := returns_typeScript.mp (hall _ _ _ _ _ hcompared)
  rw [hheaders, List.forall_mem_singleton] at hread
  have hshort : Short paddedLine.line := (hread.2 hown).1
  rw [Short, paddedLine, List.length_append, List.length_replicate] at hshort
  exact absurd hshort (Nat.not_succ_le_self _)

end Output

end SourceCheck

import SourceCheck.Proofs.Json.RoundTrip
import SourceCheck.Proofs.Output.TypeScriptBlocks

/-!
# The findings in a Pyright report

A report may have any shape: whatever is not where it should be, or is not what it should be, counts
as not given, and what is given beside it still counts.  So a report comes to its entries, an entry
to a finding, and each part of the finding to what is found at the end of one path of keys.  Only a
text in the place of a line or a character is read as a number, and may fail; reports without one
are read in full.

* `Json.at?`: what is found at the end of a path of keys.
* `Pyright.entriesOf`: the objects among the items of `generalDiagnostics`.
* `Pyright.concerns`: whether an entry is about the checked file.
* `Pyright.Reports`: what a finding says of an entry.
* `Output.pyright_reports`: one finding for each entry about the checked file, in order.
-/

namespace SourceCheck

open Text

/-! ## 1. Places in a document -/

namespace Json

/-- **What is found at the end of a path of keys**, if each of its steps leads into an object that
has the key. -/
def at? (v : Json) : List String → Option Json
  | [] => some v
  | key :: path => (v.member? key).bind (·.at? path)

/-- The members of an object. -/
def members? : Json → Option Members
  | object ms => some ms
  | _ => none

theorem get?_membersOf (v : Option Json) (key : String) :
    (membersOf v).get? key = v.bind (·.member? key) := by
  rcases v with _ | v
  · rfl
  · cases v <;> rfl

theorem at?_singleton (v : Json) (key : String) : v.at? [key] = v.member? key := by
  rw [at?]
  cases v.member? key <;> rfl

theorem at?_object (ms : Members) (key : String) : (object ms).at? [key] = ms.get? key :=
  at?_singleton (object ms) key

/-- Members of members are what is found at the end of a path. -/
theorem get?_membersOf_membersOf (ms : Members) (first second third : String) :
    (membersOf ((membersOf (ms.get? first)).get? second)).get? third =
      (object ms).at? [first, second, third] := by
  rw [get?_membersOf, get?_membersOf, Option.bind_assoc]
  simp only [at?, member?]
  refine Option.bind_congr fun v _ => Option.bind_congr fun w _ => ?_
  exact (at?_singleton w third).symm

end Json

namespace Machine

variable {m : Machine}

/-- Whether two paths lead to the same place; where one of them does not resolve, they have to have
the same name. -/
def Same (m : Machine) (p q : Path) : Prop :=
  if (m.resolve p).isOk ∧ (m.resolve q).isOk then m.resolve p = m.resolve q else p.name = q.name

instance (m : Machine) (p q : Path) : Decidable (m.Same p q) :=
  inferInstanceAs (Decidable (if (m.resolve p).isOk ∧ (m.resolve q).isOk then
    m.resolve p = m.resolve q else p.name = q.name))

/-- **Whether a path that a tool reports designates the checked file**: seen from the project root,
without outer white space, it is the same. -/
def Designates (m : Machine) (file root : Path) (reported : String) : Prop :=
  m.Same (root.join (Path.ofString (String.ofList (trim reported.toList)))) file

instance (m : Machine) (file root : Path) (reported : String) :
    Decidable (m.Designates file root reported) :=
  inferInstanceAs (Decidable (m.Same _ _))

/-- **Comparing two paths**, as far as both resolve or the system refuses to resolve them. -/
theorem same_eq {p q : Path} (hp : m.Resolves p) (hq : Returns (m.resolve p) → m.Resolves q) :
    m.same p q = .ok (decide (m.Same p q)) := by
  obtain ⟨r, hr⟩ : ∃ r, m.resolve p = r := ⟨_, rfl⟩
  obtain ⟨s, hs⟩ : ∃ s, m.resolve q = s := ⟨_, rfl⟩
  cases r with
  | error f => simp [same, Same, hr, hp f hr, Except.isOk, Except.toBool, beq_eq_decide]
  | ok a =>
    cases s with
    | error f => simp [same, Same, hr, hs, hq ⟨a, hr⟩ f hs, Except.isOk, Except.toBool, beq_eq_decide]
    | ok b => simp [same, Same, hr, hs, Except.isOk, Except.toBool, beq_eq_decide]

end Machine

namespace Pyright

/-! ## 2. Entries -/

/-- **The entries of a report**: the objects among the items of its `generalDiagnostics`. -/
def entriesOf (document : Option Json) : List Json.Members :=
  match document.bind (·.at? ["generalDiagnostics"]) with
  | some (.array items) => items.filterMap Json.members?
  | _ => []

/-- **Whether an entry is about the checked file**: it names no file, or an empty one, or one that
designates the checked file. -/
def concerns (m : Machine) (file root : Path) (entry : Json.Members) : Bool :=
  match (Json.object entry).at? ["file"] with
  | some (.string reported) => reported == "" || decide (m.Designates file root reported)
  | _ => true

/-- **The line or character of a place that is counted from zero**, counted from one.  What is no
whole number, and what lies before the first, counts as the first. -/
def placeOf : Option Json → Int
  | some (.int n) => max (n + 1) 1
  | _ => 1

/-- **How bad a finding is** that a value says it is.  What is no word of Pyright's is an error. -/
def gradeOf : Option Json → Severity
  | some (.string label) =>
    if Severity.normal label = "warning" then .warning
    else if Severity.normal label = "information" ∨ Severity.normal label = "hint" then .info
    else .error
  | _ => .error

/-- What a value says.  One that is no text says nothing. -/
def messageOf : Option Json → String
  | some (.string message) => message
  | _ => ""

/-- The code that a value is, if it is a text. -/
def codeOf : Option Json → Option String
  | some (.string rule) => some rule
  | _ => none

/-- **What a finding says of an entry.** -/
structure Reports (entry : Json.Members) (d : Diagnostic) : Prop where
  line : d.line.value = placeOf ((Json.object entry).at? ["range", "start", "line"])
  column : d.column.value = placeOf ((Json.object entry).at? ["range", "start", "character"])
  severity : d.severity = gradeOf ((Json.object entry).at? ["severity"])
  message : d.message = messageOf ((Json.object entry).at? ["message"])
  code : d.code = codeOf ((Json.object entry).at? ["rule"])

/-- **Entries whose places are no texts.** -/
def Placed (entry : Json.Members) : Prop :=
  ∀ key ∈ ["line", "character"], ∀ text,
    (Json.object entry).at? ["range", "start", key] ≠ some (.string text)

/-! ## 3. What the reader makes of an entry -/

variable {m : Machine} {file root : Path} {entry : Json.Members} {entries : List Json.Members}

theorem entriesOf_eq (document : Option Json) :
    Json.objectsIn ((Json.membersOf document).get? "generalDiagnostics") = entriesOf document := by
  rw [Json.get?_membersOf, entriesOf]
  simp only [Json.at?_singleton]
  rfl

/-- **The comparison with the checked file** says whether the entry is about it. -/
theorem sameFile_eq
    (h : m.Comparable (Json.text? ((Json.object entry).at? ["file"])) file root) :
    m.sameFile (Json.text? (entry.get? "file")) file root = .ok (concerns m file root entry) := by
  rw [Json.at?_object] at h
  rw [concerns, Json.at?_object]
  cases hfile : entry.get? "file" with
  | none => rfl
  | some v =>
    cases v with
    | string reported =>
      rw [hfile] at h
      by_cases hempty : reported = ""
      · rw [hempty]
        rfl
      · obtain ⟨hcandidate, hfile⟩ := h reported rfl hempty
        have hnamed : (reported == "") = false := beq_eq_false_iff_ne.mpr hempty
        have hsame := Machine.same_eq hcandidate hfile
        simp only [Json.text?, Machine.sameFile, hnamed, Bool.false_eq_true, if_false, hsame,
          Bool.false_or]
        rfl
    | _ => rfl

/-- A value that is no text gives a place. -/
theorem exists_place {v : Option Json} (h : ∀ text, v ≠ some (.string text)) :
    ∃ p, Position.ofValue 1 (v.getD .null) = .ok p ∧ (p.value : Int) = placeOf v := by
  cases v with
  | none => exact ⟨.first, rfl, rfl⟩
  | some v =>
    cases v with
    | int n =>
      refine ⟨.ofInt (n + 1), rfl, ?_⟩
      rw [placeOf, Position.ofInt, Position.value_ofNat]
      omega
    | string text => exact absurd rfl (h text)
    | _ => exact ⟨.first, rfl, rfl⟩

theorem severityOf_eq (v : Option Json) : severityOf vocabulary .error v = gradeOf v := by
  cases v with
  | none => rfl
  | some v =>
    cases v with
    | string label =>
      rw [severityOf, gradeOf, Severity.ofVocabulary]
      generalize Severity.normal label = word
      by_cases hword : word ∈ vocabulary.map (·.1)
      · have hall : ∀ word ∈ vocabulary.map (·.1),
            ((vocabulary.find? fun e => e.1 == word).map (·.2)).getD .error =
              if word = "warning" then .warning
              else if word = "information" ∨ word = "hint" then .info else .error := by
          decide
        exact hall word hword
      · have hnone : vocabulary.find? (fun e => e.1 == word) = none := by
          rw [List.find?_eq_none]
          intro e he heq
          exact hword (List.mem_map.mpr ⟨e, he, beq_iff_eq.mp heq⟩)
        simp only [vocabulary, List.map_cons, List.mem_cons, not_or] at hword
        rw [hnone, if_neg hword.2.1, if_neg (by simp [hword])]
        rfl
    | _ => rfl

theorem messageOf_eq (v : Option Json) : (Json.text? v).getD "" = messageOf v := by
  rcases v with _ | v
  · rfl
  · cases v <;> rfl

theorem codeOf_eq (v : Option Json) : Json.text? v = codeOf v := by
  rcases v with _ | v
  · rfl
  · cases v <;> rfl

/-- **An entry is read as a finding that reports it.** -/
theorem exists_reports (h : Placed entry) : ∃ d, diagnostic entry = .ok d ∧ Reports entry d := by
  obtain ⟨line, hline, hlineValue⟩ := exists_place (h "line" (by simp))
  obtain ⟨column, hcolumn, hcolumnValue⟩ := exists_place (h "character" (by simp))
  rw [← Json.get?_membersOf_membersOf] at hline hcolumn
  refine ⟨⟨line, column, _, _, _⟩, ?_, hlineValue, hcolumnValue, rfl, rfl, rfl⟩
  rw [diagnostic, hline, hcolumn, severityOf_eq, messageOf_eq, codeOf_eq, ← Json.at?_object,
    ← Json.at?_object, ← Json.at?_object]
  rfl

/-- **The entries about the checked file are read**, in order, as findings that report them. -/
theorem exists_findings
    (hpaths : ∀ entry ∈ entries,
      m.Comparable (Json.text? ((Json.object entry).at? ["file"])) file root)
    (hplaced : ∀ entry ∈ entries, Placed entry) :
    ∃ ds, findings m file root entries = .ok ds ∧
      List.Forall₂ Reports (entries.filter (concerns m file root)) ds := by
  induction entries with
  | nil => exact ⟨[], rfl, .nil⟩
  | cons entry entries ih =>
    obtain ⟨hpath, hpaths⟩ := List.forall_mem_cons.mp hpaths
    obtain ⟨hplace, hplaced⟩ := List.forall_mem_cons.mp hplaced
    obtain ⟨ds, hds, hreports⟩ := ih hpaths hplaced
    rw [findings, sameFile_eq hpath]
    cases hown : concerns m file root entry with
    | false =>
      rw [List.filter_cons_of_neg (by simp [hown])]
      exact ⟨ds, hds, hreports⟩
    | true =>
      obtain ⟨d, hd, hreport⟩ := exists_reports hplace
      rw [List.filter_cons_of_pos hown]
      exact ⟨d :: ds, by rw [hd, hds]; rfl, .cons hreport hreports⟩

end Pyright

namespace Output

open Pyright

variable {m : Machine} {file root : Path} {stdout : String} {document : Option Json}

/-- **One finding is reported for each entry about the checked file**, in order, and each says what
the entry does. -/
theorem pyright_reports
    (hread : Json.inOutput? (.file m.nesting .unfollowed) stdout = .ok document)
    (hpaths : ∀ entry ∈ entriesOf document,
      m.Comparable (Json.text? ((Json.object entry).at? ["file"])) file root)
    (hplaced : ∀ entry ∈ entriesOf document, Placed entry) :
    ∃ ds, pyright m stdout file root = .ok ds ∧
      List.Forall₂ Pyright.Reports ((entriesOf document).filter (concerns m file root)) ds := by
  rw [← entriesOf_eq] at hpaths hplaced ⊢
  obtain ⟨ds, hds, hreports⟩ := exists_findings hpaths hplaced
  refine ⟨ds, ?_, hreports⟩
  rw [pyright, hread]
  exact hds

/-- An entry about the file `a.ts`, with a line far before the first and a truth value for a
character. -/
def ownEntry : Json.Members := [
  ("file", .string "a.ts"), ("severity", .string " Warning"), ("message", .int 7),
  ("range", .object [("start", .object [("line", .int (-5)), ("character", .bool true)])])]

/-- An entry about another file. -/
def otherEntry : Json.Members := [("file", .string "b.ts")]

/-- A report with both entries, and something else between them. -/
def mixedReport : Json :=
  .object [("generalDiagnostics", .array [.object ownEntry, .null, .object otherEntry])]

def mixedText : String := String.ofList (Json.write Json.Layout.line 0 mixedReport)

theorem inOutput?_mixedText :
    Json.inOutput? (.file bareMachine.nesting .unfollowed) mixedText = .ok (some mixedReport) := by
  have hfits : Json.Fits (.file bareMachine.nesting .unfollowed) 0 mixedReport := by
    simp only [mixedReport, ownEntry, otherEntry, Json.Fits, Json.ItemsFit, Json.MembersFit]
    decide
  have htrim : trim (Json.write Json.Layout.line 0 mixedReport) =
      Json.write Json.Layout.line 0 mixedReport := by
    refine trim_of_firm (fun c hc => Option.some.inj hc ▸ by decide) fun c hc => ?_
    rw [mixedReport, Json.write, List.getLast?_append_of_ne_nil _ (by decide)] at hc
    exact Option.some.inj hc ▸ by decide
  refine Json.inOutput?_of_readChars ?_
  rw [mixedText, String.toList_ofList, htrim]
  exact (congrArg _ (List.append_nil _)).symm.trans (Json.readChars_write hfits 0 rfl)

theorem pyright_reports_mixed :
    Json.inOutput? (.file bareMachine.nesting .unfollowed) mixedText = .ok (some mixedReport) ∧
    (∀ entry ∈ entriesOf (some mixedReport), bareMachine.Comparable
      (Json.text? ((Json.object entry).at? ["file"])) checkedFile projectRoot) ∧
    (∀ entry ∈ entriesOf (some mixedReport), Placed entry) ∧
    ∃ ds, pyright bareMachine mixedText checkedFile projectRoot = .ok ds ∧
      List.Forall₂ Pyright.Reports [ownEntry] ds := by
  have hentries : entriesOf (some mixedReport) = [ownEntry, otherEntry] := rfl
  have hpaths : ∀ entry ∈ entriesOf (some mixedReport), bareMachine.Comparable
      (Json.text? ((Json.object entry).at? ["file"])) checkedFile projectRoot := by
    rw [hentries, List.forall_mem_cons, List.forall_mem_singleton, ← Machine.returns_sameFile,
      ← Machine.returns_sameFile]
    exact ⟨⟨true, by decide⟩, ⟨false, by decide⟩⟩
  have hplaced : ∀ entry ∈ entriesOf (some mixedReport), Placed entry := by
    rw [hentries, List.forall_mem_cons, List.forall_mem_singleton]
    constructor
    · intro key hkey text
      rcases List.mem_cons.mp hkey with rfl | hkey
      · nofun
      · obtain rfl := List.mem_singleton.mp hkey
        nofun
    · exact fun key _ text => nofun
  have hown : (entriesOf (some mixedReport)).filter
      (concerns bareMachine checkedFile projectRoot) = [ownEntry] := by
    rw [hentries, List.filter_cons_of_pos (by decide), List.filter_cons_of_neg (by decide),
      List.filter_nil]
  have hread := pyright_reports inOutput?_mixedText hpaths hplaced
  rw [hown] at hread
  exact ⟨inOutput?_mixedText, hpaths, hplaced, hread⟩

end Output

end SourceCheck

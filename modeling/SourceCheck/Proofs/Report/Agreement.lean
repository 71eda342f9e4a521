import Mathlib.Data.List.Forall2
import SourceCheck.Proofs.Check.Calling
import SourceCheck.Proofs.Output.Returning
import SourceCheck.Proofs.Report.Message

/-!
# The exit code, the message and the report agree

The exit code looks at the findings of a result, the message for an editor at its status and then at
the findings, and the report for a person at the status alone.  They tell the same story because the
engine gives findings to completed checks only.

* `Sendable`, `returns_message?_iff`: when a message can be written.
* `Legible`: a result whose numbers are all short enough to be written.
* `Shows`, `lines_of_completed`: the lines of a report, one for each finding.
* `Agrees`: what the exit code, the message and the report of a result have to do with each other.
* `check_agrees`: the result of every check agrees.
-/

namespace SourceCheck

namespace Number

/-- The numbers that can be written are those below a power of ten. -/
theorem isWritable_iff_lt {n : Nat} : isWritable n = true ↔ n < Nat.pow 10 Fault.digitLimit := by
  have hlength : ∀ k, 0 < k → ((Nat.toDigits 10 n).length ≤ k ↔ n < Nat.pow 10 k) :=
    fun k hk => Nat.length_toDigits_le_iff (by decide) hk
  rw [isWritable, decide_eq_true_eq, Int.natAbs_natCast, hlength _ (by decide)]

theorem isWritable_of_le {m n : Nat} (hle : m ≤ n) (h : isWritable n = true) :
    isWritable m = true :=
  isWritable_iff_lt.mpr (Nat.lt_of_le_of_lt hle (isWritable_iff_lt.mp h))

end Number

/-- Reading each item of a list keeps what holds of every item and its value. -/
theorem exists_mapM {α β : Type} {f : α → Except Fault β} {P : β → α → Prop} {l : List α}
    (h : ∀ a ∈ l, ∃ b, f a = .ok b ∧ P b a) : ∃ bs, l.mapM f = .ok bs ∧ List.Forall₂ P bs l := by
  induction l with
  | nil => exact ⟨[], rfl, .nil⟩
  | cons a l ih =>
    obtain ⟨b, hb, hP⟩ := h a List.mem_cons_self
    obtain ⟨bs, hbs, hall⟩ := ih fun x hx => h x (List.mem_cons_of_mem _ hx)
    refine ⟨b :: bs, ?_, .cons hP hall⟩
    rw [List.mapM_cons, hb, hbs]
    rfl

namespace Report

variable {r : CheckResult} {d : Diagnostic}

/-! ## 1. Numbers that can be written -/

/-- **A finding whose position can be written.** -/
structure Placed (d : Diagnostic) : Prop where
  line : Number.isWritable d.line.value = true
  column : Number.isWritable d.column.value = true

/-- **A result whose numbers can be written**: its positions, and the number of its findings, which
no machine has the memory to exceed. -/
structure Legible (r : CheckResult) : Prop where
  positions : ∀ d ∈ r.diagnostics, Placed d
  size : Number.isWritable r.diagnostics.length = true

/-- **Findings that can be sent**: the positions and the two counts can be written. -/
structure Sendable (r : CheckResult) : Prop where
  positions : ∀ d ∈ r.diagnostics, Placed d
  errors : Number.isWritable r.tally.errors = true
  warnings : Number.isWritable r.tally.warnings = true

theorem Legible.sendable (h : Legible r) : Sendable r :=
  ⟨h.positions, Number.isWritable_of_le List.countP_le_length h.size,
    Number.isWritable_of_le List.countP_le_length h.size⟩

theorem isWritable_diagnosticDocument : (diagnosticDocument d).isWritable = true ↔ Placed d := by
  have hcode : ∀ code : Json.Members, Json.membersWritable code = true →
      ((Json.object ([("line", .int d.line.value), ("column", .int d.column.value),
        ("severity", .string d.severity.word), ("message", .string d.message)] ++ code)).isWritable =
          true ↔ Placed d) := by
    intro code hcode
    simp only [List.cons_append, List.nil_append, Json.isWritable, Json.membersWritable, hcode,
      Bool.and_true, Bool.and_eq_true]
    constructor
    · rintro ⟨hline, hcolumn⟩
      exact ⟨hline, hcolumn⟩
    · intro h
      exact ⟨h.line, h.column⟩
  rw [diagnosticDocument]
  cases nonEmpty? d.code with
  | none => exact hcode [] rfl
  | some c => exact hcode [("code", .string c)] rfl

theorem isWritable_findingsDocument : (findingsDocument r).isWritable = true ↔ Sendable r := by
  have hentries : Json.areWritable (r.diagnostics.map diagnosticDocument) = true ↔
      ∀ d ∈ r.diagnostics, Placed d := by
    rw [areWritable_iff, List.forall_mem_map]
    simp only [isWritable_diagnosticDocument]
  have hlanguage : (textOrNull r.language).isWritable = true := by
    cases r.language <;> rfl
  simp only [findingsDocument, Json.isWritable, Json.membersWritable, hlanguage, hentries,
    Bool.true_and, Bool.and_true, Bool.and_eq_true]
  constructor
  · rintro ⟨herrors, hwarnings, hpositions⟩
    exact ⟨hpositions, herrors, hwarnings⟩
  · intro h
    exact ⟨h.errors, h.warnings, h.positions⟩

theorem isWritable_statusDocument : (statusDocument r).isWritable = true := by
  have htext : ∀ t : Option String, (textOrNull t).isWritable = true := by
    intro t
    cases t <;> rfl
  simp only [statusDocument, Json.isWritable, Json.membersWritable, htext, Bool.and_true]

/-! ## 2. When there is a message -/

theorem document?_of_completed (hv : r.status = .completed) :
    document? r = if r.tally.needsAttention then some (findingsDocument r) else none := by
  simp only [document?, hv]

/-- **There is nothing to tell** about a file that is not checked, and about findings that need no
attention. -/
theorem document?_eq_none_iff : document? r = none ↔ r.status = .unsupported ∨
    r.status = .disabled ∨ r.status = .completed ∧ r.tally.needsAttention = false := by
  rw [document?]
  cases hv : r.status <;> simp

theorem document?_cases {doc : Json} (h : document? r = some doc) :
    (r.status = .completed ∧ r.tally.needsAttention = true ∧ doc = findingsDocument r) ∨
      (r.status ≠ .completed ∧ doc = statusDocument r) := by
  rw [document?] at h
  cases hv : r.status <;> simp_all

theorem returns_compact {v : Json} :
    Returns (v.compact.map fun body => some (wrapped body)) ↔ v.isWritable = true := by
  rw [returns_map, Json.compact]
  split
  · rename_i h
    exact iff_of_true (returns_ok _) h
  · rename_i h
    exact iff_of_false (not_returns_error _) h

/-- **When there is a message, or none to be sent**: only findings can fail to be written. -/
theorem returns_message?_iff : Returns (message? r) ↔
    (r.status = .completed → r.tally.needsAttention = true → Sendable r) := by
  rw [message?]
  cases hdoc : document? r with
  | none =>
    refine iff_of_true (returns_ok _) fun hv hattention => ?_
    rw [document?_of_completed hv, if_pos hattention] at hdoc
    cases hdoc
  | some doc =>
    dsimp only
    rw [returns_compact]
    rcases document?_cases hdoc with ⟨hv, hattention, rfl⟩ | ⟨hv, rfl⟩
    · rw [isWritable_findingsDocument]
      exact ⟨fun h _ _ => h, fun h => h hv hattention⟩
    · exact iff_of_true isWritable_statusDocument fun hcompleted => absurd hcompleted hv

theorem message?_eq_none_iff : message? r = .ok none ↔ document? r = none := by
  rw [message?]
  cases document? r with
  | none => exact iff_of_true rfl rfl
  | some doc =>
    refine iff_of_false ?_ (Option.some_ne_none doc)
    intro h
    dsimp only at h
    cases hdoc : doc.compact with
    | error f =>
      rw [hdoc] at h
      cases h
    | ok body =>
      rw [hdoc] at h
      cases h

theorem needsAttention_eq_false_iff :
    r.tally.needsAttention = false ↔ ∀ d ∈ r.diagnostics, d.severity = .info := by
  rw [← Bool.not_eq_true, CheckResult.tally, Tally.needsAttention_of_iff]
  constructor
  · intro h d hd
    cases hs : d.severity with
    | info => rfl
    | error => exact absurd ⟨d, hd, .inl hs⟩ h
    | warning => exact absurd ⟨d, hd, .inr hs⟩ h
  · rintro h ⟨d, hd, hs⟩
    rw [h d hd] at hs
    rcases hs with hs | hs <;> cases hs

/-! ## 3. The lines of a report -/

/-- What stands behind a finding's message: its code in brackets, if it has one. -/
inductive CodeText : Option String → String → Prop
  | none : CodeText none ""
  | empty : CodeText (some "") ""
  | some {c : String} (h : c ≠ "") : CodeText (some c) (" (" ++ c ++ ")")

/-- **A line that shows a finding**: its severity, its place, its message and its code. -/
structure Shows (line : ReportLine) (d : Diagnostic) : Prop where
  text : ∃ code, CodeText d.code code ∧
    line.text = "  [" ++ d.severity.word ++ "] " ++ toString d.line.value ++ ":" ++
      toString d.column.value ++ ": " ++ d.message ++ code
  style : line.style = some (styleOf d.severity)

theorem exists_codeText (code : Option String) :
    CodeText code (match nonEmpty? code with
      | some c => " (" ++ c ++ ")"
      | none => "") := by
  cases code with
  | none => exact .none
  | some c =>
    by_cases hc : c = ""
    · subst hc
      exact .empty
    · rw [nonEmpty?_eq_some_iff.mpr ⟨rfl, hc⟩]
      exact .some hc

theorem exists_findingLine (h : Placed d) : ∃ line, findingLine d = .ok line ∧ Shows line d := by
  rw [findingLine, diagnosticLine, Number.writeInteger, if_pos h.line, Number.writeInteger,
    if_pos h.column]
  exact ⟨_, rfl, ⟨_, exists_codeText d.code, rfl⟩, rfl⟩

/-- **The report of a completed check**: the verdict, and a line for every finding in order. -/
theorem lines_of_completed (hv : r.status = .completed) (h : ∀ d ∈ r.diagnostics, Placed d) :
    ∃ shown, lines r = .ok (summaryLine r :: shown) ∧ List.Forall₂ Shows shown r.diagnostics := by
  obtain ⟨shown, hshown, hall⟩ := exists_mapM fun d hd => exists_findingLine (h d hd)
  refine ⟨shown, ?_, hall⟩
  rw [lines, (statusMessage?_eq_none_iff r).mpr hv, hshown]
  rfl

/-- The report of any other check is one line. -/
theorem lines_of_not_completed (hv : r.status ≠ .completed) : ∃ line, lines r = .ok [line] := by
  rw [lines]
  cases hmessage : statusMessage? r with
  | none => exact absurd ((statusMessage?_eq_none_iff r).mp hmessage) hv
  | some message => exact ⟨_, rfl⟩

theorem not_marked_success (rest : List Char) :
    ¬ failureMarker.toList <+: successMarker.toList ++ rest := by
  rintro ⟨more, hmore⟩
  have hhead := congrArg List.head? hmore
  simp [failureMarker, successMarker] at hhead

/-- **A verdict starts with the failure marker** exactly if something needs attention. -/
theorem marked_summary_iff (t : Tally) :
    failureMarker.toList <+: (summary t).toList ↔ t.needsAttention = true := by
  rw [summary]
  split
  · rename_i h
    simp only [String.toList_append, List.append_assoc]
    exact iff_of_true (List.prefix_append _ _) h
  · rename_i h
    refine iff_of_false ?_ h
    split
    · rw [String.toList_append]
      exact not_marked_success _
    · simp only [String.toList_append, List.append_assoc]
      exact not_marked_success _

/-! ## 4. Agreement -/

/-- **A message that counts findings**: it can be found, its document can be read, and the errors
and warnings that the document counts are not both none. -/
def Counts (text : String) : Prop :=
  ∃ body doc errors warnings, Framed text body ∧
    (∀ room halfPair, Json.read (.file room halfPair) body = .ok doc) ∧
    doc.member? "errors" = some (.int errors) ∧ doc.member? "warnings" = some (.int warnings) ∧
    0 < errors + warnings

/-- **The exit code, the message and the report of a result** tell the same. -/
structure Agrees (r : CheckResult) : Prop where
  /-- The exit code is two for findings that need attention. -/
  attention : r.exitCode = 2 ↔ r.status = .completed ∧
    ∃ d ∈ r.diagnostics, d.severity = .error ∨ d.severity = .warning
  /-- There is no third exit code. -/
  clean : r.exitCode ≠ 2 → r.exitCode = 0
  answered : ∃ m, message? r = .ok m
  /-- An editor is told nothing about files that are not checked and findings that only inform. -/
  silent : message? r = .ok none ↔ r.status = .unsupported ∨ r.status = .disabled ∨
    r.status = .completed ∧ ∀ d ∈ r.diagnostics, d.severity = .info
  /-- With exit code two there is a message about it. -/
  told : r.exitCode = 2 → ∃ text, message? r = .ok (some text) ∧ Counts text
  /-- A person sees a verdict, with the failure marker for exit code two, and every finding. -/
  shown : r.status = .completed → ∃ verdict findings, lines r = .ok (verdict :: findings) ∧
    (failureMarker.toList <+: verdict.text.toList ↔ r.exitCode = 2) ∧
    List.Forall₂ Shows findings r.diagnostics
  /-- About any other check a person sees one line. -/
  oneLine : r.status ≠ .completed → ∃ line, lines r = .ok [line]

theorem exitCode_eq_two_iff : r.exitCode = 2 ↔ r.tally.needsAttention = true := by
  rw [CheckResult.exitCode]
  split <;> simp_all [CheckResult.attentionCode, CheckResult.cleanCode]

theorem member?_findingsDocument (r : CheckResult) :
    (findingsDocument r).member? "errors" = some (.int r.tally.errors) ∧
      (findingsDocument r).member? "warnings" = some (.int r.tally.warnings) := ⟨rfl, rfl⟩

/-- **Findings that need attention are told** to the editor. -/
theorem exists_counts (hv : r.status = .completed) (h : r.tally.needsAttention = true)
    (hsend : Sendable r) : ∃ text, message? r = .ok (some text) ∧ Counts text := by
  have hdoc : document? r = some (findingsDocument r) := by
    rw [document?_of_completed hv, if_pos h]
  obtain ⟨m, hm⟩ := returns_message?_iff.mpr fun _ _ => hsend
  cases m with
  | none =>
    rw [message?_eq_none_iff, hdoc] at hm
    cases hm
  | some text =>
    obtain ⟨body, doc, hdoc', hframed, hread⟩ := exists_document_of_message? hm
    rw [hdoc] at hdoc'
    cases hdoc'
    have hsum : 0 < r.tally.errors + r.tally.warnings := by
      rw [Tally.needsAttention, decide_eq_true_eq] at h
      exact h
    obtain ⟨herrors, hwarnings⟩ := member?_findingsDocument r
    exact ⟨text, hm, body, _, _, _, hframed, hread, herrors, hwarnings, hsum⟩

/-- **The result of every check agrees**, whatever the backends, the settings, the tool and the
runner did, if its numbers are short enough to be written. -/
theorem check_agrees {τ : Type} {e : Engine τ} {argument : Path} {given : Option Path}
    {w w' : World τ} {t t' : Trace}
    (h : (e.check argument given).runIn w t = (.ok r, w', t')) (hlegible : Legible r) :
    Agrees r := by
  have hnone : r.status ≠ .completed → r.diagnostics = [] :=
    Engine.gives_check w t r (congrArg Prod.fst h)
  have hcompleted : r.tally.needsAttention = true → r.status = .completed := by
    intro hattention
    by_contra hv
    rw [CheckResult.tally, hnone hv] at hattention
    cases hattention
  exact {
    attention := by
      rw [exitCode_eq_two_iff, ← Tally.needsAttention_of_iff]
      exact ⟨fun ha => ⟨hcompleted ha, ha⟩, And.right⟩
    clean := fun hne => if_neg (mt exitCode_eq_two_iff.mpr hne)
    answered := returns_message?_iff.mpr fun _ _ => hlegible.sendable
    silent := by
      rw [message?_eq_none_iff, document?_eq_none_iff, needsAttention_eq_false_iff]
    told := by
      intro h2
      have ha := exitCode_eq_two_iff.mp h2
      exact exists_counts (hcompleted ha) ha hlegible.sendable
    shown := by
      intro hv
      obtain ⟨findings, hlines, hall⟩ := lines_of_completed hv hlegible.positions
      exact ⟨_, findings, hlines, (marked_summary_iff _).trans exitCode_eq_two_iff.symm, hall⟩
    oneLine := lines_of_not_completed }

/-! ## 5. A check with one finding -/

open Engine (luaFile luaRoot luaWorld luaEngine unmarked)

/-- An engine that always finds the same. -/
def findingEngine (d : Diagnostic) : Engine Unit :=
  luaEngine (fun c => pure ⟨c.arguments, 1, "", "", .completed⟩) [d]

/-- The result of its check. -/
def findingResult (d : Diagnostic) : CheckResult := .completed luaFile Builtin.lua.language [d]

theorem runIn_findingEngine (d : Diagnostic) :
    ∃ w' t', ((findingEngine d).check luaFile (some luaRoot)).runIn (luaWorld unmarked) .empty =
      (.ok (findingResult d), w', t') := ⟨_, _, Prod.ext rfl rfl⟩

/-- A warning. -/
def unused : Diagnostic := ⟨.ofNat 3, .first, .warning, "unused", some "W1"⟩

theorem check_agrees_unused :
    (∃ w' t', ((findingEngine unused).check luaFile (some luaRoot)).runIn (luaWorld unmarked)
      .empty = (.ok (findingResult unused), w', t')) ∧
    Legible (findingResult unused) ∧ Agrees (findingResult unused) := by
  obtain ⟨w', t', hrun⟩ := runIn_findingEngine unused
  have hlegible : Legible (findingResult unused) :=
    ⟨List.forall_mem_singleton.mpr ⟨by decide, by decide⟩, by decide⟩
  exact ⟨⟨w', t', hrun⟩, hlegible, check_agrees hrun hlegible⟩

end Report

end SourceCheck

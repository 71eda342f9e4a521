import Mathlib.Data.List.Forall2
import SourceCheck.Proofs.Json.Printable
import SourceCheck.Proofs.Json.RoundTrip
import SourceCheck.Report

/-!
# The message for an editor

The texts in a message come from tools and may hold anything, also the characters with which the
message itself starts and ends.  Inside the document they are escaped, so the editor finds the end
of the message at its end, and what it reads there is what the check found.

* `Framed`: a message whose start and end stand nowhere else.
* `Tells`, `TellsFindings`, `TellsStatus`: what a document says about a result.
* `fits_document`: the document can be read back.
* `message_reads_back`: the message and what is read from it.
-/

namespace SourceCheck.Report

variable {r : CheckResult} {text body : String}

/-! ## 1. The frame -/

/-- **A message with a frame that can be found**: the start of the escape sequence stands only in
front, its end only at the end, and all is on one line. -/
structure Framed (text body : String) : Prop where
  text_eq : text = "\x1b]633;E;" ++ body ++ "\x07"
  body_printable : ∀ c ∈ body.toList, 0x20 ≤ c.toNat
  bell_last : ∀ front behind, text.toList = front ++ '\x07' :: behind → behind = []
  escape_first : ∀ front behind, text.toList = front ++ '\x1b' :: behind → front = []
  one_line : '\n' ∉ text.toList

/-- What stands nowhere behind the first place of a text stands only there. -/
theorem front_eq_nil {c : Char} {cs front behind : List Char} (hc : c ∉ cs)
    (h : c :: cs = front ++ c :: behind) : front = [] := by
  cases front with
  | nil => rfl
  | cons d front =>
    have htail : cs = front ++ c :: behind := (List.cons.inj h).2
    exact absurd (htail ▸ List.mem_append_right _ List.mem_cons_self) hc

/-- What stands nowhere before the last place of a text stands only there. -/
theorem behind_eq_nil {c : Char} {cs front behind : List Char} (hc : c ∉ cs)
    (h : cs ++ [c] = front ++ c :: behind) : behind = [] := by
  have hreverse : c :: cs.reverse = behind.reverse ++ c :: front.reverse := by
    simpa using congrArg List.reverse h
  exact List.reverse_eq_nil_iff.mp (front_eq_nil (mt List.mem_reverse.mp hc) hreverse)

theorem framed_wrapped (h : Json.Printable body.toList) : Framed (wrapped body) body := by
  -- Between the first and the last character there are no control characters.
  let inner : List Char := "]633;E;".toList ++ body.toList
  have hinner : Json.Printable inner := Json.printable_append.mpr ⟨by decide, h⟩
  have htext : (wrapped body).toList = '\x1b' :: inner ++ ['\x07'] := by
    rw [wrapped, String.toList_append, String.toList_append]
    rfl
  have hcontrol : ∀ c, c.toNat < 0x20 → c ∉ inner := fun c hlow hc => by
    have hle := hinner c hc
    omega
  have hbell : '\x07' ∉ '\x1b' :: inner :=
    List.not_mem_cons_of_ne_of_not_mem (by decide) (hcontrol _ (by decide))
  have hescape : '\x1b' ∉ inner ++ ['\x07'] := by
    rw [List.mem_append, List.mem_singleton]
    exact not_or_intro (hcontrol _ (by decide)) (by decide)
  refine ⟨rfl, h, fun front behind heq => ?_, fun front behind heq => ?_, ?_⟩
  · exact behind_eq_nil hbell (htext.symm.trans heq)
  · exact front_eq_nil hescape (htext.symm.trans heq)
  · rw [htext, List.mem_append, List.mem_singleton]
    exact not_or_intro (List.not_mem_cons_of_ne_of_not_mem (by decide) (hcontrol _ (by decide)))
      (by decide)

/-! ## 2. What documents say -/

/-- **An entry that tells a finding**: its place, its severity, its message, its code if it has one,
and nothing else. -/
structure Tells (entry : Json) (d : Diagnostic) : Prop where
  line : entry.member? "line" = some (.int d.line.value)
  column : entry.member? "column" = some (.int d.column.value)
  severity : entry.member? "severity" = some (.string d.severity.word)
  message : entry.member? "message" = some (.string d.message)
  code : ∀ v, entry.member? "code" = some v ↔ ∃ c, d.code = some c ∧ c ≠ "" ∧ v = .string c
  others : ∀ key, key ∉ ["line", "column", "severity", "message", "code"] →
    entry.member? key = none

/-- Whether an entry shows a severity. -/
def showsSeverity (s : Severity) (entry : Json) : Bool :=
  match entry.member? "severity" with
  | some (.string w) => w == s.word
  | _ => false

/-- **A document that tells findings**: one entry for each, in order, and the numbers of entries
that show an error or a warning. -/
def TellsFindings (doc : Json) (r : CheckResult) : Prop :=
  ∃ entries, List.Forall₂ Tells entries r.diagnostics ∧
    doc = .object [("file", .string r.file.text), ("language", textOrNull r.language),
      ("summary", .string (summary r.tally)),
      ("errors", .int (entries.countP (showsSeverity .error))),
      ("warnings", .int (entries.countP (showsSeverity .warning))),
      ("diagnostics", .array entries)]

/-- **A document that tells why there are no findings.** -/
def TellsStatus (doc : Json) (r : CheckResult) : Prop :=
  ∃ message, statusMessage? r = some message ∧
    doc = .object [("file", .string r.file.text), ("language", textOrNull r.language),
      ("status", .string r.status.word), ("summary", .string message)]

theorem nonEmpty?_eq_some_iff {code : Option String} {c : String} :
    nonEmpty? code = some c ↔ code = some c ∧ c ≠ "" := by
  cases code with
  | none => simp [nonEmpty?]
  | some s =>
    rw [nonEmpty?]
    split
    · rename_i hempty
      have hs : s = "" := by simpa using hempty
      simp only [reduceCtorEq, Option.some.injEq, false_iff, not_and, not_not]
      rintro rfl
      exact hs
    · rename_i hempty
      simp only [Option.some.injEq, iff_self_and]
      rintro rfl
      simpa using hempty

/-- The value of a key in an entry: one of the four that every entry has, or the code. -/
theorem member?_diagnosticDocument (d : Diagnostic) (key : String) :
    (diagnosticDocument d).member? key =
      if key = "line" then some (.int d.line.value)
      else if key = "column" then some (.int d.column.value)
      else if key = "severity" then some (.string d.severity.word)
      else if key = "message" then some (.string d.message)
      else if key = "code" then (nonEmpty? d.code).map .string
      else none := by
  rw [diagnosticDocument]
  cases nonEmpty? d.code with
  | none =>
    simp only [Json.member?, List.append_nil, Table.get?_cons, Table.get?_nil, beq_iff_eq,
      eq_comm (b := key), Option.map_none, ite_self]
  | some c =>
    simp only [Json.member?, List.cons_append, List.nil_append, Table.get?_cons, Table.get?_nil,
      beq_iff_eq, eq_comm (b := key), Option.map_some]

theorem tells_diagnosticDocument (d : Diagnostic) : Tells (diagnosticDocument d) d where
  line := member?_diagnosticDocument d "line"
  column := member?_diagnosticDocument d "column"
  severity := member?_diagnosticDocument d "severity"
  message := member?_diagnosticDocument d "message"
  code v := by
    have hcode : (diagnosticDocument d).member? "code" = (nonEmpty? d.code).map .string :=
      member?_diagnosticDocument d "code"
    rw [hcode, Option.map_eq_some_iff]
    simp only [nonEmpty?_eq_some_iff, and_assoc, eq_comm (b := v)]
  others key hkey := by
    simp only [List.mem_cons, List.not_mem_nil, or_false, not_or] at hkey
    obtain ⟨hline, hcolumn, hseverity, hmessage, hcode⟩ := hkey
    rw [member?_diagnosticDocument, if_neg hline, if_neg hcolumn, if_neg hseverity,
      if_neg hmessage, if_neg hcode]

theorem showsSeverity_diagnosticDocument (s : Severity) (d : Diagnostic) :
    showsSeverity s (diagnosticDocument d) = (d.severity == s) := by
  rw [showsSeverity, (tells_diagnosticDocument d).severity]
  cases s <;> cases d.severity <;> decide

theorem tellsFindings_findingsDocument (r : CheckResult) :
    TellsFindings (findingsDocument r) r := by
  have hcount : ∀ s, (r.diagnostics.map diagnosticDocument).countP (showsSeverity s) =
      Tally.countOf s r.diagnostics := by
    intro s
    rw [List.countP_map, Tally.countOf]
    exact List.countP_congr fun d _ => by
      rw [Function.comp_apply, showsSeverity_diagnosticDocument]
  refine ⟨r.diagnostics.map diagnosticDocument, ?_, ?_⟩
  · rw [List.forall₂_map_left_iff]
    exact List.forall₂_same.mpr fun d _ => tells_diagnosticDocument d
  · rw [hcount, hcount]
    rfl

/-! ## 3. The document is read back -/

variable {room : Depth} {halfPair : Json.HalfPair}

/-- The levels of a message are always allowed. -/
theorem allows_of_lt {depth : Nat} (h : depth < 8) :
    (Json.Dialect.file room halfPair).allows depth = true :=
  decide_eq_true (h.trans_le ((Nat.le_add_right 8 _).trans room.enough))

theorem fits_int {n : Int} (h : Number.isWritable n = true) (depth : Nat) :
    Json.Fits (.file room halfPair) depth (.int n) := by
  rw [Number.isWritable, decide_eq_true_eq] at h
  rw [Json.Fits.eq_def]
  simpa [Json.Dialect.file, Json.Dialect.refuses] using h

theorem areWritable_iff {vs : List Json} :
    Json.areWritable vs = true ↔ ∀ v ∈ vs, v.isWritable = true := by
  induction vs with
  | nil => simp [Json.areWritable]
  | cons v vs ih => rw [Json.areWritable, Bool.and_eq_true, ih, List.forall_mem_cons]

theorem fits_textOrNull (t : Option String) (depth : Nat) :
    Json.Fits (.file room halfPair) depth (textOrNull t) := by
  rw [Json.Fits.eq_def]
  cases t with
  | none => exact trivial
  | some t => exact trivial

theorem fits_diagnosticDocument {d : Diagnostic} {depth : Nat}
    (hdepth : (Json.Dialect.file room halfPair).allows depth = true)
    (h : (diagnosticDocument d).isWritable = true) :
    Json.Fits (.file room halfPair) depth (diagnosticDocument d) := by
  rw [diagnosticDocument] at h ⊢
  simp only [Json.isWritable, List.cons_append, List.nil_append, Json.membersWritable,
    Bool.and_eq_true, Bool.true_and] at h
  obtain ⟨hline, hcolumn, -⟩ := h
  refine Json.fits_object hdepth ?_ ?_
  · cases nonEmpty? d.code with
    | none => simp [Table.keys]
    | some c => simp [Table.keys]
  · refine List.forall_mem_append.mpr ⟨?_, ?_⟩
    · simp only [List.forall_mem_cons]
      exact ⟨fits_int hline _, fits_int hcolumn _, Json.fits_string _ _, Json.fits_string _ _,
        List.forall_mem_nil _⟩
    · cases nonEmpty? d.code with
      | none => exact List.forall_mem_nil _
      | some c => exact List.forall_mem_singleton.mpr (Json.fits_string _ _)

/-- **The document of a message can be read back** if it can be written. -/
theorem fits_document {doc : Json} (hdoc : document? r = some doc)
    (h : doc.isWritable = true) : Json.Fits (.file room halfPair) 0 doc := by
  have hstatus : Json.Fits (.file room halfPair) 0 (statusDocument r) := by
    refine Json.fits_object (allows_of_lt (by decide)) (by simp [Table.keys]) ?_
    simp only [List.forall_mem_cons]
    exact ⟨Json.fits_string _ _, fits_textOrNull _ _, Json.fits_string _ _, fits_textOrNull _ _,
      List.forall_mem_nil _⟩
  rw [document?] at hdoc
  split at hdoc
  · cases hdoc
  · cases hdoc
  · split at hdoc
    · cases hdoc
      rw [findingsDocument] at h ⊢
      simp only [Json.isWritable, Json.membersWritable, Bool.and_eq_true, Bool.true_and] at h
      obtain ⟨-, herrors, hwarnings, hentries, -⟩ := h
      refine Json.fits_object (allows_of_lt (by decide)) (by simp [Table.keys]) ?_
      simp only [List.forall_mem_cons]
      refine ⟨Json.fits_string _ _, fits_textOrNull _ _, Json.fits_string _ _, fits_int herrors _,
        fits_int hwarnings _, ?_, List.forall_mem_nil _⟩
      rw [Json.Fits.eq_def]
      refine ⟨.inr (allows_of_lt (by decide)), Json.itemsFit_of_forall fun v hv => ?_⟩
      obtain ⟨d, -, rfl⟩ := List.mem_map.mp hv
      exact fits_diagnosticDocument (allows_of_lt (by decide)) (areWritable_iff.mp hentries _ hv)
    · cases hdoc
  · cases hdoc
    exact hstatus

/-! ## 4. The message is read back -/

/-- What the document of a message says. -/
theorem document?_tells {doc : Json} (hdoc : document? r = some doc) :
    (r.status = .completed ∧ TellsFindings doc r) ∨
      (r.status ≠ .completed ∧ TellsStatus doc r) := by
  rw [document?] at hdoc
  split at hdoc
  · cases hdoc
  · cases hdoc
  · rename_i hcompleted
    split at hdoc
    · cases hdoc
      exact .inl ⟨hcompleted, tellsFindings_findingsDocument r⟩
    · cases hdoc
  · rename_i hcompleted
    cases hdoc
    refine .inr ⟨hcompleted, ?_⟩
    cases hmessage : statusMessage? r with
    | none => exact absurd ((statusMessage?_eq_none_iff r).mp hmessage) hcompleted
    | some message =>
      refine ⟨message, hmessage, ?_⟩
      rw [statusDocument, hmessage]
      rfl

/-- **A message has a frame that can be found**, and inside it stands the document of the result. -/
theorem exists_document_of_message? (h : message? r = .ok (some text)) :
    ∃ body doc, document? r = some doc ∧ Framed text body ∧
      (∀ room halfPair, Json.read (.file room halfPair) body = .ok doc) := by
  rw [message?] at h
  cases hdoc : document? r with
  | none =>
    rw [hdoc] at h
    cases h
  | some doc =>
    simp only [hdoc, Json.compact] at h
    by_cases hwritable : doc.isWritable = true
    · rw [if_pos hwritable] at h
      cases h
      refine ⟨_, doc, rfl, framed_wrapped ?_, fun room halfPair => ?_⟩
      · rw [String.toList_ofList]
        exact Json.printable_write rfl 0 doc
      · have hread : Json.readChars (.file room halfPair) (Json.write .line 0 doc ++ []) = .ok doc :=
          Json.readChars_write (fits_document hdoc hwritable) 0 rfl
        rw [List.append_nil] at hread
        rw [Json.read, String.toList_ofList, hread]
    · rw [if_neg hwritable] at h
      cases h

/-- **A message and what is read from it.**  Whatever the texts in a result are, a message that is
sent has a frame that can be found, and the document inside it says what the check found, or why it
found nothing. -/
theorem message_reads_back (h : message? r = .ok (some text)) :
    ∃ body doc, Framed text body ∧
      (∀ room halfPair, Json.read (.file room halfPair) body = .ok doc) ∧
      ((r.status = .completed ∧ TellsFindings doc r) ∨
        (r.status ≠ .completed ∧ TellsStatus doc r)) := by
  obtain ⟨body, doc, hdoc, hframed, hread⟩ := exists_document_of_message? h
  exact ⟨body, doc, hframed, hread, document?_tells hdoc⟩

/-- A result with a finding whose message holds the start and the end of a message. -/
def forged : CheckResult where
  file := ⟨.root, ["work", "a \"b\".py"]⟩
  language := some "Python"
  status := .completed
  diagnostics := [⟨.ofNat 3, .first, .error, "\x1b]633;E;\x07 \"quoted\" \\ \n", some "E1"⟩,
    ⟨.first, .ofNat 7, .info, "", some ""⟩]
  toolAvailable := true
  tool := some "pyright"
  detail := none

/-- A message is found and read back although a finding tries to forge one. -/
theorem message_reads_back_forged :
    ∃ text, message? forged = .ok (some text) ∧
      ∃ body doc, Framed text body ∧
      (∀ room halfPair, Json.read (.file room halfPair) body = .ok doc) ∧
        ((forged.status = .completed ∧ TellsFindings doc forged) ∨
          (forged.status ≠ .completed ∧ TellsStatus doc forged)) := by
  have h : message? forged = .ok (some (wrapped
      (.ofList (Json.write .line 0 (findingsDocument forged))))) := rfl
  exact ⟨_, h, message_reads_back h⟩

end SourceCheck.Report

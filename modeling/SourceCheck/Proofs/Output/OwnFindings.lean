import SourceCheck.Proofs.Machine.Following
import SourceCheck.Proofs.Number.ReadInteger
import SourceCheck.Proofs.Output.Numerals

/-!
# Readers that keep the findings of one file

The readers for TypeScript and for Pyright ask of each finding whether it designates the checked
file, and read the positions only of those that do.  So they can fail in three ways: a path does not
resolve, a position of an own finding is not read, and, for Pyright, the document passes the limits
of documents.

* `TypeScriptReading.headers_blocksOf`: the findings are the lines that are headers.
* `Output.returns_typeScript`: every path resolves, and the numbers of the own findings are short.
* `Json.Searchable`: the output in which a document can be looked for.
* `Output.returns_pyright`: so it can, every path resolves, and the own findings have positions.
-/

namespace SourceCheck

open Text

variable {α β : Type}

/-! ## 1. Choosing and reading -/

/-- **Items that are chosen are read**: every choice has to answer, and what it takes to be read. -/
theorem returns_filterM_mapM {p : α → Except Fault Bool} {read : α → Except Fault β} {l : List α} :
    Returns (l.filterM p >>= fun kept => kept.mapM read) ↔
      ∀ a ∈ l, Returns (p a) ∧ (p a = .ok true → Returns (read a)) := by
  have haccepts : ∀ a, accepts (p a) = true ↔ p a = .ok true := by
    intro a
    cases p a with
    | ok b => simp [accepts]
    | error f => simp [accepts]
  have hread : Returns ((l.filter fun a => accepts (p a)).mapM read) ↔
      ∀ a ∈ l, p a = .ok true → Returns (read a) := by
    simp only [returns_mapM, List.mem_filter, haccepts, and_imp]
  rw [returns_bind]
  constructor
  · rintro ⟨kept, hkept, hmap⟩
    have hp := returns_filterM.mp ⟨kept, hkept⟩
    rw [filterM_eq_ok hp] at hkept
    cases hkept
    exact fun a ha => ⟨hp a ha, hread.mp hmap a ha⟩
  · intro h
    exact ⟨_, filterM_eq_ok fun a ha => (h a ha).1, hread.mpr fun a ha => (h a ha).2⟩

namespace Machine

variable {m : Machine} {file root : Path}

/-- **A reported path that can be compared with the checked file**: both resolve, as far as the
system does not refuse to.  Without a path, or with an empty one, nothing is asked, nor is anything
asked of the file where the system has refused to resolve the path. -/
def Comparable (m : Machine) (reported : Option String) (file root : Path) : Prop :=
  ∀ text ∈ reported, text ≠ "" →
    let candidate := root.join (Path.ofString (String.ofList (trim text.toList)))
    m.Resolves candidate ∧ (Returns (m.resolve candidate) → m.Resolves file)

theorem returns_sameFile {reported : Option String} :
    Returns (m.sameFile reported file root) ↔ m.Comparable reported file root := by
  unfold Comparable
  cases reported with
  | none => simp [sameFile]
  | some text =>
    by_cases hempty : text = ""
    · simp [sameFile, hempty]
    · simp only [Option.mem_def, Option.some.injEq, forall_eq', ne_eq, hempty, not_false_eq_true,
        true_implies]
      unfold sameFile same Resolves
      simp only [beq_iff_eq, hempty, if_false]
      generalize root.join (Path.ofString (String.ofList (trim text.toList))) = candidate
      cases m.resolve candidate with
      | error f => cases hf : f.isOfSystem <;> simp [hf]
      | ok a =>
        cases m.resolve file with
        | error f => cases hf : f.isOfSystem <;> simp [hf]
        | ok b => simp

end Machine

/-! ## 2. TypeScript -/

namespace TypeScriptReading

theorem headers_step (r : TypeScriptReading) (l : List Char) :
    (r.step l).blocks.map (·.header) =
      (TypeScriptHeader.ofLine? l).toList ++ r.blocks.map (·.header) := by
  unfold step
  cases TypeScriptHeader.ofLine? l with
  | some header => rfl
  | none =>
    obtain ⟨blocks, continues⟩ := r
    cases continues && isContinuation l <;> cases blocks <;> rfl

/-- The headers of a fold, latest first. -/
theorem headers_foldl (r : TypeScriptReading) (ls : List (List Char)) :
    (ls.foldl step r).blocks.map (·.header) =
      (ls.filterMap TypeScriptHeader.ofLine?).reverse ++ r.blocks.map (·.header) := by
  induction ls generalizing r with
  | nil => rfl
  | cons l ls ih =>
    rw [List.foldl_cons, ih, headers_step]
    cases h : TypeScriptHeader.ofLine? l with
    | none => simp [h]
    | some header => simp [h]

/-- **The findings of some lines are the lines that are headers**, whatever continues them. -/
theorem headers_blocksOf (ls : List (List Char)) :
    (blocksOf ls).map (·.header) = ls.filterMap TypeScriptHeader.ofLine? := by
  rw [blocksOf, List.map_reverse, headers_foldl]
  simp

end TypeScriptReading

theorem TypeScriptBlock.returns_diagnostic (b : TypeScriptBlock) :
    Returns b.diagnostic ↔ Short b.header.line ∧ Short b.header.column :=
  returns_both.trans (and_congr returns_ofDigits returns_ofDigits)

namespace Output

/-- **TypeScript's findings of the checked file are read** if every path can be compared with the
checked file and the numbers of the findings that designate it are short. -/
theorem returns_typeScript {m : Machine} {stdout stderr : String} {file root : Path} :
    Returns (typeScript m stdout stderr file root) ↔
      ∀ h ∈ (outputLines [stdout, stderr]).filterMap TypeScriptHeader.ofLine?,
        m.Comparable (some (String.ofList h.path)) file root ∧
        (m.sameFile (some (String.ofList h.path)) file root = .ok true →
          Short h.line ∧ Short h.column) := by
  rw [← TypeScriptReading.headers_blocksOf, List.forall_mem_map]
  refine returns_filterM_mapM.trans (forall₂_congr fun b _ => ?_)
  rw [TypeScriptBlock.returns_diagnostic, Machine.returns_sameFile]

end Output

/-! ## 3. Pyright -/

namespace Json

variable {d : Dialect} {s : List Char} {output : String}

/-- **A text that does not pass the limits of documents**: it may be malformed, but it holds neither
too long a number nor too deep a nesting before that shows. -/
def WithinLimits (d : Dialect) (s : List Char) : Prop :=
  ∀ e, readChars d s = .error e → e = .malformed ∨ e = .unfollowed

theorem returns_ofRead (h : readChars d s ≠ .error .unfollowed) :
    Returns (ofRead (readChars d s)) ↔ WithinLimits d s := by
  unfold WithinLimits
  cases hs : readChars d s with
  | ok v => simp [ofRead]
  | error e =>
    cases e with
    | unfollowed => exact absurd hs h
    | _ => simp [ofRead]

theorem readChars_nil : readChars d [] = .error .malformed := rfl

/-- Only a malformed text is empty. -/
theorem ne_nil_of_readChars (h : readChars d s ≠ .error .malformed) : s ≠ [] :=
  fun hnil => h (hnil ▸ readChars_nil)

/-- Output that is a document as a whole. -/
theorem inOutput?_of_readChars {v : Json} (h : readChars d (trim output.toList) = .ok v) :
    inOutput? d output = .ok (some v) := by
  have hne : trim output.toList ≠ [] := ne_nil_of_readChars fun he => by cases h.symm.trans he
  simp only [inOutput?, h]
  exact if_neg hne

/-- Output whose reading as a whole fails. -/
theorem inOutput?_of_failed {f : Fault} (h : ofRead (readChars d (trim output.toList)) = .error f) :
    inOutput? d output = .error f := by
  have hne : trim output.toList ≠ [] := ne_nil_of_readChars fun he => by
    rw [he] at h
    cases h
  simp only [inOutput?, h]
  exact if_neg hne

/-- Output that is no document as a whole is read from its first brace on. -/
theorem inOutput?_of_malformed (h : readChars d (trim output.toList) = .error .malformed) :
    inOutput? d output =
      if (trim output.toList).dropWhile (· != '\x7b') = [] ||
          (trim output.toList).dropWhile (· != '\x7b') = trim output.toList then .ok none
      else ofRead (readChars d ((trim output.toList).dropWhile (· != '\x7b'))) := by
  unfold inOutput?
  simp only [h]
  generalize trim output.toList = text
  by_cases hnil : text = []
  · subst hnil
    rfl
  · simp only [hnil, if_false]
    rfl

/-- **Output in which a document can be looked for**: it stays within the limits and so does, should
it be malformed, its part from the first brace on. -/
def Searchable (d : Dialect) (output : String) : Prop :=
  WithinLimits d (trim output.toList) ∧
    (readChars d (trim output.toList) = .error .malformed →
      WithinLimits d ((trim output.toList).dropWhile (· != '\x7b')))

/-- **A document can be looked for** in such output, and in no other that is followed to its end. -/
theorem returns_inOutput? (h : inOutput? d output ≠ .error .unfollowed) :
    Returns (inOutput? d output) ↔ Searchable d output := by
  unfold Searchable
  cases hread : readChars d (trim output.toList) with
  | ok v =>
    have hlimits : WithinLimits d (trim output.toList) := fun e he => by rw [hread] at he; cases he
    exact iff_of_true ⟨some v, inOutput?_of_readChars hread⟩ ⟨hlimits, nofun⟩
  | error e =>
    have hlimits : WithinLimits d (trim output.toList) ↔ e = .malformed ∨ e = .unfollowed := by
      simp [WithinLimits, hread]
    rw [hlimits]
    cases e with
    | malformed =>
      rw [inOutput?_of_malformed hread] at h ⊢
      simp only [true_or, true_and, true_implies]
      split at h
      · rename_i hrest
        rw [if_pos hrest]
        refine iff_of_true ⟨none, rfl⟩ fun e he => ?_
        rw [Bool.or_eq_true, decide_eq_true_eq, decide_eq_true_eq] at hrest
        rcases hrest with hrest | hrest
        · rw [hrest, readChars_nil] at he
          exact .inl (Except.error.inj he).symm
        · rw [hrest, hread] at he
          exact .inl (Except.error.inj he).symm
      · rename_i hrest
        rw [if_neg hrest]
        refine returns_ofRead fun hpart => h ?_
        rw [hpart]
        rfl
    | unfollowed => exact absurd (inOutput?_of_failed (by rw [hread]; rfl)) h
    | tooManyDigits count =>
      rw [inOutput?_of_failed (f := .tooManyDigits count) (by rw [hread]; rfl)]
      simp
    | tooDeep isObject =>
      rw [inOutput?_of_failed (f := .nestedTooDeeply isObject) (by rw [hread]; rfl)]
      simp

end Json

namespace Pyright

/-- **An entry of a report that can be read**: its path can be compared with the checked file, and
if it designates it, line and character give positions. -/
def Readable (m : Machine) (file root : Path) (entry : Json.Members) : Prop :=
  let reported := Json.text? (entry.get? "file")
  let start := Json.membersOf ((Json.membersOf (entry.get? "range")).get? "start")
  m.Comparable reported file root ∧
    (m.sameFile reported file root = .ok true →
      Position.Gives ((start.get? "line").getD .null) ∧
      Position.Gives ((start.get? "character").getD .null))

theorem returns_diagnostic (entry : Json.Members) :
    Returns (diagnostic entry) ↔
      let start := Json.membersOf ((Json.membersOf (entry.get? "range")).get? "start")
      Position.Gives ((start.get? "line").getD .null) ∧
      Position.Gives ((start.get? "character").getD .null) :=
  returns_both.trans (and_congr Position.returns_ofValue Position.returns_ofValue)

theorem returns_findings {m : Machine} {file root : Path} {entries : List Json.Members} :
    Returns (findings m file root entries) ↔ ∀ entry ∈ entries, Readable m file root entry := by
  induction entries with
  | nil => simp [findings]
  | cons entry rest ih =>
    rw [List.forall_mem_cons, ← ih, findings, Readable, ← returns_diagnostic,
      ← Machine.returns_sameFile]
    cases m.sameFile (Json.text? (entry.get? "file")) file root with
    | error f =>
      simp only [not_returns_error, false_and, iff_false]
      exact not_returns_error f
    | ok own =>
      cases own with
      | false =>
        simp only [returns_ok, Except.ok.injEq, Bool.false_eq_true, false_implies, and_self,
          true_and]
        rfl
      | true =>
        simp only [returns_ok, true_and, true_implies]
        exact returns_both

/-- The entries of a report that can designate the checked file. -/
def entries (document : Option Json) : List Json.Members :=
  Json.objectsIn ((Json.membersOf document).get? "generalDiagnostics")

end Pyright

namespace Output

/-- **Pyright's findings of the checked file are read**, where the output is followed to its end, if
a document can be looked for and each entry of the one that is found can be read. -/
theorem returns_pyright {m : Machine} {stdout : String} {file root : Path}
    (h : Json.inOutput? (.file m.nesting .unfollowed) stdout ≠ .error .unfollowed) :
    Returns (pyright m stdout file root) ↔
      Json.Searchable (.file m.nesting .unfollowed) stdout ∧
        ∀ document, Json.inOutput? (.file m.nesting .unfollowed) stdout = .ok document →
          ∀ entry ∈ Pyright.entries document, Pyright.Readable m file root entry := by
  rw [← Json.returns_inOutput? h]
  refine returns_bind.trans ?_
  simp only [Pyright.returns_findings]
  constructor
  · rintro ⟨document, hdocument, hentries⟩
    refine ⟨⟨document, hdocument⟩, fun document' hdocument' => ?_⟩
    rw [hdocument] at hdocument'
    cases hdocument'
    exact hentries
  · rintro ⟨⟨document, hdocument⟩, hentries⟩
    exact ⟨document, hdocument, hentries document hdocument⟩

end Output

end SourceCheck

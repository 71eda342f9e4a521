import SourceCheck.Proofs.Output.Numerals
import SourceCheck.Proofs.Output.Written

/-!
# How far a look for carets reaches

A finding of the Java or the Scala compiler is a block of lines: a first line, and behind it a
source line and a line of carets.  The readers look for the carets in the lines behind the first one
and do not ask where the next block begins.  A finding without carets can so come to those of the
next one and takes its column from them; with version 2 of the Scala compiler it also takes the
lines above them for details of its message.  Version 3 is safe from that: its details end where a
header starts.

* `Caret.reached?`: the carets that are found behind the end of a block.
* `Javac.findings_append_iff`, `Scala.findings_append_iff`: when the findings of some lines are
  those of a first and a last part one after the other.
* `Output.jvm_append`: their output.
-/

namespace SourceCheck

open Text

/-! ## 1. Carets in front and behind -/

namespace Caret

variable {n : Nat} {ls rest b : List (List Char)} {r : Nat × Nat}

@[simp] theorem below?_nil (n : Nat) : below? n [] = none := by
  cases n <;> rfl

/-- **Carets are looked for in some lines, then in those behind them**, as far as the look
reaches. -/
theorem below?_append (n : Nat) (ls rest : List (List Char)) :
    below? n (ls ++ rest) =
      (below? n ls).or ((below? (n - ls.length) rest).map fun r => (r.1, r.2 + ls.length)) := by
  induction ls generalizing n with
  | nil => simp
  | cons l ls ih =>
    cases n with
    | zero => simp [below?]
    | succ n =>
      rw [List.cons_append, below?, below?]
      cases columnIn? l with
      | some column => rfl
      | none =>
        dsimp only
        rw [ih, List.length_cons, Nat.add_sub_add_right]
        cases below? n ls with
        | some r => rfl
        | none => cases below? (n - ls.length) rest <;> rfl

theorem one_le_of_columnIn? {l : List Char} {c : Nat} (h : columnIn? l = some c) : 1 ≤ c := by
  rw [columnIn?] at h
  split at h
  · exact Option.some.inj h ▸ Nat.le_add_left 1 _
  · cases h

/-- Columns are counted from one, and the carets are on one of the lines. -/
theorem bounds_of_below? (h : below? n ls = some r) : 1 ≤ r.1 ∧ r.2 < ls.length := by
  induction ls generalizing n r with
  | nil =>
    rw [below?_nil] at h
    cases h
  | cons l ls ih =>
    cases n with
    | zero => cases h
    | succ n =>
      rw [below?] at h
      split at h
      · rename_i column hcolumn
        obtain rfl := Option.some.inj h
        exact ⟨one_le_of_columnIn? hcolumn, Nat.zero_lt_succ _⟩
      · obtain ⟨r', hr', rfl⟩ := Option.map_eq_some_iff.mp h
        obtain ⟨hcolumn, hindex⟩ := ih hr'
        exact ⟨hcolumn, Nat.succ_lt_succ hindex⟩

/-- **The carets that are found behind the end of a block**: there are none in the lines `rest` of
the block, and some among the lines `b` behind it that the look still reaches. -/
def reached? (rest b : List (List Char)) : Option (Nat × Nat) :=
  if (below? lookahead rest).isSome then none else below? (lookahead - rest.length) b

end Caret

/-! ## 2. The Java compiler -/

namespace Caret

variable {rest b : List (List Char)}

/-- **The column is that of the own carets**, or the first one if there are none, also with further
lines behind the block. -/
def KeepsColumn (rest b : List (List Char)) : Prop := ∀ r ∈ reached? rest b, r.1 = 1

instance (rest b : List (List Char)) : Decidable (KeepsColumn rest b) :=
  inferInstanceAs (Decidable (∀ r ∈ reached? rest b, r.1 = 1))

theorem ofNat_eq_iff {c : Nat} (h : 1 ≤ c) : Position.ofNat c = Position.ofNat 1 ↔ c = 1 := by
  rw [Position.ofNat, Position.ofNat, Position.mk.injEq]
  omega

/-- The carets that are found with further lines behind a block, if they are not its own. -/
theorem below?_append_of_none (h : below? lookahead rest = none) (b : List (List Char)) :
    below? lookahead (rest ++ b) = (reached? rest b).map fun r => (r.1, r.2 + rest.length) := by
  rw [below?_append, h, reached?, h]
  rfl

theorem below?_append_of_some {r : Nat × Nat} (h : below? lookahead rest = some r)
    (b : List (List Char)) : below? lookahead (rest ++ b) = some r := by
  rw [below?_append, h]
  rfl

/-- With carets of its own a block needs no others. -/
theorem reached?_of_some {r : Nat × Nat} (h : below? lookahead rest = some r)
    (b : List (List Char)) : reached? rest b = none := by
  rw [reached?, h]
  rfl

theorem one_le_of_reached? {r : Nat × Nat} (h : reached? rest b = some r) : 1 ≤ r.1 := by
  rw [reached?] at h
  split at h
  · cases h
  · exact (bounds_of_below? h).1

end Caret

namespace Javac

variable {h : LocatedLine} {l : List Char} {a b rest : List (List Char)}

/-- What a first line and the lines behind it come to, when its number is read. -/
theorem diagnostic_of_line {line : Position} (hline : Position.ofDigits h.line = .ok line)
    (rest : List (List Char)) :
    diagnostic h rest = .ok
      { line
        column := Position.ofNat (((Caret.below? Caret.lookahead rest).map (·.1)).getD 1)
        severity := Severity.ofLabel h.severity
        message := String.ofList (((lint? (trim h.message)).map (·.2)).getD (trim h.message))
        code := (lint? (trim h.message)).map fun l => String.ofList l.1 } := by
  rw [diagnostic, hline]
  rfl

theorem diagnostic_append_iff (hshort : Short h.line) :
    diagnostic h (rest ++ b) = diagnostic h rest ↔ Caret.KeepsColumn rest b := by
  obtain ⟨line, hline⟩ := returns_ofDigits.mpr hshort
  rw [diagnostic_of_line hline, diagnostic_of_line hline, Caret.KeepsColumn]
  cases hrest : Caret.below? Caret.lookahead rest with
  | some r => simp [Caret.below?_append_of_some hrest, Caret.reached?_of_some hrest]
  | none =>
    rw [Caret.below?_append_of_none hrest]
    cases hreached : Caret.reached? rest b with
    | none => simp
    | some r => simp [Caret.ofNat_eq_iff (Caret.one_le_of_reached? hreached)]

/-- **The findings of the Java compiler in two parts are those of each** exactly if every finding of
the first part keeps its column. -/
theorem findings_append_iff (hshort : ∀ n ∈ (a ++ b).flatMap numerals, Short n) :
    findings (a ++ b) = (do
        let xs ← findings a
        let ys ← findings b
        return xs ++ ys) ↔
      ∀ l rest, l :: rest <:+ a → (header? l).isSome → Caret.KeepsColumn rest b := by
  rw [← atLines_alone] at hshort
  refine looksAhead.append_iff_keeps returns_find (fun l rest => ?_) (fun l rest hnumbers => ?_)
    hshort
  · rw [find?, find?, Option.isSome_map, Option.isSome_map]
  · rw [numerals] at hnumbers
    rw [find?, find?]
    cases hl : header? l with
    | none => simp
    | some h =>
      rw [hl] at hnumbers
      simpa using diagnostic_append_iff (List.forall_mem_singleton.mp hnumbers)

end Javac

/-! ## 3. The Scala compiler -/

namespace Scala

variable {h : LocatedLine} {l : List Char} {a b rest : List (List Char)}

/-- **The message of version 2 is that of the own lines**, also with further lines behind the block:
carets that are found there have nothing but blank lines above their source line. -/
def KeepsMessage (rest b : List (List Char)) : Prop :=
  ∀ r ∈ Caret.reached? rest b, ∀ l ∈ (rest ++ b).take (rest.length + r.2 - 1), trim l = []

instance (rest b : List (List Char)) : Decidable (KeepsMessage rest b) :=
  inferInstanceAs (Decidable (∀ r ∈ Caret.reached? rest b, _))

/-- **A finding keeps to its own block**, also with further lines behind it: one of version 3 keeps
its message, one of version 2 its column and its message. -/
def KeepsOff (l : List Char) (rest b : List (List Char)) : Prop :=
  (∀ h ∈ header3? l, message3 h (rest ++ b) = message3 h rest) ∧
    (header3? l = none → (header2? l).isSome → Caret.KeepsColumn rest b ∧ KeepsMessage rest b)

instance (l : List Char) (rest b : List (List Char)) : Decidable (KeepsOff l rest b) :=
  inferInstanceAs (Decidable ((∀ h ∈ header3? l, _) ∧ (_ → _ → _ ∧ _)))

/-- The details of the message: the lines above the source line, without blank ones. -/
def detailsAbove (rest : List (List Char)) : List (List Char) :=
  let before := ((Caret.below? Caret.lookahead rest).map (·.2)).getD 0 - 1
  ((rest.take before).map trim).filter (· != [])

theorem joinSpaces_eq_iff {m : List Char} {ds : List (List Char)} :
    joinSpaces (m :: ds) = m ↔ ds = [] := by
  cases ds with
  | nil => simp [joinSpaces]
  | cons d ds => simp [joinSpaces]

theorem filter_trim_eq_nil_iff {ls : List (List Char)} :
    (ls.map trim).filter (· != []) = [] ↔ ∀ l ∈ ls, trim l = [] := by
  simp [List.filter_eq_nil_iff]

/-- What a first line and the lines behind it come to, when its number is read. -/
theorem diagnostic2_of_line {line : Position} (hline : Position.ofDigits h.line = .ok line)
    (rest : List (List Char)) :
    diagnostic2 h rest = .ok
      { line
        column := Position.ofNat (((Caret.below? Caret.lookahead rest).map (·.1)).getD 1)
        severity := Severity.ofLabel h.severity
        message := String.ofList (joinSpaces (trim h.message :: detailsAbove rest))
        code := none } := by
  rw [diagnostic2, hline]
  rfl

theorem diagnostic2_append_iff (hshort : Short h.line) :
    diagnostic2 h (rest ++ b) = diagnostic2 h rest ↔
      Caret.KeepsColumn rest b ∧ KeepsMessage rest b := by
  obtain ⟨line, hline⟩ := returns_ofDigits.mpr hshort
  rw [diagnostic2_of_line hline, diagnostic2_of_line hline, detailsAbove, detailsAbove,
    Caret.KeepsColumn, KeepsMessage]
  cases hrest : Caret.below? Caret.lookahead rest with
  | some r =>
    have hindex : r.2 < rest.length := (Caret.bounds_of_below? hrest).2
    have htake : (rest ++ b).take (r.2 - 1) = rest.take (r.2 - 1) :=
      List.take_append_of_le_length (by omega)
    simp [Caret.below?_append_of_some hrest, Caret.reached?_of_some hrest, htake]
  | none =>
    -- Without carets of its own the finding has no details, so any that it gets are too many.
    rw [Caret.below?_append_of_none hrest]
    cases hreached : Caret.reached? rest b with
    | none => simp
    | some r =>
      have hcolumn := Caret.ofNat_eq_iff (Caret.one_le_of_reached? hreached)
      simp only [Option.map_some, Option.map_none, Option.getD_some, Option.getD_none, hcolumn,
        Option.mem_def, Option.some.injEq, forall_eq', Except.ok.injEq, Diagnostic.mk.injEq,
        true_and, and_true, Nat.zero_sub, List.take_zero, List.map_nil, List.filter_nil,
        String.ofList_inj]
      rw [Nat.add_comm r.2, ← filter_trim_eq_nil_iff]
      exact and_congr_right fun _ => joinSpaces_eq_iff

/-- **Details end where a line has no gutter or starts with dashes.** -/
theorem details_append (hb : ∀ first ∈ b.head?, gutter? first = none ∨ "--".toList <+: first)
    (rest : List (List Char)) : details (rest ++ b) = details rest := by
  induction rest with
  | nil =>
    cases b with
    | nil => rfl
    | cons first ls =>
      rw [List.nil_append, details, details]
      rcases hb first rfl with hgutter | hdashes
      · rw [hgutter]
      · cases gutter? first with
        | none => rfl
        | some r => exact if_pos (isSome_afterWord_iff.mpr hdashes)
  | cons l rest ih => rw [List.cons_append, details, details, ih]

/-- A header of version 3 starts with dashes. -/
theorem dashes_of_header3? {l : List Char} (h : (header3? l).isSome) : "--".toList <+: l := by
  obtain ⟨header, hheader⟩ := Option.isSome_iff_exists.mp h
  rw [header3?] at hheader
  obtain ⟨s, hs, -⟩ := Option.bind_eq_some_iff.mp hheader
  rw [of_afterWord hs]
  exact ⟨' ' :: s, rfl⟩

theorem diagnostic3_append_iff {h : Header3} (hline : Short h.line) (hcolumn : Short h.column) :
    diagnostic3 h (rest ++ b) = diagnostic3 h rest ↔ message3 h (rest ++ b) = message3 h rest := by
  obtain ⟨line, hline⟩ := returns_ofDigits.mpr hline
  obtain ⟨column, hcolumn⟩ := returns_ofDigits.mpr hcolumn
  rw [diagnostic3, diagnostic3, hline, hcolumn]
  simp [bind, Except.bind, pure, Except.pure, String.ofList_inj]

/-- **A finding is the same with further lines behind its block** exactly if it keeps to the
block. -/
theorem finding?_append_iff (hshort : ∀ n ∈ numerals l, Short n) :
    finding? l (rest ++ b) = finding? l rest ↔ KeepsOff l rest b := by
  rw [finding?, finding?, KeepsOff]
  rw [numerals] at hshort
  cases hthree : header3? l with
  | some h =>
    rw [hthree] at hshort
    obtain ⟨hline, hcolumn⟩ := List.forall_mem_cons.mp hshort
    simpa using diagnostic3_append_iff hline (List.forall_mem_singleton.mp hcolumn)
  | none =>
    rw [hthree] at hshort
    cases htwo : header2? l with
    | none => simp
    | some h =>
      rw [htwo] at hshort
      simpa using diagnostic2_append_iff (List.forall_mem_singleton.mp hshort)

/-- **The findings of the Scala compiler in two parts are those of each** exactly if every finding
of the first part keeps to its own block. -/
theorem findings_append_iff (hshort : ∀ n ∈ (a ++ b).flatMap numerals, Short n) :
    findings (a ++ b) = (do
        let xs ← findings a
        let ys ← findings b
        return xs ++ ys) ↔
      ∀ l rest, l :: rest <:+ a → KeepsOff l rest b := by
  rw [← atLines_alone] at hshort
  refine looksAhead.append_iff_keeps returns_find (fun l rest => ?_)
    (fun l rest => finding?_append_iff) hshort
  rw [finding?, finding?]
  cases header3? l with
  | some h => rfl
  | none => dsimp only; rw [Option.isSome_map, Option.isSome_map]

/-- Version 3 keeps to its own block in front of a header of version 3, and of every line without a
gutter. -/
theorem keepsOff_of_header3? (hl : (header3? l).isSome)
    (hb : ∀ first ∈ b.head?, (header3? first).isSome ∨ gutter? first = none) :
    KeepsOff l rest b := by
  obtain ⟨h, hh⟩ := Option.isSome_iff_exists.mp hl
  have hdetails : details (rest ++ b) = details rest :=
    details_append (fun first hfirst => (hb first hfirst).symm.imp_right dashes_of_header3?) rest
  rw [KeepsOff, hh]
  refine ⟨fun header _ => ?_, nofun⟩
  rw [message3, message3, hdetails]

end Scala

/-! ## 4. Output -/

namespace Output

variable {streams : List String} {a b : List (List Char)}

/-- **Output in two parts.**  Its findings are those of the first part and then those of the second
exactly if every finding of the first part keeps to its own block.  For the Java compiler this means
that a finding without carets, or with carets too far away, does not reach carets of the second
part, other than in the first column; for version 2 of the Scala compiler also that there is nothing
but blank lines above the source line of such carets.  Version 3 keeps to its own blocks in front of
its headers and of all lines without a gutter. -/
theorem jvm_append (hlines : outputLines streams = a ++ b) :
    ((∀ n ∈ javacNumerals streams, Short n) →
      (javac streams = (do
          let xs ← Javac.findings a
          let ys ← Javac.findings b
          return xs ++ ys) ↔
        ∀ l rest, l :: rest <:+ a → (Javac.header? l).isSome → Caret.KeepsColumn rest b)) ∧
    ((∀ n ∈ scalaNumerals streams, Short n) →
      (scala streams = (do
          let xs ← Scala.findings a
          let ys ← Scala.findings b
          return xs ++ ys) ↔
        ∀ l rest, l :: rest <:+ a → Scala.KeepsOff l rest b)) ∧
    ((∀ first ∈ b.head?, (Scala.header3? first).isSome ∨ Scala.gutter? first = none) →
      ∀ l rest, (Scala.header3? l).isSome → Scala.KeepsOff l rest b) := by
  rw [javacNumerals, scalaNumerals, javac, scala, hlines]
  refine ⟨Javac.findings_append_iff, Scala.findings_append_iff, fun hb l rest hl => ?_⟩
  exact Scala.keepsOff_of_header3? hl hb

/-- First lines of both compilers, the source and the carets. -/
def caretLines : List (List Char) :=
  ["a.java:1: error: m".toList, "a.scala:1: error: m".toList, ['x'], ['^']]

/-- First lines of both compilers, without carets. -/
def bareLines : List (List Char) := ["b.java:2: error: n".toList, "b.scala:2: error: n".toList]

theorem jvm_append_carets :
    outputLines [feedLines (caretLines ++ bareLines), ""] = caretLines ++ bareLines ∧
    javac [feedLines (caretLines ++ bareLines), ""] = (do
      let xs ← Javac.findings caretLines
      let ys ← Javac.findings bareLines
      return xs ++ ys) ∧
    scala [feedLines (caretLines ++ bareLines), ""] = (do
      let xs ← Scala.findings caretLines
      let ys ← Scala.findings bareLines
      return xs ++ ys) := by
  have hlines : outputLines [feedLines (caretLines ++ bareLines), ""] = caretLines ++ bareLines :=
    outputLines_of_lines (by decide)
  obtain ⟨hjavac, hscala, -⟩ := jvm_append hlines
  refine ⟨hlines, (hjavac ?_).mpr ?_, (hscala ?_).mpr ?_⟩
  · rw [javacNumerals, hlines]
    decide
  · simp only [caretLines, forall_suffix_cons]
    refine ⟨by decide, by decide, by decide, by decide, ?_⟩
    exact fun l rest hsuffix => absurd (List.suffix_nil.mp hsuffix) nofun
  · rw [scalaNumerals, hlines]
    decide
  · simp only [caretLines, forall_suffix_cons]
    refine ⟨by decide, by decide, by decide, by decide, ?_⟩
    exact fun l rest hsuffix => absurd (List.suffix_nil.mp hsuffix) nofun

/-- A finding with carets in the ninth column. -/
def caretsBelow (header : String) : List (List Char) :=
  [header.toList, "val x = y".toList, "        ^".toList]

/-- **Not every finding keeps to its own block**: one without carets takes those of the next, with
either compiler. -/
theorem exists_block_not_kept :
    (¬ ∀ (streams : List String) (a b : List (List Char)), outputLines streams = a ++ b →
      (∃ first ∈ b.head?, (Javac.header? first).isSome) →
      (∀ n ∈ javacNumerals streams, Short n) →
      javac streams = (do
        let xs ← Javac.findings a
        let ys ← Javac.findings b
        return xs ++ ys)) ∧
    ¬ ∀ (streams : List String) (a b : List (List Char)), outputLines streams = a ++ b →
      (∃ first ∈ b.head?, (Scala.header3? first).isSome ∨ (Scala.header2? first).isSome) →
      (∀ n ∈ scalaNumerals streams, Short n) →
      scala streams = (do
        let xs ← Scala.findings a
        let ys ← Scala.findings b
        return xs ++ ys) := by
  constructor
  · intro hall
    have hlines : outputLines [feedLines ("a.java:1: error: m".toList ::
        caretsBelow "b.java:2: error: n"), ""] =
        ["a.java:1: error: m".toList] ++ caretsBelow "b.java:2: error: n" :=
      outputLines_of_lines (by decide)
    have hshort : ∀ n ∈ (["a.java:1: error: m".toList] ++
        caretsBelow "b.java:2: error: n").flatMap Javac.numerals, Short n := by decide
    have hclaimed := hall _ _ _ hlines ⟨"b.java:2: error: n".toList, rfl, by decide⟩
      (by rwa [javacNumerals, hlines])
    rw [javac, hlines, Javac.findings_append_iff hshort] at hclaimed
    exact absurd (hclaimed _ [] (List.suffix_refl _) (by decide)) (by decide)
  · intro hall
    have hlines : outputLines [feedLines ("a.scala:1: error: m".toList ::
        caretsBelow "b.scala:2: error: n"), ""] =
        ["a.scala:1: error: m".toList] ++ caretsBelow "b.scala:2: error: n" :=
      outputLines_of_lines (by decide)
    have hshort : ∀ n ∈ (["a.scala:1: error: m".toList] ++
        caretsBelow "b.scala:2: error: n").flatMap Scala.numerals, Short n := by decide
    have hclaimed := hall _ _ _ hlines ⟨"b.scala:2: error: n".toList, rfl, by decide⟩
      (by rwa [scalaNumerals, hlines])
    rw [scala, hlines, Scala.findings_append_iff hshort] at hclaimed
    exact absurd (hclaimed _ [] (List.suffix_refl _)) (by decide)

end Output

end SourceCheck

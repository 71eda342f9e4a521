import SourceCheck.Proofs.Output.Numerals
import SourceCheck.Proofs.Output.Written

/-!
# What a finding takes from the lines behind it

Elixir may tell the message of a finding, and Terraform its line number, on one of the lines behind
the first.  The readers look for it in a fixed number of lines and do not ask whether another
finding starts among them.  A finding that tells nothing of its own can so come to the message or
the line number of the next one.

* `reachedBehind?`: what a look finds behind the end of a block.
* `Elixir.findings_append_iff`, `Terraform.blocks_append_iff`: when the findings of some lines are
  those of a first and a last part one after the other.
* `Output.following_lines`: the output of the two.
-/

namespace SourceCheck

open Text

/-! ## 1. A look at some lines -/

variable {α : Type} {look : List Char → Option α} {l : List Char} {a b rest : List (List Char)}

/-- **What a look at `n` lines finds behind the end of a block**: there is nothing in the lines
`rest` of the block, and something in the lines `b` behind it that the look still reaches. -/
def reachedBehind? (n : Nat) (look : List Char → Option α) (rest b : List (List Char)) : Option α :=
  if ((rest.take n).findSome? look).isSome then none
  else (b.take (n - rest.length)).findSome? look

/-- **A look goes through the block, then through the lines behind it.** -/
theorem findSome?_take_append (n : Nat) (look : List Char → Option α)
    (rest b : List (List Char)) :
    ((rest ++ b).take n).findSome? look =
      ((rest.take n).findSome? look).or (reachedBehind? n look rest b) := by
  rw [List.take_append, List.findSome?_append, reachedBehind?]
  cases (rest.take n).findSome? look with
  | none => rfl
  | some x => rfl

/-- **A block keeps to itself** if it is long enough, or if the look finds something in it. -/
theorem reachedBehind?_eq_none {n : Nat}
    (h : n ≤ rest.length ∨ ((rest.take n).findSome? look).isSome) (b : List (List Char)) :
    reachedBehind? n look rest b = none := by
  rw [reachedBehind?]
  rcases h with hlength | hfound
  · rw [Nat.sub_eq_zero_of_le hlength, List.take_zero, List.findSome?_nil, ite_self]
  · exact if_pos hfound

/-! ## 2. Elixir -/

namespace Elixir

/-- **A finding keeps its message** if it tells it on its first line or in its own block, or reaches
no other behind the block than the one it has. -/
def KeepsMessage (l : List Char) (rest b : List (List Char)) : Prop :=
  inline? (trim l) = none → ∀ r ∈ header? (trim l),
    ∀ message ∈ reachedBehind? lookahead detail? rest b, trim message = trim r.message

instance (l : List Char) (rest b : List (List Char)) : Decidable (KeepsMessage l rest b) :=
  inferInstanceAs (Decidable (inline? (trim l) = none → ∀ r ∈ header? (trim l),
    ∀ message ∈ reachedBehind? lookahead detail? rest b, trim message = trim r.message))

/-- Two messages make the same of a report exactly if they are the same without outer white
space. -/
theorem diagnostic_eq_iff {r : Report} (hshort : ∀ n ∈ r.numerals, Short n)
    {message message' : List Char} :
    diagnostic r message = diagnostic r message' ↔ trim message = trim message' := by
  obtain ⟨hline, hcolumn⟩ := List.forall_mem_cons.mp hshort
  obtain ⟨line, hline⟩ := returns_ofDigits.mpr hline
  obtain ⟨column, hcolumn⟩ := returns_ofDigits?.mpr hcolumn
  rw [diagnostic, diagnostic, hline, hcolumn]
  simp [bind, Except.bind, pure, Except.pure, String.ofList_inj]

/-- A finding keeps the message that its own block tells, and any message if the block is long
enough. -/
theorem keepsMessage_of_told
    (h : lookahead ≤ rest.length ∨ ((rest.take lookahead).findSome? detail?).isSome)
    (l : List Char) (b : List (List Char)) : KeepsMessage l rest b := by
  rw [KeepsMessage, reachedBehind?_eq_none h b]
  exact fun _ r _ => nofun

/-- **A finding is the same with further lines behind its block** exactly if it keeps its
message. -/
theorem finding?_append_iff (hshort : ∀ n ∈ numerals l, Short n) :
    finding? l (rest ++ b) = finding? l rest ↔ KeepsMessage l rest b := by
  rw [finding?, finding?, KeepsMessage]
  rw [numerals] at hshort
  cases hinline : inline? (trim l) with
  | some r => exact iff_of_true rfl fun hother => absurd hother (Option.some_ne_none r)
  | none =>
    rw [hinline] at hshort
    cases hheader : header? (trim l) with
    | none => simp
    | some r =>
      rw [hheader] at hshort
      have hr : ∀ n ∈ r.numerals, Short n := by simpa using hshort
      simp only [Option.map_some, Option.some.injEq, diagnostic_eq_iff hr, findSome?_take_append,
        Option.mem_def, forall_eq', forall_const]
      cases hown : (rest.take lookahead).findSome? detail? with
      | some message =>
        rw [reachedBehind?_eq_none (.inr (by rw [hown]; rfl))]
        simp
      | none => cases reachedBehind? lookahead detail? rest b <;> simp

/-- **The findings of Elixir in two parts are those of each** exactly if every finding of the first
part keeps its message. -/
theorem findings_append_iff (hshort : ∀ n ∈ (a ++ b).flatMap numerals, Short n) :
    findings (a ++ b) = (do
        let xs ← findings a
        let ys ← findings b
        return xs ++ ys) ↔
      ∀ l rest, l :: rest <:+ a → KeepsMessage l rest b := by
  rw [← atLines_alone] at hshort
  refine looksAhead.append_iff_keeps returns_find (fun l rest => ?_)
    (fun l rest => finding?_append_iff) hshort
  rw [finding?, finding?]
  cases inline? (trim l) with
  | some r => rfl
  | none => dsimp only; rw [Option.isSome_map, Option.isSome_map]

end Elixir

/-! ## 3. Terraform -/

namespace Terraform

/-- **A finding keeps its line** if its own block tells it, or if it reaches no other behind the
block than the first one. -/
def KeepsLine (rest b : List (List Char)) : Prop :=
  ∀ digits ∈ reachedBehind? lookahead location? rest b, Position.ofDigits digits = .ok .first

instance (rest b : List (List Char)) : Decidable (KeepsLine rest b) :=
  inferInstanceAs (Decidable (∀ digits ∈ reachedBehind? lookahead location? rest b,
    Position.ofDigits digits = .ok .first))

/-- A finding keeps the line that its own block tells, and any line if the block is long enough. -/
theorem keepsLine_of_told
    (h : lookahead ≤ rest.length ∨ ((rest.take lookahead).findSome? location?).isSome)
    (b : List (List Char)) : KeepsLine rest b := by
  rw [KeepsLine, reachedBehind?_eq_none h b]
  exact nofun

/-- **A finding is the same with further lines behind its block** exactly if it keeps its line. -/
theorem diagnostic_append_iff (severity : String) (message : List Char)
    (hshort : ∀ n ∈ ((rest ++ b).take lookahead).findSome? location?, Short n) :
    diagnostic severity message (rest ++ b) = diagnostic severity message rest ↔
      KeepsLine rest b := by
  rw [diagnostic, diagnostic, KeepsLine]
  rw [findSome?_take_append] at hshort ⊢
  cases hown : (rest.take lookahead).findSome? location? with
  | some digits =>
    rw [reachedBehind?_eq_none (.inr (by rw [hown]; rfl))]
    exact iff_of_true rfl nofun
  | none =>
    rw [hown, Option.none_or] at hshort
    rw [Option.none_or]
    cases hreached : reachedBehind? lookahead location? rest b with
    | none => exact iff_of_true rfl nofun
    | some digits =>
      rw [hreached] at hshort
      obtain ⟨line, hline⟩ := returns_ofDigits.mpr (hshort digits rfl)
      simp [Position.ofDigits?, hline, bind, Except.bind, pure, Except.pure]

/-- **The blocks of two parts are those of each** exactly if every block of the first part keeps its
line. -/
theorem blocks_append_iff (hshort : ∀ n ∈ atLines blockNumerals (a ++ b), Short n) :
    blocks (a ++ b) = (do
        let xs ← blocks a
        let ys ← blocks b
        return xs ++ ys) ↔
      ∀ l rest, l :: rest <:+ a → (header? l).isSome → KeepsLine rest b := by
  refine looksAhead.append_iff_keeps returns_find (fun l rest => ?_) (fun l rest hnumbers => ?_)
    hshort
  · rw [blockAt, blockAt, Option.isSome_map, Option.isSome_map]
  · rw [blockNumerals] at hnumbers
    rw [blockAt, blockAt]
    cases hl : header? l with
    | none => simp
    | some h =>
      rw [hl] at hnumbers
      simpa using diagnostic_append_iff h.1 h.2 (by simpa using hnumbers)

end Terraform

/-! ## 4. Output -/

/-- Other findings in front make no difference. -/
theorem ok_append_eq_iff (front : List α) {ds : List α} {xs ys : Except Fault (List α)} :
    .ok (front ++ ds) = (do
        let xs ← xs
        let ys ← ys
        return front ++ (xs ++ ys)) ↔
      .ok ds = (do
        let xs ← xs
        let ys ← ys
        return xs ++ ys) := by
  cases xs with
  | error fault => simp [bind, Except.bind]
  | ok xs => cases ys <;> simp [bind, Except.bind, pure, Except.pure]

namespace Output

/-- **Output in two parts.**  Its findings are those of the first part and then those of the second
exactly if every finding of the first part keeps what it tells: with Elixir, if one without a
message of its own reaches no other behind its block; with Terraform, if one without a line number
reaches none but the first.  What a block tells itself is kept, and so is everything if there are
four lines behind the first. -/
theorem following_lines (a b : List (List Char)) :
    (∀ streams, outputLines streams = a ++ b → (∀ n ∈ elixirNumerals streams, Short n) →
      (elixir streams = (do
          let xs ← Elixir.findings a
          let ys ← Elixir.findings b
          return xs ++ ys) ↔
        ∀ l rest, l :: rest <:+ a → Elixir.KeepsMessage l rest b)) ∧
    (∀ stdout stderr, outputLines [stderr] = a ++ b →
      (∀ n ∈ terraformNumerals stdout stderr, Short n) →
      (terraform stdout stderr = (do
          let format ← Terraform.hunks none (outputLines [stdout])
          let xs ← Terraform.blocks (a.map Terraform.unframe)
          let ys ← Terraform.blocks (b.map Terraform.unframe)
          return format ++ (xs ++ ys)) ↔
        ∀ l rest, l :: rest <:+ a.map Terraform.unframe → (Terraform.header? l).isSome →
          Terraform.KeepsLine rest (b.map Terraform.unframe))) ∧
    ∀ rest : List (List Char),
      (Elixir.lookahead ≤ rest.length ∨
          ((rest.take Elixir.lookahead).findSome? Elixir.detail?).isSome →
        ∀ l, Elixir.KeepsMessage l rest b) ∧
      (Terraform.lookahead ≤ rest.length ∨
          ((rest.take Terraform.lookahead).findSome? Terraform.location?).isSome →
        Terraform.KeepsLine rest (b.map Terraform.unframe)) := by
  refine ⟨fun streams hlines hshort => ?_, fun stdout stderr hlines hshort => ?_,
    fun rest => ⟨fun h l => Elixir.keepsMessage_of_told h l b,
      fun h => Terraform.keepsLine_of_told h _⟩⟩
  · rw [elixirNumerals, hlines] at hshort
    rw [elixir, hlines, Elixir.findings_append_iff hshort]
  · obtain ⟨hhunks, hblocks⟩ := List.forall_mem_append.mp hshort
    rw [hlines, List.map_append] at hblocks
    rw [terraform, hlines, List.map_append, ← Terraform.blocks_append_iff hblocks]
    obtain ⟨format, hformat⟩ := (Terraform.returns_hunks none _).mpr hhunks
    obtain ⟨syntaxErrors, hsyntax⟩ := (Terraform.returns_blocks _).mpr hblocks
    rw [hformat, hsyntax]
    exact ok_append_eq_iff format

/-- A block of each tool that tells its message or its line itself. -/
def toldLines : List (List Char) :=
  ["** (TokenError) m on a.ex:1:".toList, "error: told".toList, "Error: m".toList,
    "on a.tf line 3:".toList]

/-- A block of each tool that tells neither. -/
def untoldLines : List (List Char) := ["** (TokenError) n on b.ex:2:".toList, "Error: n".toList]

theorem following_lines_told :
    outputLines [feedLines (toldLines ++ untoldLines), ""] = toldLines ++ untoldLines ∧
    elixir [feedLines (toldLines ++ untoldLines), ""] = (do
      let xs ← Elixir.findings toldLines
      let ys ← Elixir.findings untoldLines
      return xs ++ ys) ∧
    terraform "" (feedLines (toldLines ++ untoldLines)) = (do
      let format ← Terraform.hunks none (outputLines [""])
      let xs ← Terraform.blocks (toldLines.map Terraform.unframe)
      let ys ← Terraform.blocks (untoldLines.map Terraform.unframe)
      return format ++ (xs ++ ys)) := by
  have hlines : outputLines [feedLines (toldLines ++ untoldLines), ""] = toldLines ++ untoldLines :=
    outputLines_of_lines (by decide)
  have hstderr : outputLines [feedLines (toldLines ++ untoldLines)] = toldLines ++ untoldLines :=
    outputLines_of_lines (by decide)
  obtain ⟨helixir, hterraform, -⟩ := following_lines toldLines untoldLines
  refine ⟨hlines, (helixir _ hlines ?_).mpr ?_, (hterraform "" _ hstderr ?_).mpr ?_⟩
  · rw [elixirNumerals, hlines]
    decide
  · simp only [toldLines, forall_suffix_cons]
    exact ⟨by decide, by decide, by decide, by decide, forall_suffix_nil⟩
  · rw [terraformNumerals, hstderr]
    decide
  · simp only [toldLines, List.map_cons, List.map_nil, forall_suffix_cons]
    exact ⟨by decide, by decide, by decide, by decide, forall_suffix_nil⟩

/-- A block of Elixir that tells its message. -/
def elixirBelow : List (List Char) := ["** (TokenError) n on b.ex:2:".toList, "error: told".toList]

/-- A block of Terraform that tells its line. -/
def terraformBelow : List (List Char) := ["Error: n".toList, "on b.tf line 9:".toList]

/-- **Not every finding keeps what it tells**: one without a message, or without a line, takes that
of the next, with either tool. -/
theorem exists_following_taken :
    (¬ ∀ (streams : List String) (a b : List (List Char)), outputLines streams = a ++ b →
      (∃ first ∈ b.head?, (Elixir.inline? (trim first)).isSome ∨
        (Elixir.header? (trim first)).isSome) →
      (∀ n ∈ elixirNumerals streams, Short n) →
      elixir streams = (do
        let xs ← Elixir.findings a
        let ys ← Elixir.findings b
        return xs ++ ys)) ∧
    ¬ ∀ (stderr : String) (a b : List (List Char)), outputLines [stderr] = a ++ b →
      (∃ first ∈ b.head?, (Terraform.header? (Terraform.unframe first)).isSome) →
      (∀ n ∈ terraformNumerals "" stderr, Short n) →
      terraform "" stderr = (do
        let xs ← Terraform.blocks (a.map Terraform.unframe)
        let ys ← Terraform.blocks (b.map Terraform.unframe)
        return xs ++ ys) := by
  constructor
  · intro hall
    have hlines : outputLines [feedLines ("** (TokenError) m on a.ex:1:".toList :: elixirBelow),
        ""] = ["** (TokenError) m on a.ex:1:".toList] ++ elixirBelow :=
      outputLines_of_lines (by decide)
    have hshort : ∀ n ∈ (["** (TokenError) m on a.ex:1:".toList] ++ elixirBelow).flatMap
        Elixir.numerals, Short n := by decide
    have hclaimed := hall _ _ _ hlines ⟨_, rfl, .inr (by decide)⟩
      (by rwa [elixirNumerals, hlines])
    rw [elixir, hlines, Elixir.findings_append_iff hshort] at hclaimed
    exact absurd (hclaimed _ [] (List.suffix_refl _)) (by decide)
  · intro hall
    have hlines : outputLines [feedLines ("Error: m".toList :: terraformBelow)] =
        ["Error: m".toList] ++ terraformBelow :=
      outputLines_of_lines (by decide)
    have hshort : ∀ n ∈ atLines Terraform.blockNumerals
        (["Error: m".toList].map Terraform.unframe ++ terraformBelow.map Terraform.unframe),
        Short n := by decide
    have hclaimed := hall _ _ _ hlines ⟨_, rfl, by decide⟩
      (by rw [terraformNumerals, hlines, List.map_append]; exact hshort)
    rw [terraform, hlines, List.map_append] at hclaimed
    obtain ⟨ds, hds⟩ := (Terraform.returns_blocks _).mpr hshort
    rw [hds] at hclaimed
    exact absurd ((Terraform.blocks_append_iff hshort).mp (hds.trans hclaimed) _ []
      (List.suffix_refl _) (by decide)) (by decide)

end Output

end SourceCheck

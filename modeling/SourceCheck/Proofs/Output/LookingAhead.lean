import SourceCheck.Proofs.Output.Returning

/-!
# Readers that look ahead

Some readers of tool output look at a line and at those behind it: the line tells whether a finding
starts there, the lines behind it what the finding says.  What such a reader makes of a whole is put
together from what it sees at each line.

* `atLines`: what a look at each line, with the lines behind it, comes to.
* `LooksAhead`: readers that look ahead.
* `LooksAhead.returns`: they return if the numbers of each finding are short.
* `LooksAhead.block_append`, `LooksAhead.findings_blocks`, `LooksAhead.length_of_findings`: lines at
  which nothing starts count for nothing, and each of the others for one finding.
* `LooksAhead.append_iff`, `LooksAhead.append_iff_keeps`: findings of some lines are those of a
  first and a last part one after the other exactly if each in the first part says the same without
  the last part.
-/

namespace SourceCheck

variable {α : Type} {l : List Char} {ls : List (List Char)}

/-! ## 1. Looks at each line -/

/-- **What a look at each line comes to**, with the lines behind it. -/
def atLines (look : List Char → List (List Char) → List α) : List (List Char) → List α
  | [] => []
  | l :: ls => look l ls ++ atLines look ls

/-- What is seen at each line without the lines behind it. -/
theorem atLines_alone (look : List Char → List α) (ls : List (List Char)) :
    atLines (fun l _ => look l) ls = ls.flatMap look := by
  induction ls with
  | nil => rfl
  | cons l ls ih => rw [atLines, ih, List.flatMap_cons]

/-- What is seen at one of the lines is seen. -/
theorem mem_atLines_of_suffix {look : List Char → List (List Char) → List α} {x : α}
    {rest : List (List Char)} (h : l :: rest <:+ ls) (hx : x ∈ look l rest) :
    x ∈ atLines look ls := by
  induction ls with
  | nil => exact absurd (List.suffix_nil.mp h) (List.cons_ne_nil l rest)
  | cons first ls ih =>
    rw [atLines, List.mem_append]
    rcases List.suffix_cons_iff.mp h with heq | h
    · obtain ⟨rfl, rfl⟩ := List.cons.inj heq
      exact .inl hx
    · exact .inr (ih h)

/-- There is nothing to say of no lines. -/
theorem forall_suffix_nil {P : List Char → List (List Char) → Prop} :
    ∀ l rest, l :: rest <:+ [] → P l rest := by
  intro l rest hsuffix
  exact absurd (List.suffix_nil.mp hsuffix) (List.cons_ne_nil l rest)

/-- A statement about each line and the lines behind it. -/
theorem forall_suffix_cons {P : List Char → List (List Char) → Prop} :
    (∀ l' rest, l' :: rest <:+ l :: ls → P l' rest) ↔
      P l ls ∧ ∀ l' rest, l' :: rest <:+ ls → P l' rest := by
  simp only [List.suffix_cons_iff]
  constructor
  · exact fun h => ⟨h l ls (.inl rfl), fun l' rest hsuffix => h l' rest (.inr hsuffix)⟩
  · rintro ⟨hhead, htail⟩ l' rest (heq | hsuffix)
    · obtain ⟨rfl, rfl⟩ := List.cons.inj heq
      exact hhead
    · exact htail l' rest hsuffix

/-! ## 2. Readers that look ahead -/

/-- **A reader that looks ahead**: a look at a line and those behind it tells whether a finding
starts there. -/
structure LooksAhead (find : List Char → List (List Char) → Option (Except Fault α))
    (findings : List (List Char) → Except Fault (List α)) : Prop where
  nil : findings [] = .ok []
  skips : ∀ {l ls}, find l ls = none → findings (l :: ls) = findings ls
  finds : ∀ {l ls finding}, find l ls = some finding → findings (l :: ls) = do
    let d ← finding
    let ds ← findings ls
    return d :: ds

namespace LooksAhead

variable {find : List Char → List (List Char) → Option (Except Fault α)}
  {findings : List (List Char) → Except Fault (List α)} {a b : List (List Char)}

/-- **A reader that looks ahead returns** if the numbers of each finding are short. -/
theorem returns (hreader : LooksAhead find findings)
    {numerals : List Char → List (List Char) → List (List Char)}
    (hfind : ∀ l ls, (∀ r ∈ find l ls, Returns r) ↔ ∀ n ∈ numerals l ls, Short n)
    (ls : List (List Char)) :
    Returns (findings ls) ↔ ∀ n ∈ atLines numerals ls, Short n := by
  induction ls with
  | nil => simp [hreader.nil, atLines]
  | cons l ls ih =>
    rw [atLines, List.forall_mem_append, ← hfind, ← ih]
    cases hl : find l ls with
    | none => simp [hreader.skips hl]
    | some r =>
      simp only [hreader.finds hl, Option.mem_def, Option.some.injEq, forall_eq']
      exact returns_both

/-- Lines at which there is no finding are passed over. -/
theorem skip_append (hreader : LooksAhead find findings)
    (h : ∀ l ∈ ls, ∀ rest, find l rest = none) (rest : List (List Char)) :
    findings (ls ++ rest) = findings rest := by
  induction ls with
  | nil => rfl
  | cons l ls ih =>
    obtain ⟨hl, hls⟩ := List.forall_mem_cons.mp h
    rw [List.cons_append, hreader.skips (hl (ls ++ rest)), ih hls]

/-- **A block comes to its finding**: that starts at its first line, and no other at the lines
behind it. -/
theorem block_append (hreader : LooksAhead find findings) {behind rest : List (List Char)} {d : α}
    {ds : List α} (hfirst : find l (behind ++ rest) = some (.ok d))
    (hbehind : ∀ l ∈ behind, ∀ rest, find l rest = none) (hrest : findings rest = .ok ds) :
    findings (l :: behind ++ rest) = .ok (d :: ds) := by
  rw [List.cons_append, hreader.finds hfirst, hreader.skip_append hbehind, hrest]
  rfl

/-- **Blocks come to their findings**, in order: one at each first line, and none at the lines
behind. -/
theorem findings_blocks (hreader : LooksAhead find findings) {β : Type} {first : β → List Char}
    {behind : β → List (List Char)} {finding : β → α} {blocks : List β}
    (hfirst : ∀ b ∈ blocks, ∀ rest, find (first b) (behind b ++ rest) = some (.ok (finding b)))
    (hbehind : ∀ b ∈ blocks, ∀ l ∈ behind b, ∀ rest, find l rest = none) :
    findings (blocks.flatMap fun b => first b :: behind b) = .ok (blocks.map finding) := by
  induction blocks with
  | nil => exact hreader.nil
  | cons b blocks ih =>
    obtain ⟨hb, hblocks⟩ := List.forall_mem_cons.mp hfirst
    obtain ⟨hlines, hbehind⟩ := List.forall_mem_cons.mp hbehind
    rw [List.flatMap_cons, List.map_cons]
    exact hreader.block_append (hb _) hlines (ih hblocks hbehind)

/-- **There are as many findings as lines at which one starts**, if that is for the line alone to
tell. -/
theorem length_of_findings (hreader : LooksAhead find findings) {starts : List Char → Bool}
    (hstarts : ∀ l rest, (find l rest).isSome = starts l) {ds : List α}
    (h : findings ls = .ok ds) : ds.length = ls.countP starts := by
  induction ls generalizing ds with
  | nil =>
    rw [hreader.nil] at h
    obtain rfl := Except.ok.inj h
    rfl
  | cons l ls ih =>
    have hl := hstarts l ls
    cases hfind : find l ls with
    | none =>
      rw [hfind] at hl
      rw [hreader.skips hfind] at h
      rw [List.countP_cons_of_neg (by simp [← hl]), ih h]
    | some finding =>
      rw [hfind] at hl
      rw [hreader.finds hfind] at h
      cases finding with
      | error fault => cases h
      | ok d =>
        cases hls : findings ls with
        | error fault =>
          rw [hls] at h
          cases h
        | ok ds' =>
          rw [hls] at h
          obtain rfl := Except.ok.inj h
          rw [List.countP_cons_of_pos hl.symm, List.length_cons, ih hls]

/-- Readings put together from a first one, further ones and the last. -/
theorem cons_eq_append_iff {d : α} {ds : List α} {r : Except Fault α}
    {xs ys : Except Fault (List α)} :
    .ok (d :: ds) = (do
        let vs ← (do
          let v ← r
          let vs ← xs
          return v :: vs)
        let ws ← ys
        return vs ++ ws) ↔
      .ok d = r ∧ .ok ds = (do
        let vs ← xs
        let ws ← ys
        return vs ++ ws) := by
  cases r with
  | error fault => simp [bind, Except.bind]
  | ok d' =>
    cases xs with
    | error fault => simp [bind, Except.bind]
    | ok vs => cases ys <;> simp [bind, Except.bind, pure, Except.pure]

/-- **A reader that looks ahead finds in two parts what it finds in each** exactly if every finding
of the first part is the same without the second one behind it. -/
theorem append_iff (hreader : LooksAhead find findings)
    (hsame : ∀ l rest, (find l (rest ++ b)).isSome = (find l rest).isSome)
    (hreturns : Returns (findings (a ++ b))) :
    findings (a ++ b) = (do
        let xs ← findings a
        let ys ← findings b
        return xs ++ ys) ↔
      ∀ l rest, l :: rest <:+ a → find l (rest ++ b) = find l rest := by
  induction a with
  | nil =>
    obtain ⟨ys, hys⟩ := hreturns
    rw [List.nil_append] at hys
    rw [List.nil_append, hreader.nil, hys]
    exact iff_of_true rfl forall_suffix_nil
  | cons l ls ih =>
    have hfound := hsame l ls
    rw [forall_suffix_cons, List.cons_append]
    rw [List.cons_append] at hreturns
    cases hboth : find l (ls ++ b) with
    | none =>
      rw [hboth] at hfound
      have halone : find l ls = none := Option.not_isSome_iff_eq_none.mp (by simp [← hfound])
      rw [hreader.skips hboth] at hreturns
      rw [hreader.skips hboth, hreader.skips halone, ih hreturns, halone]
      exact (and_iff_right rfl).symm
    | some finding =>
      rw [hboth] at hfound
      obtain ⟨alone, halone⟩ := Option.isSome_iff_exists.mp hfound.symm
      rw [hreader.finds hboth] at hreturns
      -- One reading that fails makes the whole fail, so the first finding and the others are there
      -- to be compared.
      obtain ⟨⟨d, rfl⟩, ds, hds⟩ := returns_both.mp hreturns
      rw [hreader.finds hboth, hreader.finds halone, ← ih ⟨ds, hds⟩, halone, hds,
        Option.some.injEq]
      exact cons_eq_append_iff

/-- **A reader that looks ahead finds in two parts what it finds in each** exactly if every line of
the first part keeps its finding, whatever that comes to. -/
theorem append_iff_keeps (hreader : LooksAhead find findings)
    {numerals : List Char → List (List Char) → List (List Char)}
    (hfind : ∀ l ls, (∀ r ∈ find l ls, Returns r) ↔ ∀ n ∈ numerals l ls, Short n)
    (hsame : ∀ l rest, (find l (rest ++ b)).isSome = (find l rest).isSome)
    {Keeps : List Char → List (List Char) → Prop}
    (hkeeps : ∀ l rest, (∀ n ∈ numerals l (rest ++ b), Short n) →
      (find l (rest ++ b) = find l rest ↔ Keeps l rest))
    (hshort : ∀ n ∈ atLines numerals (a ++ b), Short n) :
    findings (a ++ b) = (do
        let xs ← findings a
        let ys ← findings b
        return xs ++ ys) ↔
      ∀ l rest, l :: rest <:+ a → Keeps l rest := by
  rw [hreader.append_iff hsame ((hreader.returns hfind (a ++ b)).mpr hshort)]
  refine forall₂_congr fun l rest => imp_congr_right fun hsuffix => hkeeps l rest ?_
  obtain ⟨front, rfl⟩ := hsuffix
  intro n hn
  exact hshort n (mem_atLines_of_suffix ⟨front, by simp⟩ hn)

end LooksAhead

end SourceCheck

import SourceCheck.Proofs.Output.LookingAhead
import SourceCheck.Builtin.Backend

/-!
# The numbers in tool output

Ten of the readers of tool output go by lines, and all that can fail in them is reading a number:
digits are never the trouble, only too many of them.  For each of the ten this module lists the runs
of digits that the reading takes for numbers, and proves that it returns if these are short.

* `returns_eachLine`: readers that go line by line return if the numbers of each line are short.
* `Output.returns_compiler` and its like: the ten readers.
-/

namespace SourceCheck

open Text

variable {α : Type}

/-! ## 1. Readers that go line by line -/

/-- The readings of the lines that are findings, each by itself. -/
theorem returns_eachLine {find : List Char → Option α} {read : α → Except Fault Diagnostic}
    {numerals : α → List (List Char)} (hread : ∀ a, Returns (read a) ↔ ∀ n ∈ numerals a, Short n)
    (ls : List (List Char)) :
    Returns ((ls.filterMap find).mapM read) ↔
      ∀ n ∈ (ls.filterMap find).flatMap numerals, Short n := by
  rw [returns_mapM, List.forall_mem_flatMap]
  exact forall₂_congr fun a _ => hread a

namespace CompilerLine

/-- The numbers in a compiler line. -/
def numerals (l : CompilerLine) : List (List Char) := [l.line, l.column]

theorem returns_diagnostic (l : CompilerLine) :
    Returns l.diagnostic ↔ ∀ n ∈ l.numerals, Short n := by
  refine returns_both.trans ?_
  simp [numerals, returns_ofDigits]

end CompilerLine

namespace GoVetLine

/-- The numbers in a Go vet line. -/
def numerals (l : GoVetLine) : List (List Char) := l.line :: l.column.toList

theorem returns_diagnostic (l : GoVetLine) :
    Returns l.diagnostic ↔ ∀ n ∈ l.numerals, Short n := by
  refine returns_both.trans ?_
  rw [returns_ofDigits, returns_ofDigits?, numerals, List.forall_mem_cons]

end GoVetLine

namespace Luac.LuacLine

/-- The number in a line of the Lua compiler. -/
def numerals (l : LuacLine) : List (List Char) := [l.line]

theorem returns_diagnostic (l : LuacLine) :
    Returns (Luac.diagnostic l) ↔ ∀ n ∈ l.numerals, Short n := by
  refine returns_bind_pure.trans ?_
  rw [returns_ofDigits, numerals, List.forall_mem_singleton]

end Luac.LuacLine

namespace Php.LintLine

/-- The number in a lint line. -/
def numerals (l : LintLine) : List (List Char) := [l.line]

theorem returns_diagnostic (l : LintLine) :
    Returns (Php.diagnostic l) ↔ ∀ n ∈ l.numerals, Short n := by
  refine returns_bind_pure.trans ?_
  rw [returns_ofDigits, numerals, List.forall_mem_singleton]

end Php.LintLine

namespace Output

/-- The numbers that compiler lines hold. -/
def compilerNumerals (streams : List String) : List (List Char) :=
  ((outputLines streams).filterMap fun l => CompilerLine.ofLine? (trim l)).flatMap
    CompilerLine.numerals

theorem returns_compiler (streams : List String) :
    Returns (compiler streams) ↔ ∀ n ∈ compilerNumerals streams, Short n :=
  returns_eachLine CompilerLine.returns_diagnostic _

/-- The numbers that Go vet lines hold. -/
def goVetNumerals (streams : List String) : List (List Char) :=
  ((outputLines streams).filterMap fun l =>
    if (trim l).head? = some '#' then none else GoVetLine.ofLine? (trim l)).flatMap
      GoVetLine.numerals

theorem returns_goVet (streams : List String) :
    Returns (goVet streams) ↔ ∀ n ∈ goVetNumerals streams, Short n :=
  returns_eachLine GoVetLine.returns_diagnostic _

/-- The numbers that lines of the Lua compiler hold. -/
def luacNumerals (streams : List String) : List (List Char) :=
  ((outputLines streams).filterMap fun l => Luac.ofLine? (trim l)).flatMap Luac.LuacLine.numerals

theorem returns_luac (streams : List String) :
    Returns (luac streams) ↔ ∀ n ∈ luacNumerals streams, Short n :=
  returns_eachLine Luac.LuacLine.returns_diagnostic _

/-- The numbers that lint lines hold. -/
def phpNumerals (streams : List String) : List (List Char) :=
  ((outputLines streams).filterMap fun l => Php.ofLine? (trim l)).flatMap Php.LintLine.numerals

theorem returns_php (streams : List String) :
    Returns (php streams) ↔ ∀ n ∈ phpNumerals streams, Short n :=
  returns_bind_pure.trans (returns_eachLine Php.LintLine.returns_diagnostic _)

end Output

/-! ## 2. Readers that look at the lines behind -/

/-- The readings of one finding, if there is one. -/
theorem forall_returns_map {h : Option α} {read : α → Except Fault Diagnostic} :
    (∀ r ∈ h.map read, Returns r) ↔ ∀ a ∈ h, Returns (read a) := by
  cases h with
  | none => simp
  | some a => simp

namespace Javac

/-- The number in the first line of a finding. -/
def numerals (l : List Char) : List (List Char) := ((header? l).map (·.line)).toList

theorem returns_diagnostic (h : LocatedLine) (rest : List (List Char)) :
    Returns (diagnostic h rest) ↔ Short h.line :=
  returns_bind_pure.trans returns_ofDigits

/-- The finding that starts at a line, if one does. -/
def find? (l : List Char) (ls : List (List Char)) : Option (Except Fault Diagnostic) :=
  (header? l).map (diagnostic · ls)

theorem looksAhead : LooksAhead find? findings where
  nil := rfl
  skips h := by simp only [findings, Option.map_eq_none_iff.mp h]
  finds h := by
    obtain ⟨header, hheader, rfl⟩ := Option.map_eq_some_iff.mp h
    simp only [findings, hheader]

theorem returns_find (l : List Char) (ls : List (List Char)) :
    (∀ r ∈ find? l ls, Returns r) ↔ ∀ n ∈ numerals l, Short n := by
  rw [find?, forall_returns_map, numerals]
  cases header? l with
  | none => simp
  | some h => simpa using returns_diagnostic h ls

theorem returns_findings (ls : List (List Char)) :
    Returns (findings ls) ↔ ∀ n ∈ ls.flatMap numerals, Short n := by
  rw [← atLines_alone]
  exact looksAhead.returns returns_find ls

end Javac

namespace Scala

/-- The numbers in the first line of a finding. -/
def numerals (l : List Char) : List (List Char) :=
  match header3? l with
  | some h => [h.line, h.column]
  | none => ((header2? l).map (·.line)).toList

theorem returns_diagnostic2 (h : LocatedLine) (rest : List (List Char)) :
    Returns (diagnostic2 h rest) ↔ Short h.line :=
  returns_bind_pure.trans returns_ofDigits

theorem returns_diagnostic3 (h : Header3) (rest : List (List Char)) :
    Returns (diagnostic3 h rest) ↔ Short h.line ∧ Short h.column :=
  returns_both.trans (and_congr returns_ofDigits returns_ofDigits)

theorem returns_find (l : List Char) (ls : List (List Char)) :
    (∀ r ∈ finding? l ls, Returns r) ↔ ∀ n ∈ numerals l, Short n := by
  rw [finding?, numerals]
  cases header3? l with
  | some h => simpa using returns_diagnostic3 h ls
  | none =>
    dsimp only
    rw [forall_returns_map]
    cases header2? l with
    | none => simp
    | some h => simpa using returns_diagnostic2 h ls

theorem looksAhead : LooksAhead finding? findings where
  nil := rfl
  skips h := by simp only [findings, h]
  finds h := by simp only [findings, h]

theorem returns_findings (ls : List (List Char)) :
    Returns (findings ls) ↔ ∀ n ∈ ls.flatMap numerals, Short n := by
  rw [← atLines_alone]
  exact looksAhead.returns returns_find ls

end Scala

namespace Elixir

/-- The numbers in a report. -/
def Report.numerals (r : Report) : List (List Char) := r.line :: r.column.toList

theorem returns_diagnostic (r : Report) (message : List Char) :
    Returns (diagnostic r message) ↔ ∀ n ∈ r.numerals, Short n := by
  refine returns_both.trans ?_
  rw [returns_ofDigits, returns_ofDigits?, Report.numerals, List.forall_mem_cons]

/-- The numbers in a line: those of the report on it, or else of the header. -/
def numerals (l : List Char) : List (List Char) :=
  ((inline? (trim l)).or (header? (trim l))).toList.flatMap Report.numerals

theorem returns_find (l : List Char) (ls : List (List Char)) :
    (∀ r ∈ finding? l ls, Returns r) ↔ ∀ n ∈ numerals l, Short n := by
  rw [finding?, numerals]
  cases inline? (trim l) with
  | some r => simpa using returns_diagnostic r r.message
  | none =>
    dsimp only
    rw [forall_returns_map, Option.none_or]
    cases header? (trim l) with
    | none => simp
    | some r => simpa using returns_diagnostic r _

theorem looksAhead : LooksAhead finding? findings where
  nil := rfl
  skips h := by simp only [findings, h]
  finds h := by simp only [findings, h]

theorem returns_findings (ls : List (List Char)) :
    Returns (findings ls) ↔ ∀ n ∈ ls.flatMap numerals, Short n := by
  rw [← atLines_alone]
  exact looksAhead.returns returns_find ls

end Elixir

namespace Terraform

/-- **The hunks return** if their first line numbers are short, wherever in a hunk the reading
starts. -/
theorem returns_hunks (line : Option Nat) (ls : List (List Char)) :
    Returns (hunks line ls) ↔ ∀ n ∈ ls.filterMap hunkStart?, Short n := by
  induction ls generalizing line with
  | nil => simp [hunks]
  | cons l ls ih =>
    rw [hunks.eq_def]
    dsimp only
    cases hl : hunkStart? l with
    | some digits =>
      rw [List.filterMap_cons_some hl, List.forall_mem_cons, ← returns_readNumber, ← ih none]
      exact returns_bind_const fun start => (ih (some start)).trans (ih none).symm
    | none =>
      rw [List.filterMap_cons_none hl]
      cases line with
      | none => exact ih none
      | some n =>
        dsimp only
        split
        · exact ih (some n)
        · split
          · exact returns_map.trans (ih none)
          · exact ih (some (n + 1))

/-- The number in a block: the first on the lines behind its first line. -/
def blockNumerals (l : List Char) (ls : List (List Char)) : List (List Char) :=
  match header? l with
  | some _ => ((ls.take lookahead).findSome? location?).toList
  | none => []

theorem returns_diagnostic (severity : String) (message : List Char) (rest : List (List Char)) :
    Returns (diagnostic severity message rest) ↔
      ∀ n ∈ ((rest.take lookahead).findSome? location?).toList, Short n :=
  returns_bind_pure.trans returns_ofDigits?

/-- The finding of the block that starts at a line, if one does. -/
def blockAt (l : List Char) (ls : List (List Char)) : Option (Except Fault Diagnostic) :=
  (header? l).map fun h => diagnostic h.1 h.2 ls

theorem returns_find (l : List Char) (ls : List (List Char)) :
    (∀ r ∈ blockAt l ls, Returns r) ↔ ∀ n ∈ blockNumerals l ls, Short n := by
  rw [blockAt, forall_returns_map, blockNumerals]
  cases header? l with
  | none => simp
  | some h => simpa using returns_diagnostic h.1 h.2 ls

theorem looksAhead : LooksAhead blockAt blocks where
  nil := rfl
  skips h := by simp only [blocks, Option.map_eq_none_iff.mp h]
  finds h := by
    obtain ⟨header, hheader, rfl⟩ := Option.map_eq_some_iff.mp h
    simp only [blocks, hheader]

theorem returns_blocks (ls : List (List Char)) :
    Returns (blocks ls) ↔ ∀ n ∈ atLines blockNumerals ls, Short n :=
  looksAhead.returns returns_find ls

end Terraform

namespace Output

/-- The numbers in the findings of the Java compiler. -/
def javacNumerals (streams : List String) : List (List Char) :=
  (outputLines streams).flatMap Javac.numerals

theorem returns_javac (streams : List String) :
    Returns (javac streams) ↔ ∀ n ∈ javacNumerals streams, Short n :=
  Javac.returns_findings _

/-- The numbers in the findings of the Scala compiler. -/
def scalaNumerals (streams : List String) : List (List Char) :=
  (outputLines streams).flatMap Scala.numerals

theorem returns_scala (streams : List String) :
    Returns (scala streams) ↔ ∀ n ∈ scalaNumerals streams, Short n :=
  Scala.returns_findings _

/-- The numbers in the findings of Elixir. -/
def elixirNumerals (streams : List String) : List (List Char) :=
  (outputLines streams).flatMap Elixir.numerals

theorem returns_elixir (streams : List String) :
    Returns (elixir streams) ↔ ∀ n ∈ elixirNumerals streams, Short n :=
  Elixir.returns_findings _

/-- The numbers in a Terraform format check: those of the hunks, then those of the blocks. -/
def terraformNumerals (stdout stderr : String) : List (List Char) :=
  (outputLines [stdout]).filterMap Terraform.hunkStart? ++
    atLines Terraform.blockNumerals ((outputLines [stderr]).map Terraform.unframe)

theorem returns_terraform (stdout stderr : String) :
    Returns (terraform stdout stderr) ↔ ∀ n ∈ terraformNumerals stdout stderr, Short n := by
  rw [terraformNumerals, List.forall_mem_append, ← Terraform.returns_hunks none,
    ← Terraform.returns_blocks]
  exact returns_both

end Output

end SourceCheck

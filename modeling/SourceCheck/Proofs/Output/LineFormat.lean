import SourceCheck.Proofs.Output.LineReaders

/-!
# Findings written on lines

A tool that writes each finding on a line of its own can be read back if the reader takes each such
line apart as it was put together; whatever else stands between the lines is passed over.

* `LineFormat`: a way to write findings on lines, and a reader that takes them apart again.
* `LineFormat.Proper`: lines that are what they are meant to be.
* `LineFormat.read_output`: the findings among the lines of output are read back, in order.
-/

namespace SourceCheck

open Text

/-- **A line of output**: a finding, or something else. -/
inductive OutputLine (φ : Type)
  | finding (f : φ)
  | noise (line : List Char)

/-- The finding on the line, if there is one. -/
def OutputLine.finding? {φ : Type} : OutputLine φ → Option φ
  | finding f => some f
  | noise _ => none

/-- **A way to write findings on lines**, and a reader that takes the lines apart again. -/
structure LineFormat (φ α : Type) where
  /-- Findings that can be told from their line. -/
  Sound : φ → Prop
  text : φ → List Char
  /-- What the finding says. -/
  diagnostic : φ → Diagnostic
  find : List Char → Option α
  read : α → Except Fault Diagnostic
  find_nil : find [] = none
  unbroken : ∀ f, Sound f → Unbroken (text f)
  found : ∀ f, Sound f → ∃ a, find (trim (text f)) = some a ∧ read a = .ok (diagnostic f)

namespace LineFormat

variable {φ α : Type} (F : LineFormat φ α)

def line : OutputLine φ → List Char
  | .finding f => F.text f
  | .noise line => line

/-- **Lines that are what they are meant to be**: findings that can be told from their line, and
other lines in which the reader finds nothing. -/
def Proper : OutputLine φ → Prop
  | .finding f => F.Sound f
  | .noise line => Unbroken line ∧ F.find (trim line) = none

/-- The output of some lines. -/
def output (ls : List (OutputLine φ)) : String := String.ofList (['\n'].intercalate (ls.map F.line))

variable {F}

theorem unbroken_line {l : OutputLine φ} (h : F.Proper l) : Unbroken (F.line l) := by
  cases l with
  | finding f => exact F.unbroken f h
  | noise line => exact h.1

/-- The findings among some lines. -/
theorem read_lines {ls : List (OutputLine φ)} (h : ∀ l ∈ ls, F.Proper l) :
    (ls.filterMap fun l => F.find (trim (F.line l))).mapM F.read =
      .ok ((ls.filterMap OutputLine.finding?).map F.diagnostic) := by
  induction ls with
  | nil => rfl
  | cons l ls ih =>
    obtain ⟨hl, hls⟩ := List.forall_mem_cons.mp h
    cases l with
    | finding f =>
      obtain ⟨a, hfind, hread⟩ := F.found f hl
      have hline : F.find (trim (F.line (.finding f))) = some a := hfind
      simp only [List.filterMap_cons, hline, List.mapM_cons, hread, ih hls]
      rfl
    | noise line =>
      have hline : F.find (trim (F.line (.noise line))) = none := hl.2
      simp only [List.filterMap_cons, hline, ih hls]
      rfl

/-- **The findings among the lines of the streams are read back**, in order and with nothing
changed. -/
theorem read_output {streams : List (List (OutputLine φ))}
    (h : ∀ ls ∈ streams, ∀ l ∈ ls, F.Proper l) :
    byLines (fun l => F.find (trim l)) F.read (streams.map F.output) =
      .ok ((streams.flatten.filterMap OutputLine.finding?).map F.diagnostic) := by
  have hproper : ∀ l ∈ streams.flatten, F.Proper l := by
    intro l hl
    obtain ⟨ls, hls, hmem⟩ := List.mem_flatten.mp hl
    exact h ls hls l hmem
  have hunbroken : ∀ ls ∈ streams.map (·.map F.line), ∀ l ∈ ls, Unbroken l := by
    simp only [List.forall_mem_map]
    exact fun ls hls l hl => unbroken_line (h ls hls l hl)
  have hlines := filterMap_outputLines F.find_nil hunbroken
  rw [List.map_map, ← List.map_flatten, List.filterMap_map] at hlines
  rw [byLines]
  exact (congrArg (·.mapM F.read) hlines).trans (read_lines hproper)

end LineFormat

end SourceCheck

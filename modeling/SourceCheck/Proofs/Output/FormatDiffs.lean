import SourceCheck.Output.Terraform
import SourceCheck.Proofs.Output.Written

/-!
# The hunks of a diff

A diff names files and lists hunks.  A hunk says at which line it starts; its lines are marked by a
space if they stay, by a dash if they are taken out and by a plus if they are put in.  The reader
counts the lines that stay up to the first changed one and reports the hunk there.  It takes every
line with three dashes or pluses for the name of a file, also inside a hunk, where it may as well be
a changed line whose own text starts with two of them.  Such a line is passed over and not counted.

* `DiffItem`: names and hunks as a diff has them.
* `DiffHunk.line?`: where a hunk is reported, if it is.
* `DiffHunk.line?_eq_iff`: this is the line of the first change exactly if the first line from there
  on that does not look like a name is a changed one.
* `Output.terraform_hunks`: each hunk is reported there, in order.
-/

namespace SourceCheck

open Text

/-! ## 1. Diffs -/

/-- **Whether a changed line is taken out or put in.** -/
inductive DiffSign
  | removed
  | added
  deriving DecidableEq

namespace DiffSign

/-- The character that marks the line. -/
def mark : DiffSign → Char
  | removed => '-'
  | added => '+'

/-- The characters that mark the name of a file. -/
def nameMark : DiffSign → String
  | removed => "---"
  | added => "+++"

variable {s : DiffSign}

theorem mark_firm (s : DiffSign) : EndsFirm [s.mark] := by
  cases s <;> exact fun c hc => Option.some.inj hc ▸ by decide

theorem nameMark_firm (s : DiffSign) : EndsFirm s.nameMark.toList := by
  cases s <;> exact fun c hc => Option.some.inj hc ▸ by decide

end DiffSign

/-- **A line of a hunk.** -/
inductive HunkLine
  | context (text : List Char)
  | changed (sign : DiffSign) (text : List Char)
  deriving DecidableEq

namespace HunkLine

def text : HunkLine → List Char
  | context s => ' ' :: s
  | changed sign s => sign.mark :: s

def isChanged : HunkLine → Bool
  | context _ => false
  | changed _ _ => true

/-- Whether the line looks like the name of a file: it is changed, and its own text starts with the
mark twice. -/
def looksLikeName : HunkLine → Bool
  | context _ => false
  | changed sign s => [sign.mark, sign.mark].isPrefixOf s

end HunkLine

/-- **A hunk of a diff**: where it starts and how many lines it has, before and after the change,
then lines that stay, the first changed line and the others. -/
structure DiffHunk where
  start : List Char
  count : List Char
  newStart : List Char
  newCount : List Char
  context : List (List Char)
  sign : DiffSign
  change : List Char
  rest : List HunkLine
  deriving DecidableEq

namespace DiffHunk

/-- **The first line of the hunk**, `@@ -start,count +start,count @@`. -/
def header (h : DiffHunk) : List Char :=
  "@@ -".toList ++ (h.start ++ (",".toList ++ (h.count ++ (" +".toList ++ (h.newStart ++
    (",".toList ++ (h.newCount ++ " @@".toList)))))))

/-- The lines from the first changed one on. -/
def changes (h : DiffHunk) : List HunkLine := .changed h.sign h.change :: h.rest

/-- The lines behind the first line. -/
def body (h : DiffHunk) : List HunkLine := h.context.map .context ++ h.changes

/-- The line of the first change. -/
def changedLine (h : DiffHunk) : Nat := decimalNumber h.start + h.context.length

/-- **The line at which the hunk is reported**, if it is: the first changed one when those that look
like names are taken away. -/
def line? (h : DiffHunk) : Option Nat :=
  ((h.body.filter fun l => !l.looksLikeName).findIdx? HunkLine.isChanged).map
    (decimalNumber h.start + ·)

/-- The first line from the first changed one on that does not look like a name is a changed one. -/
def Shows (h : DiffHunk) : Prop :=
  (h.changes.find? fun l => !l.looksLikeName).any HunkLine.isChanged = true

instance (h : DiffHunk) : Decidable h.Shows :=
  inferInstanceAs (Decidable ((h.changes.find? _).any _ = true))

/-- **Hunks that give numbers**, the first of which is not too long. -/
structure Sound (h : DiffHunk) : Prop where
  start : Numeral h.start
  count : Numeral h.count
  newStart : Numeral h.newStart
  newCount : Numeral h.newCount
  short : Short h.start

end DiffHunk

/-- **A part of a diff**: the name of a file, or a hunk. -/
inductive DiffItem
  | name (sign : DiffSign) (path : List Char)
  | hunk (h : DiffHunk)
  deriving DecidableEq

namespace DiffItem

def lines : DiffItem → List (List Char)
  | name sign path => [sign.nameMark.toList ++ ' ' :: path]
  | hunk h => h.header :: h.body.map HunkLine.text

/-- The hunk, if it is one. -/
def hunk? : DiffItem → Option DiffHunk
  | name _ _ => none
  | hunk h => some h

/-- **The hunks of a diff**, in order. -/
def hunksOf (items : List DiffItem) : List DiffHunk := items.filterMap hunk?

end DiffItem

/-- **The warning that the format differs at a line.** -/
def formatFinding (line : Nat) : Diagnostic :=
  ⟨.ofNat line, .first, .warning, "Formatting issues detected (run `terraform fmt` to fix)",
    some "fmt"⟩

/-! ## 2. Lines that are told apart -/

namespace Terraform

variable {l name : List Char} {rest : List (List Char)} {n : Nat} {ds : List Diagnostic}
  {sign : DiffSign}

/-- A line that starts a hunk starts with an at sign. -/
theorem head?_of_hunkStart? {digits : List Char} (h : hunkStart? l = some digits) :
    l.head? = some '@' := by
  rw [hunkStart?] at h
  obtain ⟨r, hr, -⟩ := Option.bind_eq_some_iff.mp h
  rw [of_afterWord hr]
  rfl

theorem hunkStart?_eq_none (h : l.head? ≠ some '@') : hunkStart? l = none :=
  Option.eq_none_iff_forall_ne_some.mpr fun _ hl => h (head?_of_hunkStart? hl)

theorem isFileLine_iff : isFileLine l = true ↔ "---".toList <+: l ∨ "+++".toList <+: l := by
  rw [isFileLine, Bool.or_eq_true, isSome_afterWord_iff, isSome_afterWord_iff]

/-- A line that is taken for a name is passed over. -/
theorem hunks_fileLine (hstart : hunkStart? l = none) (hfile : isFileLine l = true)
    (line : Option Nat) : hunks line (l :: rest) = hunks line rest := by
  rw [hunks.eq_def]
  cases line <;> simp only [hstart, hfile, if_true]

theorem hunks_closed (hstart : hunkStart? l = none) : hunks none (l :: rest) = hunks none rest := by
  rw [hunks, hstart]

theorem hunks_unchanged (hstart : hunkStart? l = none) (hfile : isFileLine l = false)
    (hchanged : isChanged l = false) : hunks (some n) (l :: rest) = hunks (some (n + 1)) rest := by
  rw [hunks, hstart]
  simp only [hfile, hchanged, Bool.false_eq_true, if_false]

theorem hunks_changed (hstart : hunkStart? l = none) (hfile : isFileLine l = false)
    (hchanged : isChanged l = true) :
    hunks (some n) (l :: rest) = (hunks none rest).map (formatFinding n :: ·) := by
  rw [hunks, hstart]
  simp only [hfile, hchanged, Bool.false_eq_true, if_false, if_true]
  rfl

end Terraform

/-! ## 3. Lines of a hunk -/

namespace HunkLine

open Terraform

variable {l : HunkLine} {ls : List HunkLine} {rest : List (List Char)} {n : Nat}
  {ds : List Diagnostic}

theorem trimRight_changed (sign : DiffSign) (s : List Char) :
    Text.trimRight (changed sign s).text = sign.mark :: Text.trimRight s :=
  trimRight_append_of_firm sign.mark_firm s

/-- A line that stays is empty or starts with a space when it is trimmed. -/
theorem head?_trimRight_context (s : List Char) :
    ∀ c, (Text.trimRight (context s).text).head? = some c → c = ' ' := by
  intro c hc
  obtain ⟨r, hr⟩ := begins_trimRight (context s).text
  obtain ⟨cs, hcs⟩ := List.head?_eq_some_iff.mp hc
  rw [hcs] at hr
  exact (List.cons.inj hr).1

theorem hunkStart?_trimRight (l : HunkLine) : hunkStart? (Text.trimRight l.text) = none := by
  refine hunkStart?_eq_none fun hat => ?_
  cases l with
  | context s => exact absurd (head?_trimRight_context s _ hat) (by decide)
  | changed sign s =>
    rw [trimRight_changed] at hat
    cases sign <;> exact absurd (Option.some.inj hat) (by decide)

theorem isChanged_trimRight (l : HunkLine) :
    Terraform.isChanged (Text.trimRight l.text) = l.isChanged := by
  cases l with
  | context s =>
    rw [Terraform.isChanged, isChanged, Bool.or_eq_false_iff, decide_eq_false_iff_not,
      decide_eq_false_iff_not]
    constructor
    · exact fun hc => absurd (head?_trimRight_context s _ hc) (by decide)
    · exact fun hc => absurd (head?_trimRight_context s _ hc) (by decide)
  | changed sign s =>
    rw [trimRight_changed]
    cases sign <;> rfl

/-- **A line of a hunk is taken for a name if it looks like one.** -/
theorem isFileLine_trimRight (l : HunkLine) :
    isFileLine (Text.trimRight l.text) = l.looksLikeName := by
  have hdashes : EndsFirm "---".toList := DiffSign.nameMark_firm .removed
  have hpluses : EndsFirm "+++".toList := DiffSign.nameMark_firm .added
  rw [Bool.eq_iff_iff, isFileLine_iff, prefix_trimRight_iff hdashes, prefix_trimRight_iff hpluses]
  cases l with
  | context s => simp [text, looksLikeName]
  | changed sign s =>
    cases sign <;>
      simp [text, looksLikeName, DiffSign.mark, List.cons_prefix_cons, List.isPrefixOf_iff_prefix]

/-- Once a hunk is reported, its other lines say nothing. -/
theorem hunks_none_append (ls : List HunkLine) (rest : List (List Char)) :
    hunks none (ls.map (Text.trimRight ·.text) ++ rest) = hunks none rest := by
  induction ls with
  | nil => rfl
  | cons l ls ih => rw [List.map_cons, List.cons_append, hunks_closed (hunkStart?_trimRight l), ih]

/-- **The lines of a hunk, read from some line on**, in front of lines that are read alike whether
a hunk is open or not. -/
theorem hunks_some_append (hrest : ∀ line, hunks line rest = .ok ds) (n : Nat) :
    hunks (some n) (ls.map (Text.trimRight ·.text) ++ rest) =
      .ok ((((ls.filter fun l => !l.looksLikeName).findIdx? isChanged).map
        fun i => formatFinding (n + i)).toList ++ ds) := by
  -- The number of the line moves on with each line that stays, so it is general in the induction.
  induction ls generalizing n with
  | nil => exact hrest (some n)
  | cons l ls ih =>
    have hstart := hunkStart?_trimRight l
    have hfile := isFileLine_trimRight l
    have hchanged := isChanged_trimRight l
    rw [List.map_cons, List.cons_append]
    cases hname : l.looksLikeName with
    | true =>
      rw [hname] at hfile
      rw [hunks_fileLine hstart hfile, ih, List.filter_cons_of_neg (by simp [hname])]
    | false =>
      rw [hname] at hfile
      rw [List.filter_cons_of_pos (by simp [hname]), List.findIdx?_cons]
      cases hl : l.isChanged with
      | true =>
        rw [hl] at hchanged
        rw [hunks_changed hstart hfile hchanged, hunks_none_append, hrest none]
        rfl
      | false =>
        rw [hl] at hchanged
        rw [hunks_unchanged hstart hfile hchanged, ih]
        simp only [Bool.false_eq_true, if_false, Option.map_map]
        congr 4
        funext i
        rw [Function.comp_apply, Nat.add_assoc, Nat.add_comm 1 i]

end HunkLine

/-! ## 4. Hunks -/

namespace DiffHunk

open Terraform

variable {h : DiffHunk} {rest : List (List Char)} {ds : List Diagnostic}

/-- **The hunk's first line is read.** -/
theorem hunkStart?_header (hsound : h.Sound) : hunkStart? h.header = some h.start := by
  have hstart := digits?_before hsound.start "," (by decide)
  have hcount := digits?_before hsound.count " +" (by decide)
  have hnewStart := digits?_before hsound.newStart "," (by decide)
  have hnewCount := digits?_before hsound.newCount " @@" (by decide) []
  rw [List.append_nil] at hnewCount
  have hend : afterWord " @@" " @@".toList = some [] := rfl
  rw [hunkStart?, header]
  simp only [afterWord_append, hstart, hcount, hnewStart, hnewCount, hend, skipCount,
    Option.bind_eq_bind, Option.bind_some, Option.pure_def]

theorem endsFirm_header (h : DiffHunk) : EndsFirm h.header := by
  intro c hc
  simp only [header, ← List.append_assoc] at hc
  rw [List.getLast?_append_of_ne_nil _ (by decide)] at hc
  exact Option.some.inj hc ▸ by decide

/-- **A hunk is reported at its line**, in front of lines that are read alike whether a hunk is open
or not; and so are the lines from the hunk on. -/
theorem hunks_hunk (hsound : h.Sound) (hrest : ∀ line, hunks line rest = .ok ds)
    (line : Option Nat) :
    hunks line ((DiffItem.hunk h).lines.map Text.trimRight ++ rest) =
      .ok ((h.line?.map formatFinding).toList ++ ds) := by
  have hstart : hunkStart? (Text.trimRight h.header) = some h.start := by
    rw [trimRight_of_firm (endsFirm_header h), hunkStart?_header hsound]
  have hnumber : Number.readNumber h.start = .ok (decimalNumber h.start) :=
    if_neg (Nat.not_lt.mpr hsound.short)
  rw [DiffItem.lines, List.map_cons, List.cons_append, hunks.eq_def]
  simp only [hstart, hnumber, List.map_map]
  exact (HunkLine.hunks_some_append hrest _).trans (by rw [line?, Option.map_map]; rfl)

/-- The lines that stay in front of the first change are all counted. -/
theorem line?_eq (h : DiffHunk) :
    h.line? = ((h.changes.filter fun l => !l.looksLikeName).findIdx? HunkLine.isChanged).map
      (h.changedLine + ·) := by
  have hcontext : (h.context.map HunkLine.context).filter (fun l => !l.looksLikeName) =
      h.context.map .context := by
    rw [List.filter_eq_self, List.forall_mem_map]
    exact fun s _ => rfl
  have hunchanged : (h.context.map HunkLine.context).findIdx? HunkLine.isChanged = none := by
    rw [List.findIdx?_eq_none_iff, List.forall_mem_map]
    exact fun s _ => rfl
  rw [line?, body, List.filter_append, hcontext, List.findIdx?_append, hunchanged, Option.none_or,
    Option.map_map, List.length_map]
  congr 1
  funext i
  rw [Function.comp_apply, changedLine, Nat.add_assoc, Nat.add_comm i]

/-- **A hunk is reported at its first change** exactly if the first line from there on that does not
look like a name is a changed one. -/
theorem line?_eq_iff (h : DiffHunk) : h.line? = some h.changedLine ↔ h.Shows := by
  rw [line?_eq, Shows, ← List.head?_filter]
  cases h.changes.filter fun l => !l.looksLikeName with
  | nil => simp
  | cons l ls =>
    rw [List.findIdx?_cons, List.head?_cons, Option.any_some]
    cases l.isChanged with
    | true => simp
    | false =>
      simp only [Bool.false_eq_true, if_false, iff_false, Option.map_map, Option.map_eq_some_iff]
      rintro ⟨i, -, hi⟩
      rw [Function.comp_apply] at hi
      omega

end DiffHunk

/-! ## 5. Diffs -/

namespace DiffItem

open Terraform

variable {items : List DiffItem}

theorem hunks_name (sign : DiffSign) (path : List Char) (line : Option Nat)
    (rest : List (List Char)) :
    hunks line ((name sign path).lines.map Text.trimRight ++ rest) = hunks line rest := by
  have hstart : hunkStart? (sign.nameMark.toList ++ Text.trimRight (' ' :: path)) = none :=
    hunkStart?_eq_none (by cases sign <;> exact fun hat => absurd (Option.some.inj hat) (by decide))
  have hfile : isFileLine (sign.nameMark.toList ++ Text.trimRight (' ' :: path)) = true := by
    rw [isFileLine_iff]
    cases sign with
    | removed => exact .inl (List.prefix_append _ _)
    | added => exact .inr (List.prefix_append _ _)
  rw [lines, List.map_singleton, List.singleton_append,
    trimRight_append_of_firm sign.nameMark_firm]
  exact hunks_fileLine hstart hfile line

/-- **The hunks of a diff are reported**, in order, whether a hunk is open in front of it or not. -/
theorem hunks_items (h : ∀ hunk ∈ hunksOf items, hunk.Sound) (line : Option Nat) :
    hunks line ((items.flatMap DiffItem.lines).map Text.trimRight) =
      .ok (((hunksOf items).filterMap DiffHunk.line?).map formatFinding) := by
  induction items generalizing line with
  | nil => cases line <;> rfl
  | cons item items ih =>
    rw [List.flatMap_cons, List.map_append]
    cases item with
    | name sign path =>
      rw [hunks_name]
      exact ih h line
    | hunk hunk =>
      obtain ⟨hsound, hsounds⟩ := List.forall_mem_cons.mp h
      rw [DiffHunk.hunks_hunk hsound (ih hsounds), hunksOf, hunksOf,
        List.filterMap_cons_some (f := hunk?) rfl, List.filterMap_cons]
      cases hunk.line? <;> rfl

end DiffItem

/-- Items that all come to something come to as much as there are of them. -/
theorem filterMap_eq_map_iff {α β : Type} {f : α → Option β} {g : α → β} {l : List α} :
    l.filterMap f = l.map g ↔ ∀ a ∈ l, f a = some (g a) := by
  induction l with
  | nil => simp
  | cons a l ih =>
    rw [List.forall_mem_cons, ← ih, List.map_cons, List.filterMap_cons]
    cases hf : f a with
    | some b => simp
    | none =>
      simp only [reduceCtorEq, false_and, iff_false]
      intro heq
      have hle : (l.filterMap f).length ≤ l.length := List.length_filterMap_le f l
      rw [heq, List.length_cons, List.length_map] at hle
      exact Nat.not_succ_le_self _ hle

namespace Output

open DiffItem

variable {items : List DiffItem} {stdout stderr : String}

/-- **The hunks of a diff are reported**, in order and in front of what the other stream reports:
each at the first changed line that does not look like a name, if it has one, where lines that look
like names are not counted.  So there is one finding for each hunk, at its first change, exactly if
every hunk shows that change: the first line from there on that does not look like a name is a
changed one. -/
theorem terraform_hunks (hlines : lines stdout.toList = items.flatMap DiffItem.lines)
    (hsound : ∀ hunk ∈ hunksOf items, hunk.Sound) :
    terraform stdout stderr =
        (Terraform.blocks ((outputLines [stderr]).map Terraform.unframe)).map
          ((((hunksOf items).filterMap DiffHunk.line?).map formatFinding) ++ ·) ∧
      ((hunksOf items).filterMap DiffHunk.line? = (hunksOf items).map DiffHunk.changedLine ↔
        ∀ hunk ∈ hunksOf items, hunk.Shows) := by
  constructor
  · have hstdout : outputLines [stdout] =
        (items.flatMap DiffItem.lines).map Text.trimRight := by
      rw [outputLines, List.flatMap_singleton, hlines]
    rw [terraform, hstdout, hunks_items hsound]
    cases Terraform.blocks ((outputLines [stderr]).map Terraform.unframe) <;> rfl
  · rw [filterMap_eq_map_iff]
    exact forall₂_congr fun hunk _ => DiffHunk.line?_eq_iff hunk

/-- A hunk with a line that stays, then a line that is taken out and looks like a name, and two that
are changed. -/
def dashedHunk : DiffHunk where
  start := ['1']
  count := ['3']
  newStart := ['1']
  newCount := ['3']
  context := [['a']]
  sign := .removed
  change := ['-', '-', 'b']
  rest := [.changed .removed ['c'], .changed .added ['d']]

/-- A hunk whose only change looks like a name. -/
def hiddenHunk : DiffHunk where
  start := ['7']
  count := ['2']
  newStart := ['7']
  newCount := ['1']
  context := [['a']]
  sign := .removed
  change := ['-', '-', 'b']
  rest := []

theorem sound_dashedHunk : dashedHunk.Sound :=
  ⟨by decide, by decide, by decide, by decide, by decide⟩

theorem sound_hiddenHunk : hiddenHunk.Sound :=
  ⟨by decide, by decide, by decide, by decide, by decide⟩

/-- A diff with the names of a file and some hunks. -/
def diffOf (hunks : List DiffHunk) : List DiffItem :=
  .name .removed ['a'] :: .name .added ['a'] :: hunks.map .hunk

/-- The text of a diff. -/
def textOf (items : List DiffItem) : String := feedLines (items.flatMap DiffItem.lines)

theorem terraform_hunks_dashed :
    (∀ hunk ∈ hunksOf (diffOf [dashedHunk]), hunk.Sound) ∧
    terraform (textOf (diffOf [dashedHunk])) "" = .ok [formatFinding 2] ∧
    (hunksOf (diffOf [dashedHunk])).filterMap DiffHunk.line? =
      (hunksOf (diffOf [dashedHunk])).map DiffHunk.changedLine := by
  have hlines : lines (textOf (diffOf [dashedHunk])).toList =
      (diffOf [dashedHunk]).flatMap DiffItem.lines := lines_feedLines (by decide)
  have hsound : ∀ hunk ∈ hunksOf (diffOf [dashedHunk]), hunk.Sound :=
    List.forall_mem_singleton.mpr sound_dashedHunk
  obtain ⟨hreported, hfirst⟩ : terraform (textOf (diffOf [dashedHunk])) "" = _ ∧ _ :=
    terraform_hunks hlines hsound
  exact ⟨hsound, hreported, hfirst.mpr (List.forall_mem_singleton.mpr (by decide))⟩

/-- **Not every hunk is reported at its first change**: one is left out whose only change looks like
the name of a file. -/
theorem exists_change_not_reported :
    ¬ ∀ (items : List DiffItem) (stdout : String),
      lines stdout.toList = items.flatMap DiffItem.lines →
      (∀ hunk ∈ hunksOf items, hunk.Sound) →
      Terraform.hunks none (outputLines [stdout]) =
        .ok ((hunksOf items).map fun hunk => formatFinding hunk.changedLine) := by
  intro hall
  have hlines : lines (textOf (diffOf [hiddenHunk])).toList =
      (diffOf [hiddenHunk]).flatMap DiffItem.lines := lines_feedLines (by decide)
  have hsound : ∀ hunk ∈ hunksOf (diffOf [hiddenHunk]), hunk.Sound :=
    List.forall_mem_singleton.mpr sound_hiddenHunk
  have hclaimed := hall _ _ hlines hsound
  have hread : Terraform.hunks none (outputLines [textOf (diffOf [hiddenHunk])]) = .ok [] := by
    rw [outputLines, List.flatMap_singleton, hlines, hunks_items hsound]
    rfl
  rw [hread] at hclaimed
  cases hclaimed

end Output

end SourceCheck

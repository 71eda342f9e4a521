import SourceCheck.Proofs.Output.FollowingLines
import SourceCheck.Proofs.Output.GoVetLines

/-!
# Reports that are read back

Elixir writes a report in one of two layouts.  The older one is a line with a path, a position and
the message.  The newer one is a line with a summary, a path and a position, below which the message
stands on a line of its own, behind three other lines at most.  Both start alike, and the reader
tries the older layout first.  So a report in the newer one is read back if its summary does not
start with a path and a position of its own.

* `Elixir.StartsLocated`: texts that start like what the older layout has behind the kind.
* `ReportBlock`, `ReportBlock.Sound`, `ReportBlock.Clear`: reports as Elixir writes them.
* `ReportBlock.inline?_header`, `ReportBlock.header?_header`: their first lines are taken apart.
* `ReportBlock.findings_blocks`: the lines of some reports come to their findings, in order.
-/

namespace SourceCheck

open Text

open GoVetFinding (columnText columnIn_columnText digits?_columnText)

/-! ## 1. Parts of lines -/

namespace Text

variable {α : Type} {read : List Char → Option α} {look : List Char → Option α} {a : α}
  {b q rest X Y : List Char} {before : List (List Char)} {l : List Char} {n : Nat}

/-- **A beginning whose end nothing marks** is told from what follows at the latest where the rest
can be read. -/
theorem exists_shortest (hne : b ≠ []) (hread : read rest = some a) :
    ∃ front q a', b = front ++ q ∧ read (q ++ rest) = some a' ∧
      shortest read (b ++ rest) = some (front, a') := by
  have hsome : (read rest).isSome = true := by rw [hread]; rfl
  obtain ⟨⟨front, a'⟩, hshortest⟩ := Option.isSome_iff_exists.mp (shortest_isSome hne hsome)
  obtain ⟨-, behind, hcut, hbehind⟩ := shortest_sound hshortest
  have hlength : front.length ≤ b.length := by
    refine Nat.le_of_not_lt fun hlt => ?_
    rw [shortest_least hshortest rfl hne hlt] at hread
    cases hread
  obtain ⟨q, rfl⟩ : front <+: b := List.prefix_of_prefix_length_le ⟨behind, hcut.symm⟩
    (List.prefix_append b rest) hlength
  rw [List.append_assoc] at hcut
  obtain rfl := List.append_cancel_left hcut
  exact ⟨front, q, a', rfl, hbehind, hshortest⟩

/-- **A look at some lines finds the first that tells**, if it is in reach. -/
theorem findSome?_take_first (hbefore : ∀ l ∈ before, look l = none) (hl : look l = some a)
    (hreach : before.length < n) (rest : List (List Char)) :
    ((before ++ l :: rest).take n).findSome? look = some a := by
  obtain ⟨m, hm⟩ : ∃ m, n = before.length + (m + 1) := ⟨n - before.length - 1, by omega⟩
  rw [hm, List.take_length_add_append, List.take_succ_cons, List.findSome?_eq_some_iff]
  exact ⟨before, l, rest.take m, rfl, hl, hbefore⟩

/-- What stands in front of a word that is met once more behind it ends with the word, if there is
anything. -/
theorem exists_behind_on (h : q ++ (" on ".toList ++ Y) = " on ".toList ++ X) :
    ∃ Z, X = Z ++ Y ∧ ∀ c ∈ Z.getLast?, c = ' ' := by
  rw [← List.append_assoc] at h
  rcases List.append_eq_append_iff.mp h with ⟨Z, hon, rfl⟩ | ⟨Z, hon, rfl⟩
  · -- The word in view is the first one.
    have hlength := congrArg List.length hon
    simp only [List.length_append] at hlength
    have hq : q = [] := List.eq_nil_of_length_eq_zero (by omega)
    have hZ : Z = [] := List.eq_nil_of_length_eq_zero (by omega)
    rw [hZ]
    exact ⟨[], rfl, nofun⟩
  · refine ⟨Z, rfl, fun c hc => ?_⟩
    have hlast := congrArg List.getLast? hon
    have hZ : Z ≠ [] := by
      rintro rfl
      cases hc
    rw [List.getLast?_append_of_ne_nil _ (by decide), List.getLast?_append_of_ne_nil _ hZ] at hlast
    exact Option.some.inj (hc.symm.trans hlast.symm)

/-- A beginning without spaces, and the first space behind it. -/
theorem prefix_append_space (hq : ' ' ∉ q) (h : q ++ [' '] <+: b ++ ' ' :: X) :
    q ++ [' '] <+: b ++ [' '] := by
  obtain ⟨r, hr⟩ := h
  rw [List.append_assoc, List.singleton_append] at hr
  rcases List.append_eq_append_iff.mp hr with ⟨gap, rfl, hgap⟩ | ⟨gap, rfl, hgap⟩
  · cases gap with
    | nil => exact ⟨[], by simp⟩
    | cons c gap =>
      obtain ⟨rfl, -⟩ := List.cons.inj hgap
      exact ⟨gap ++ [' '], by simp⟩
  · cases gap with
    | nil => exact ⟨[], by simp⟩
    | cons c gap =>
      obtain ⟨rfl, -⟩ := List.cons.inj hgap
      exact absurd (List.mem_append_right b List.mem_cons_self) hq

end Text

/-! ## 2. The layouts apart -/

namespace Elixir

variable {stem path q s X : List Char} {kind rest : List Char}

/-- A character of a path. -/
def isPathChar (c : Char) : Bool := !isBlank c && c != ':'

/-- What is written of a column that was read. -/
def columnPart : Option (List Char) → List Char
  | none => []
  | some digits => ':' :: digits

/-- **A text that starts like a report on one line**: a path, a position, and then a colon and a
space. -/
def StartsLocated (s : List Char) : Prop :=
  ∃ path line column, path ≠ [] ∧ (∀ c ∈ path, isPathChar c = true) ∧ Numeral line ∧
    (∀ digits ∈ column, Numeral digits) ∧
    path ++ (':' :: (line ++ (columnPart column ++ ": ".toList))) <+: s

/-- A text does not start so if no colon ends what could be the path. -/
theorem not_startsLocated (h : (s.dropWhile isPathChar).head? ≠ some ':') : ¬ StartsLocated s := by
  rintro ⟨path, line, column, -, hchars, -, -, r, rfl⟩
  refine h ?_
  rw [List.append_assoc, List.dropWhile_append_of_pos hchars]
  rfl

/-- **A line at which no report starts**, in neither layout. -/
def IsOther (l : List Char) : Prop := inline? (trim l) = none ∧ header? (trim l) = none

instance (l : List Char) : Decidable (IsOther l) :=
  inferInstanceAs (Decidable (inline? (trim l) = none ∧ header? (trim l) = none))

theorem IsOther.finding?_eq_none {l : List Char} (h : IsOther l) (rest : List (List Char)) :
    finding? (trimRight l) rest = none := by
  rw [finding?, trim_trimRight, h.1, h.2]
  rfl

/-- The name of an error is taken off. -/
theorem kind?_append (hne : stem ≠ []) (hstem : ∀ c ∈ stem, isWord c = true) (s : List Char) :
    kind? ("** (".toList ++ (stem ++ "Error".toList ++ (") ".toList ++ s))) =
      some (stem ++ "Error".toList, s) := by
  have hword : ∀ c ∈ stem ++ "Error".toList, isWord c = true :=
    List.forall_mem_append.mpr ⟨hstem, List.all_eq_true.mp (by decide)⟩
  have hrun := run?_before (List.append_ne_nil_of_left_ne_nil hne _) hword ") " (by decide) s
  have hkind : isKind (stem ++ "Error".toList) = true := by
    have hlength := List.length_pos_iff.mpr hne
    rw [isKind, Bool.and_eq_true, decide_eq_true_eq, List.isSuffixOf_iff_suffix]
    refine ⟨?_, List.suffix_append stem _⟩
    rw [List.length_append]
    change 5 < stem.length + 5
    omega
  rw [run?] at hrun
  split at hrun
  · cases hrun
  · have hrun := Option.some.inj hrun
    simp only [kind?, afterWord_append, hrun, hkind, Option.bind_eq_bind, Option.bind_some,
      Bool.not_true, Bool.false_eq_true, if_false, Option.pure_def]

/-- What a column is read from. -/
theorem exists_columnPart (s : List Char) : ∃ column, s = columnPart column ++ (columnIn s).2 ∧
    ∀ digits ∈ column, Numeral digits := by
  unfold columnIn
  split
  · rename_i behind hcolon
    split
    · rename_i digits rest hdigits
      obtain ⟨rfl, hnumeral⟩ := numeral_of_digits? hdigits
      refine ⟨some digits, of_afterWord hcolon, ?_⟩
      intro d hd
      exact Option.some.inj hd ▸ hnumeral
    · exact ⟨none, rfl, nofun⟩
  · exact ⟨none, rfl, nofun⟩

/-- **What is read as a report on one line** starts like one behind the kind. -/
theorem startsLocated_of_inline? (hkind : kind? s = some (kind, rest))
    (h : (inline? s).isSome = true) : StartsLocated rest := by
  obtain ⟨r, hr⟩ := Option.isSome_iff_exists.mp h
  simp only [inline?, hkind, Option.bind_eq_bind, Option.bind_some, Option.bind_eq_some_iff,
    Prod.exists] at hr
  obtain ⟨path, s₁, hpath, s₂, hcolon, line, s₃, hline, s₄, hspace, -⟩ := hr
  obtain ⟨rfl, hne, hchars⟩ := of_run? hpath
  obtain rfl := of_afterWord hcolon
  obtain ⟨rfl, hnumeral⟩ := numeral_of_digits? hline
  obtain ⟨column, hcolumn, hdigits⟩ := exists_columnPart s₃
  rw [of_afterWord hspace] at hcolumn
  subst hcolumn
  refine ⟨path, line, column, hne, hchars, hnumeral, hdigits, s₄, ?_⟩
  simp only [List.append_assoc, List.cons_append]
  rfl

theorem space_notMem_columnPart {column : Option (List Char)}
    (h : ∀ digits ∈ column, Numeral digits) : ' ' ∉ columnPart column := by
  cases column with
  | none => exact List.not_mem_nil
  | some digits =>
    rw [columnPart, List.mem_cons, not_or]
    exact ⟨by decide, (h digits rfl).notMem (by decide)⟩

/-- The position that ends a header starts with a colon and holds no space. -/
theorem of_ending? {v} (h : ending? s = some v) : s.head? = some ':' ∧ ' ' ∉ s := by
  rw [ending?] at h
  simp only [Option.bind_eq_bind, Option.bind_eq_some_iff, Prod.exists] at h
  obtain ⟨s₁, hcolon, line, s₂, hline, hrest⟩ := h
  obtain ⟨rfl, hnumeral⟩ := numeral_of_digits? hline
  obtain ⟨column, hcolumn, hdigits⟩ := exists_columnPart s₂
  obtain rfl := of_afterWord hcolon
  split at hrest
  · rename_i hend
    refine ⟨rfl, ?_⟩
    rw [hcolumn, hend, List.mem_append, List.mem_append, List.mem_append, not_or, not_or, not_or]
    exact ⟨by decide, hnumeral.notMem (by decide), space_notMem_columnPart hdigits, by decide⟩
  · cases hrest

/-- Behind a part of a path, or of something with a space in it, no position ends the line. -/
theorem ending?_eq_none (hne : q ≠ []) (hq : ' ' ∈ q ∨ ':' ∉ q) (s : List Char) :
    ending? (q ++ s) = none := by
  rw [Option.eq_none_iff_forall_ne_some]
  intro v hv
  obtain ⟨hstart, hspace⟩ := of_ending? hv
  rw [List.head?_append_of_ne_nil _ hne] at hstart
  rcases hq with hq | hq
  · exact hspace (List.mem_append_left s hq)
  · exact hq (List.mem_of_head? hstart)

end Elixir

/-! ## 3. Reports as Elixir writes them -/

/-- **What stands between the first line of a report and its message**: the summary on the first
line, other lines below it, and white space in front of the message. -/
structure ReportSummary where
  text : List Char
  between : List (List Char)
  indent : List Char

/-- **A finding as Elixir writes it**: the beginning of its kind, the path, the position and the
message, and lines behind these.  The newer layout has a summary. -/
structure ReportBlock where
  /-- What stands in front of `Error` in the kind. -/
  stem : List Char
  path : List Char
  line : Position
  column : Option Position
  message : List Char
  summary : Option ReportSummary
  trailing : List (List Char)

namespace ReportSummary

/-- **Summaries that can be told**: the text is there and trimmed, and at most three lines, which
tell nothing, are in front of the message. -/
structure Sound (s : ReportSummary) : Prop where
  text : s.text ≠ []
  trimmed : trim s.text = s.text
  few : s.between.length ≤ 3
  untold : ∀ l ∈ s.between, Elixir.detail? (trimRight l) = none
  indent : ∀ c ∈ s.indent, isBlank c = true

end ReportSummary

namespace ReportBlock

def kind (b : ReportBlock) : List Char := b.stem ++ "Error".toList

/-- The path and the position, in front of something else. -/
def located (b : ReportBlock) (rest : List Char) : List Char :=
  b.path ++ (':' :: (b.line.digits ++ (columnText b.column ++ rest)))

/-- What stands behind the kind: `path:line:column: message`, or `summary on path:line:column:`. -/
def behindKind (b : ReportBlock) : List Char :=
  match b.summary with
  | none => b.located (": ".toList ++ b.message)
  | some s => s.text ++ (" on ".toList ++ b.located ":".toList)

/-- **The first line.** -/
def header (b : ReportBlock) : List Char :=
  "** (".toList ++ (b.kind ++ (") ".toList ++ b.behindKind))

/-- The line with the message, in the newer layout. -/
def detail (b : ReportBlock) (s : ReportSummary) : List Char :=
  s.indent ++ ("error: ".toList ++ b.message)

/-- The lines behind the first one. -/
def behind (b : ReportBlock) : List (List Char) :=
  match b.summary with
  | none => b.trailing
  | some s => s.between ++ b.detail s :: b.trailing

def lines (b : ReportBlock) : List (List Char) := b.header :: b.behind

/-- **What the block says.** -/
def diagnostic (b : ReportBlock) : Diagnostic :=
  ⟨b.line, b.column.getD .first, .error, String.ofList b.message, some (String.ofList b.kind)⟩

/-- The lines that belong to no report. -/
def others (b : ReportBlock) : List (List Char) :=
  match b.summary with
  | none => b.trailing
  | some s => s.between ++ b.trailing

/-- **Reports that can be told from their lines.**  The kind has word characters in front of its
end; the path holds no white space and no colon, the numbers are not too long; the message is there
and trimmed; no other line is the first one of a report. -/
structure Sound (b : ReportBlock) : Prop where
  stem : b.stem ≠ []
  word : ∀ c ∈ b.stem, isWord c = true
  plain : ∀ c ∈ b.path, Elixir.isPathChar c = true
  line : Short b.line.digits
  column : ∀ p ∈ b.column, Short p.digits
  message : b.message ≠ []
  trimmed : trim b.message = b.message
  summary : ∀ s ∈ b.summary, s.Sound
  others : ∀ l ∈ b.others, Elixir.IsOther l

/-- **Reports in one layout only**: there is a path, and the summary does not start with a path and
a position of its own. -/
structure Clear (b : ReportBlock) : Prop where
  path : b.path ≠ []
  apart : ∀ s ∈ b.summary, ¬ Elixir.StartsLocated (s.text ++ [' '])

end ReportBlock

/-! ## 4. First lines -/

namespace ReportBlock

variable {b : ReportBlock} {s : ReportSummary}

/-- **A report on one line is taken apart as it was put together.** -/
theorem inline?_header (h : b.Sound) (hpath : b.path ≠ []) (hsummary : b.summary = none) :
    Elixir.inline? b.header =
      some ⟨b.kind, b.line.digits, b.column.map Position.digits, b.message⟩ := by
  have hcolon : ∀ r, afterWord ":" (':' :: r) = some r := afterWord_append ":"
  have hrun : run? (fun c => !isBlank c && c != ':') (b.located (": ".toList ++ b.message)) =
      some (b.path,
        ':' :: (b.line.digits ++ (columnText b.column ++ (": ".toList ++ b.message)))) :=
    run?_append hpath h.plain fun c hc => Option.some.inj hc ▸ by decide
  have hline := digits?_columnText b.line b.column (": ".toList ++ b.message)
    fun c hc => Option.some.inj hc ▸ rfl
  have hcolumn := columnIn_columnText b.column (": ".toList ++ b.message)
    (fun c hc => Option.some.inj hc ▸ rfl) rfl
  have hkind := Elixir.kind?_append h.stem h.word b.behindKind
  rw [Elixir.inline?, header, kind, hkind, behindKind, hsummary]
  simp only [hrun, hcolon, hline, hcolumn, afterWord_append, nonEmpty?, if_neg h.message,
    Option.bind_eq_bind, Option.bind_some, Option.pure_def]

/-- **The first line of the newer layout** is not taken for one of the older if the summary does not
start like it. -/
theorem inline?_header_eq_none (h : b.Sound) (hclear : b.Clear) (hs : b.summary = some s) :
    Elixir.inline? b.header = none := by
  rw [← Option.not_isSome_iff_eq_none]
  intro hinline
  obtain ⟨path, line, column, hne, hchars, hline, hcolumn, hstart⟩ :=
    Elixir.startsLocated_of_inline? (Elixir.kind?_append h.stem h.word b.behindKind) hinline
  have hplain : ' ' ∉ path ++ (':' :: (line ++ (Elixir.columnPart column ++ ":".toList))) := by
    simp only [List.mem_append, List.mem_cons, not_or]
    refine ⟨fun hmem => ?_, by decide, hline.notMem (by decide),
      Elixir.space_notMem_columnPart hcolumn, by decide⟩
    exact absurd (hchars ' ' hmem) (by decide)
  have hcut : path ++ (':' :: (line ++ (Elixir.columnPart column ++ ": ".toList))) =
      path ++ (':' :: (line ++ (Elixir.columnPart column ++ ":".toList))) ++ [' '] := by
    simp only [List.append_assoc, List.cons_append]
    rfl
  refine hclear.apart s hs ⟨path, line, column, hne, hchars, hline, hcolumn, ?_⟩
  rw [behindKind, hs, hcut] at hstart
  rw [hcut]
  exact prefix_append_space hplain hstart

/-- The path and the position end the line. -/
theorem ending?_located (b : ReportBlock) :
    Elixir.ending? (':' :: (b.line.digits ++ (columnText b.column ++ ":".toList))) =
      some (b.line.digits, b.column.map Position.digits) := by
  have hcolon : ∀ r, afterWord ":" (':' :: r) = some r := afterWord_append ":"
  have hline := digits?_columnText b.line b.column ":".toList
    fun c hc => Option.some.inj hc ▸ rfl
  have hcolumn := columnIn_columnText b.column ":".toList
    (fun c hc => Option.some.inj hc ▸ rfl) rfl
  simp only [Elixir.ending?, hcolon, hline, hcolumn, Option.bind_eq_bind, Option.bind_some]
  rfl

/-- **The position of a header is read**, and the path, to which a part of the summary may be
added. -/
theorem shortest_located (h : b.Sound) (hpath : b.path ≠ []) {Z : List Char}
    (hZ : ∀ c ∈ Z.getLast?, c = ' ') :
    shortest Elixir.ending? (Z ++ b.located ":".toList) =
      some (Z ++ b.path, b.line.digits, b.column.map Position.digits) := by
  have hcolon : ':' ∉ b.path := by
    intro hmem
    exact absurd (h.plain ':' hmem) (by decide)
  rw [located, ← List.append_assoc]
  refine shortest_append (List.append_ne_nil_of_right_ne_nil Z hpath) b.ending?_located ?_
  intro before q hq _ hne
  refine Elixir.ending?_eq_none hne ?_ _
  rcases List.append_eq_append_iff.mp hq with ⟨gap, -, hgap⟩ | ⟨gap, hgap, rfl⟩
  · right
    intro hmem
    exact hcolon (hgap ▸ List.mem_append_right gap hmem)
  · by_cases hnil : gap = []
    · rw [hnil]
      exact .inr hcolon
    · left
      rw [hgap] at hZ
      have hlast := List.getLast?_eq_some_getLast hnil
      have hspace := hZ _ (by rw [List.getLast?_append_of_ne_nil _ hnil, hlast]; rfl)
      exact List.mem_append_left _ (hspace ▸ List.getLast_mem hnil)

/-- **A header is taken apart**: its kind and its position are those of the block. -/
theorem header?_header (h : b.Sound) (hpath : b.path ≠ []) (hs : b.summary = some s) :
    ∃ front, Elixir.header? b.header =
      some ⟨b.kind, b.line.digits, b.column.map Position.digits, front⟩ := by
  have hkind := Elixir.kind?_append h.stem h.word b.behindKind
  have hpart : Elixir.behindSummary? (" on ".toList ++ b.located ":".toList) =
      some (b.path, b.line.digits, b.column.map Position.digits) := by
    simp only [Elixir.behindSummary?, afterWord_append, Option.bind_eq_bind, Option.bind_some]
    exact shortest_located h hpath (Z := []) nofun
  obtain ⟨front, q, ⟨path, line, column⟩, -, hread, hshortest⟩ :=
    exists_shortest (h.summary s hs).text hpart
  -- Whichever ` on ` the reader takes for the end of the summary, the position is the one at the
  -- end of the line.
  have hposition : line = b.line.digits ∧ column = b.column.map Position.digits := by
    obtain ⟨X, hX, hlocated⟩ := Option.bind_eq_some_iff.mp hread
    obtain ⟨Z, rfl, hZ⟩ := exists_behind_on (of_afterWord hX)
    rw [shortest_located h hpath hZ] at hlocated
    obtain ⟨-, hposition⟩ := Prod.mk.inj (Option.some.inj hlocated)
    obtain ⟨rfl, rfl⟩ := Prod.mk.inj hposition
    exact ⟨rfl, rfl⟩
  obtain ⟨rfl, rfl⟩ := hposition
  refine ⟨front, ?_⟩
  rw [Elixir.header?, header, kind, hkind, behindKind, hs]
  simp only [hshortest, Option.bind_eq_bind, Option.bind_some, Option.pure_def]

/-- A first line has no white space at its ends. -/
theorem trim_header (h : b.Sound) : trim b.header = b.header := by
  refine trim_of_firm (fun c hc => Option.some.inj hc ▸ by decide) ?_
  cases hs : b.summary with
  | none =>
    have hcut : b.header = "** (".toList ++ (b.kind ++ (") ".toList ++ (b.path ++
        ':' :: (b.line.digits ++ (columnText b.column ++ ": ".toList))))) ++ b.message := by
      simp only [header, behindKind, hs, located, List.append_assoc, List.cons_append]
    rw [hcut]
    exact endsFirm_append h.message h.trimmed
  | some s =>
    have hcut : b.header = "** (".toList ++ (b.kind ++ (") ".toList ++ (s.text ++
        (" on ".toList ++ (b.path ++ ':' :: (b.line.digits ++ columnText b.column)))))) ++
          ":".toList := by
      simp only [header, behindKind, hs, located, List.append_assoc, List.cons_append]
    rw [hcut]
    exact endsFirm_append (by decide) (by decide)

/-! ## 5. The lines behind -/

/-- The line with the message has no white space at its end. -/
theorem trimRight_detail (h : b.Sound) (s : ReportSummary) :
    trimRight (b.detail s) = b.detail s := by
  rw [detail, ← List.append_assoc]
  exact trimRight_of_firm (endsFirm_append h.message h.trimmed)

theorem trimLeft_detail (h : s.Sound) (b : ReportBlock) :
    trimLeft (b.detail s) = "error: ".toList ++ b.message := by
  rw [detail, trimLeft, List.dropWhile_append_of_pos h.indent]
  exact dropWhile_eq_self fun c hc => Option.some.inj hc ▸ by decide

/-- **The message is told** on its line, whatever white space stands in front. -/
theorem detail?_detail (h : b.Sound) (hs : s.Sound) :
    Elixir.detail? (trimRight (b.detail s)) = some b.message := by
  rw [trimRight_detail h, Elixir.detail?, trimLeft_detail hs]
  simp only [afterWord_append, nonEmpty?, if_neg h.message, Option.bind_eq_bind, Option.bind_some]

/-- The line with the message is no first line. -/
theorem isOther_detail (h : b.Sound) (hs : s.Sound) : Elixir.IsOther (b.detail s) := by
  have htrim : trim (b.detail s) = "error: ".toList ++ b.message := by
    rw [trim, trimLeft_detail hs]
    exact trimRight_of_firm (endsFirm_append h.message h.trimmed)
  rw [Elixir.IsOther, htrim]
  exact ⟨rfl, rfl⟩

/-- The lines behind the first one are no first lines. -/
theorem isOther_behind (h : b.Sound) : ∀ l ∈ b.behind, Elixir.IsOther l := by
  have hothers := h.others
  intro l hl
  rw [behind] at hl
  rw [others] at hothers
  cases hsummary : b.summary with
  | none =>
    rw [hsummary] at hl hothers
    exact hothers l hl
  | some s =>
    rw [hsummary] at hl hothers
    rcases List.mem_append.mp hl with hl | hl
    · exact hothers l (List.mem_append_left _ hl)
    · rcases List.mem_cons.mp hl with rfl | hl
      · exact isOther_detail h (h.summary s hsummary)
      · exact hothers l (List.mem_append_right _ hl)

/-! ## 6. Blocks -/

/-- **What a report says**, with the message that was found. -/
theorem diagnostic_report (h : b.Sound) (message : List Char) :
    Elixir.diagnostic ⟨b.kind, b.line.digits, b.column.map Position.digits, message⟩ b.message =
      .ok b.diagnostic := by
  rw [Elixir.diagnostic, Position.ofDigits_digits h.line, Position.ofDigits?_digits h.column]
  dsimp only
  rw [h.trimmed]
  rfl

/-- **The finding of a report is found at its first line**, in either layout. -/
theorem finding?_header (h : b.Sound) (hclear : b.Clear) (rest : List (List Char)) :
    Elixir.finding? (trimRight b.header) (b.behind.map trimRight ++ rest) =
      some (.ok b.diagnostic) := by
  rw [Elixir.finding?, trim_trimRight, trim_header h]
  cases hs : b.summary with
  | none =>
    rw [inline?_header h hclear.path hs]
    dsimp only
    rw [diagnostic_report h]
  | some s =>
    obtain ⟨front, hfront⟩ := header?_header h hclear.path hs
    have hsound := h.summary s hs
    have hbefore : ∀ l ∈ s.between.map trimRight, Elixir.detail? l = none :=
      List.forall_mem_map.mpr hsound.untold
    have hreach : (s.between.map trimRight).length < Elixir.lookahead := by
      rw [List.length_map, Elixir.lookahead]
      exact Nat.lt_succ_of_le hsound.few
    have htold := findSome?_take_first hbefore (detail?_detail h hsound) hreach
      (b.trailing.map trimRight ++ rest)
    rw [inline?_header_eq_none h hclear hs, hfront, behind, hs]
    simp only [List.map_append, List.map_cons, List.append_assoc, List.cons_append, htold,
      Option.getD_some, Option.map_some, diagnostic_report h]

/-- **The lines of some reports come to their findings**, in order. -/
theorem findings_blocks {blocks : List ReportBlock} (h : ∀ b ∈ blocks, b.Sound ∧ b.Clear) :
    Elixir.findings ((blocks.flatMap lines).map trimRight) = .ok (blocks.map diagnostic) := by
  rw [List.map_flatMap]
  refine Elixir.looksAhead.findings_blocks (fun b hb rest => ?_) fun b hb => ?_
  · obtain ⟨hsound, hclear⟩ := h b hb
    exact finding?_header hsound hclear rest
  · exact List.forall_mem_map.mpr fun l hl => (isOther_behind (h b hb).1 l hl).finding?_eq_none

end ReportBlock

end SourceCheck

import SourceCheck.Proofs.Builtin.Reading
import SourceCheck.Proofs.Output.TypeScriptBlocks
import SourceCheck.Proofs.Output.Written

/-!
# Readers that go line by line

The readers for compiler lines, for Go vet and for the Lua compiler look at one line at a time.  So
output that is put together from two texts with a line feed between them has the findings of the one
and then those of the other, whatever the texts end with: a line feed behind a carriage return ends
the same line, and one behind any other break adds an empty line, in which nothing is found.  In the
same way the streams of a tool are read one after the other.

* `lines_joined`: the lines of two texts with a line feed between them.
* `byLines`, `byLines_joined`: readers that go line by line, and what they make of such texts.
* `Builtin.Linewise`: a language whose reader goes line by line through some streams.
* `Builtin.linewise_readers`: the five languages of which that is true.
-/

namespace SourceCheck

open Text

/-! ## 1. Lines of two texts -/

namespace Text

variable {s l : List Char}

/-- A text that is not empty has lines. -/
theorem lines_ne_nil (h : s ≠ []) : lines s ≠ [] := by
  fun_cases lines s with
  | case1 => exact absurd rfl h
  | case2 => exact List.cons_ne_nil _ _
  | case3 => exact List.cons_ne_nil _ _
  | case4 c cs =>
    cases lines cs with
    | nil => exact List.cons_ne_nil _ _
    | cons l ls => exact List.cons_ne_nil _ _

/-- A break that is no carriage return in front of a line feed ends a line by itself. -/
theorem lines_cons_of_break {c : Char} (hc : isLineBreak c = true)
    (h : ¬ (c = '\r' ∧ s.head? = some '\n')) : lines (c :: s) = [] :: lines s := by
  rw [lines.eq_def]
  split
  · contradiction
  · rename_i heq
    obtain ⟨rfl, rfl⟩ := List.cons.inj heq
    exact absurd ⟨rfl, rfl⟩ h
  · rename_i heq
    obtain ⟨rfl, rfl⟩ := List.cons.inj heq
    rw [if_pos hc]

theorem lines_feed (s : List Char) : lines ('\n' :: s) = [] :: lines s :=
  lines_cons_of_break rfl (by simp)

theorem lines_return_feed (s : List Char) : lines ('\r' :: '\n' :: s) = [] :: lines s := rfl

theorem consFirst_append {ls : List (List Char)} (h : ls ≠ []) (c : Char) (ls' : List (List Char)) :
    consFirst c (ls ++ ls') = consFirst c ls ++ ls' := by
  cases ls with
  | nil => exact absurd rfl h
  | cons l ls => rfl

/-- **Two texts with a line feed between them** have the lines of the one and those of the other,
with an empty line between them if the first is empty or ends with a break of its own. -/
theorem lines_joined (x y : List Char) :
    lines (x ++ '\n' :: y) = lines x ++ lines y ∨
      lines (x ++ '\n' :: y) = lines x ++ [] :: lines y := by
  fun_induction lines x with
  | case1 => exact .inr (lines_feed y)
  | case2 cs ih =>
    rw [List.cons_append, List.cons_append, lines_return_feed, List.cons_append, List.cons_append]
    exact ih.imp (congrArg _) (congrArg _)
  | case3 c cs hpair hbreak ih =>
    by_cases hreturn : c = '\r' ∧ cs = []
    · -- the carriage return and the line feed are one break
      obtain ⟨rfl, rfl⟩ := hreturn
      exact .inl (lines_return_feed y)
    · have hhead : ¬ (c = '\r' ∧ (cs ++ '\n' :: y).head? = some '\n') := by
        rintro ⟨rfl, hfeed⟩
        cases cs with
        | nil => exact hreturn ⟨rfl, rfl⟩
        | cons d cs => exact hpair cs rfl (by rw [Option.some.inj hfeed])
      rw [List.cons_append, lines_cons_of_break hbreak hhead, List.cons_append, List.cons_append]
      exact ih.imp (congrArg _) (congrArg _)
  | case4 c cs hpair hbreak ih =>
    rw [List.cons_append, lines_cons_of_not_break (Bool.eq_false_iff.mpr hbreak)]
    by_cases hcs : cs = []
    · subst hcs
      left
      rw [List.nil_append, lines_feed]
      rfl
    · have hne := lines_ne_nil hcs
      rw [← consFirst_append hne, ← consFirst_append hne]
      exact ih.imp (congrArg _) (congrArg _)

/-- The first line is in front of its text. -/
theorem prefix_of_head?_lines : ∀ l ∈ (lines s).head?, l <+: s := by
  fun_induction lines s with
  | case1 =>
    intro l hl
    cases hl
  | case2 => exact fun l hl => Option.some.inj hl ▸ List.nil_prefix
  | case3 => exact fun l hl => Option.some.inj hl ▸ List.nil_prefix
  | case4 c cs _ _ ih =>
    cases hcs : lines cs with
    | nil => exact fun l hl => Option.some.inj hl ▸ ⟨cs, rfl⟩
    | cons first rest =>
      have hfirst : first <+: cs := ih first (by rw [hcs]; rfl)
      intro l hl
      rw [← Option.some.inj hl, List.prefix_cons_inj]
      exact hfirst

/-- **A line is a part of its text.** -/
theorem infix_of_mem_lines (h : l ∈ lines s) : l <:+: s := by
  fun_induction lines s generalizing l with
  | case1 => cases h
  | case2 cs ih =>
    rcases List.mem_cons.mp h with rfl | h
    · exact List.nil_infix
    · exact (ih h).trans (List.suffix_append ['\r', '\n'] cs).isInfix
  | case3 c cs _ _ ih =>
    rcases List.mem_cons.mp h with rfl | h
    · exact List.nil_infix
    · exact (ih h).trans (List.suffix_cons c cs).isInfix
  | case4 c cs _ _ ih =>
    cases hcs : lines cs with
    | nil =>
      rw [hcs, consFirst, List.mem_singleton] at h
      exact h ▸ (List.prefix_append [c] cs).isInfix
    | cons first rest =>
      rw [hcs, consFirst, List.mem_cons] at h
      rcases h with rfl | h
      · have hfirst : first <+: cs := prefix_of_head?_lines first (by rw [hcs]; rfl)
        exact ((List.prefix_cons_inj c).mpr hfirst).isInfix
      · refine (ih ?_).trans (List.suffix_cons c cs).isInfix
        rw [hcs]
        exact List.mem_cons_of_mem first h

end Text

/-! ## 2. Readers that go line by line -/

variable {α : Type} {find : List Char → Option α} {read : α → Except Fault Diagnostic}

/-- **A reader that goes line by line**: it finds something in a line or passes it over, and reads
what it finds. -/
def byLines (find : List Char → Option α) (read : α → Except Fault Diagnostic)
    (streams : List String) : Except Fault (List Diagnostic) :=
  ((outputLines streams).filterMap find).mapM read

/-- **The findings of one text and then those of another.** -/
def followedBy (first second : Except Fault (List Diagnostic)) :
    Except Fault (List Diagnostic) := do
  let xs ← first
  let ys ← second
  return xs ++ ys

theorem followedBy_nil (first : Except Fault (List Diagnostic)) :
    followedBy first (.ok []) = first := by
  cases first with
  | ok xs => exact congrArg Except.ok (List.append_nil xs)
  | error e => rfl

theorem byLines_append (streams streams' : List String) :
    byLines find read (streams ++ streams') =
      followedBy (byLines find read streams) (byLines find read streams') := by
  rw [byLines, outputLines_append, List.filterMap_append, List.mapM_append]
  rfl

theorem outputLines_singleton (s : String) : outputLines [s] = (lines s.toList).map trimRight := by
  rw [outputLines, List.flatMap_cons, List.flatMap_nil, List.append_nil]

/-- **Two texts with a line feed between them have the findings of the one and of the other.** -/
theorem byLines_joined (hnone : find [] = none) (x y : String) :
    byLines find read [x ++ "\n" ++ y] =
      followedBy (byLines find read [x]) (byLines find read [y]) := by
  have htext : (x ++ "\n" ++ y).toList = x.toList ++ '\n' :: y.toList := by
    rw [String.toList_append, String.toList_append, List.append_assoc]
    rfl
  have hfound : (outputLines [x ++ "\n" ++ y]).filterMap find =
      (outputLines [x]).filterMap find ++ (outputLines [y]).filterMap find := by
    simp only [outputLines_singleton, htext]
    rcases lines_joined x.toList y.toList with h | h
    · rw [h, List.map_append, List.filterMap_append]
    · rw [h, List.map_append, List.filterMap_append, List.map_cons,
        List.filterMap_cons_none (by rw [← hnone]; rfl)]
  rw [byLines, hfound, List.mapM_append]
  rfl

/-! ## 3. Numbers on a line -/

/-- The digits that are taken off a text with short numbers, and what is left. -/
theorem RunsShort.of_digits? {s ds r : List Char} (h : RunsShort isDecimal s)
    (hs : digits? s = some (ds, r)) : Short ds ∧ RunsShort isDecimal r := by
  obtain ⟨rfl, hds⟩ := numeral_of_digits? hs
  exact ⟨h ds (List.prefix_append ds r).isInfix hds.2, h.mono (List.suffix_append ds r).isInfix⟩

theorem RunsShort.behind_word {lit : String} {s r : List Char} (h : RunsShort isDecimal s)
    (hs : afterWord lit s = some r) : RunsShort isDecimal r := by
  obtain rfl := of_afterWord hs
  exact h.mono (List.suffix_append _ r).isInfix

theorem CompilerLine.short_numerals {s : List Char} {l : CompilerLine}
    (h : RunsShort isDecimal s) (hs : CompilerLine.ofLine? s = some l) :
    ∀ n ∈ l.numerals, Short n := by
  rw [ofLine?, Option.map_eq_some_iff] at hs
  obtain ⟨⟨path, line, column, severity, code, message⟩, hshortest, rfl⟩ := hs
  obtain ⟨-, rest, rfl, hrest⟩ := shortest_sound hshortest
  rw [behindPath?] at hrest
  simp only [Option.bind_eq_bind, Option.bind_eq_some_iff, Prod.exists, Option.pure_def,
    Option.some.injEq, Prod.mk.injEq] at hrest
  obtain ⟨s₁, hfirst, _, s₂, hline, s₃, hsecond, _, s₄, hcolumn, _, _, _, _, _, _, _, _, _,
    rfl, rfl, -⟩ := hrest
  have hrest : RunsShort isDecimal rest := h.mono (List.suffix_append path rest).isInfix
  obtain ⟨hshort, hbehind⟩ := (hrest.behind_word hfirst).of_digits? hline
  obtain ⟨hshort', -⟩ := (hbehind.behind_word hsecond).of_digits? hcolumn
  exact List.forall_mem_cons.mpr ⟨hshort, List.forall_mem_singleton.mpr hshort'⟩

theorem short_columnIn {s : List Char} (h : RunsShort isDecimal s) :
    ∀ ds ∈ (columnIn s).1.toList, Short ds := by
  rw [columnIn]
  split
  · rename_i rest hrest
    split
    · rename_i ds r hds
      simpa using ((h.behind_word hrest).of_digits? hds).1
    · simp
  · simp

namespace GoVetLine

/-- A line without the name of the tool in front. -/
def unprefixed (s : List Char) : List Char := (afterWord "vet: " s).getD s

/-- The line, the column and the message behind the path. -/
def behindPath? (s : List Char) : Option (List Char × Option (List Char) × List Char) := do
  let s ← afterWord ":" s
  let (line, s) ← digits? s
  let s' ← afterWord ": " (columnIn s).2
  let message ← nonEmpty? s'
  return (line, (columnIn s).1, message)

/-- **A line is taken apart at its first colon.** -/
theorem ofLine?_eq (s : List Char) :
    ofLine? s =
      if isPath ((unprefixed s).takeWhile (· != ':')) then
        (behindPath? ((unprefixed s).dropWhile (· != ':'))).map fun (line, column, message) =>
          ⟨(unprefixed s).takeWhile (· != ':'), line, column, message⟩
      else none := by
  rw [ofLine?, ← unprefixed]
  generalize unprefixed s = t
  simp only [run, behindPath?]
  by_cases hpath : isPath (t.takeWhile (· != ':')) = true
  · simp only [hpath, Bool.not_true, Bool.false_eq_true, if_false, if_true, Option.pure_def,
      Option.bind_eq_bind, Option.map_bind, Function.comp_def, Option.map_some]
  · simp [hpath]

theorem short_numerals {s : List Char} {l : GoVetLine}
    (h : RunsShort isDecimal s) (hs : GoVetLine.ofLine? s = some l) :
    ∀ n ∈ l.numerals, Short n := by
  rw [ofLine?_eq] at hs
  split at hs
  · rw [Option.map_eq_some_iff] at hs
    obtain ⟨⟨line, column, message⟩, hbehind, rfl⟩ := hs
    have hsuffix : (unprefixed s).dropWhile (· != ':') <:+ s := by
      refine (List.dropWhile_suffix _).trans ?_
      rw [unprefixed]
      cases hword : afterWord "vet: " s with
      | none => exact List.suffix_rfl
      | some r => exact ⟨"vet: ".toList, (of_afterWord hword).symm⟩
    have hrest := h.mono hsuffix.isInfix
    rw [behindPath?] at hbehind
    simp only [Option.bind_eq_bind, Option.bind_eq_some_iff, Prod.exists, Option.pure_def,
      Option.some.injEq, Prod.mk.injEq] at hbehind
    obtain ⟨s₁, hfirst, _, s₂, hline, _, -, _, -, rfl, rfl, -⟩ := hbehind
    obtain ⟨hshort, hrest⟩ := (hrest.behind_word hfirst).of_digits? hline
    exact List.forall_mem_cons.mpr ⟨hshort, short_columnIn hrest⟩
  · cases hs

end GoVetLine

theorem Luac.short_located {s : List Char} {l : Luac.LuacLine} (h : RunsShort isDecimal s)
    (hs : Luac.located? s = some l) : ∀ n ∈ l.numerals, Short n := by
  rw [located?, Option.map_eq_some_iff] at hs
  obtain ⟨⟨path, line, message⟩, hshortest, rfl⟩ := hs
  obtain ⟨-, rest, rfl, hrest⟩ := shortest_sound hshortest
  rw [behindPath?] at hrest
  simp only [Option.bind_eq_bind, Option.bind_eq_some_iff, Prod.exists, Option.pure_def,
    Option.some.injEq, Prod.mk.injEq] at hrest
  obtain ⟨s₁, hfirst, _, s₂, hline, _, _, _, _, rfl, -⟩ := hrest
  have hrest : RunsShort isDecimal rest := h.mono (List.suffix_append path rest).isInfix
  exact List.forall_mem_singleton.mpr ((hrest.behind_word hfirst).of_digits? hline).1

theorem Luac.behindProgram?_suffix {s rest : List Char} (h : Luac.behindProgram? s = some rest) :
    rest <:+ s := by
  have hs : (run (fun c => !isBlank c) s).2 <:+ s := List.dropWhile_suffix _
  rw [behindProgram?] at h
  generalize run (fun c => !isBlank c) s = p at h hs
  obtain ⟨word, behind⟩ := p
  dsimp only at h hs
  split at h
  · split at h
    · cases h
      exact (List.suffix_cons ' ' rest).trans hs
    · cases h
  · cases h

theorem Luac.short_numerals {s : List Char} {l : Luac.LuacLine}
    (h : RunsShort isDecimal s) (hs : Luac.ofLine? s = some l) : ∀ n ∈ l.numerals, Short n := by
  rw [ofLine?] at hs
  split at hs
  · rename_i found hfound
    obtain ⟨rest, hrest, hlocated⟩ := Option.bind_eq_some_iff.mp hfound
    cases hs
    exact short_located (h.mono (behindProgram?_suffix hrest).isInfix) hlocated
  · exact short_located h hs

/-- The numbers that a reader finds in lines with short numbers are short. -/
theorem forall_short {numerals : α → List (List Char)}
    (hfind : ∀ l a, RunsShort isDecimal l → find l = some a → ∀ n ∈ numerals a, Short n)
    {streams : List String} (h : ∀ s ∈ streams, RunsShort isDecimal s.toList) :
    ∀ n ∈ ((outputLines streams).filterMap find).flatMap numerals, Short n := by
  intro n hn
  obtain ⟨a, ha, hn⟩ := List.mem_flatMap.mp hn
  obtain ⟨l, hl, hfound⟩ := List.mem_filterMap.mp ha
  obtain ⟨s, hs, hl⟩ := List.mem_flatMap.mp hl
  obtain ⟨line, hline, rfl⟩ := List.mem_map.mp hl
  have hpart : trimRight line <:+: s.toList :=
    (begins_trimRight line).isInfix.trans (infix_of_mem_lines hline)
  exact hfind _ a ((h s hs).mono hpart) hfound n hn

/-! ## 4. Languages whose readers go line by line -/

/-- A stream of a tool. -/
inductive Stream
  | stdout
  | stderr
  deriving DecidableEq, Repr

/-- What a tool has written to a stream. -/
def ToolOutput.on (o : ToolOutput) : Stream → String
  | .stdout => o.stdout
  | .stderr => o.stderr

/-- **Output on one stream alone**, with nothing on the other. -/
def ToolOutput.only (stream : Stream) (text : String) (file root : Path) : ToolOutput :=
  match stream with
  | .stdout => ⟨text, "", file, root⟩
  | .stderr => ⟨"", text, file, root⟩

/-- **The findings of some readings, one after the other.** -/
def inOrder : List (Except Fault (List Diagnostic)) → Except Fault (List Diagnostic)
  | [] => .ok []
  | r :: rs => followedBy r (inOrder rs)

theorem inOrder_pair (r r' : Except Fault (List Diagnostic)) :
    inOrder [r, r'] = followedBy r r' :=
  congrArg (followedBy r) (followedBy_nil r')

theorem byLines_eq_inOrder (streams : List String) :
    byLines find read streams = inOrder (streams.map fun s => byLines find read [s]) := by
  induction streams with
  | nil => rfl
  | cons s streams ih =>
    rw [List.map_cons, inOrder, ← ih]
    exact byLines_append [s] streams

section

variable {stream : Stream} {text : String} {file root : Path}

theorem ToolOutput.on_only_self : (only stream text file root).on stream = text := by
  cases stream <;> rfl

theorem ToolOutput.on_only_of_ne {s : Stream} (h : s ≠ stream) :
    (only stream text file root).on s = "" := by
  cases s with
  | stdout =>
    cases stream with
    | stdout => exact absurd rfl h
    | stderr => rfl
  | stderr =>
    cases stream with
    | stdout => rfl
    | stderr => exact absurd rfl h

/-- The lines of output on one stream alone, if each stream is read at most once. -/
theorem outputLines_only {streams : List Stream} (hnodup : streams.Nodup) :
    outputLines (streams.map (ToolOutput.only stream text file root).on) =
      if stream ∈ streams then outputLines [text] else [] := by
  induction streams with
  | nil => rfl
  | cons s streams ih =>
    obtain ⟨hs, hnodup⟩ := List.nodup_cons.mp hnodup
    rw [List.map_cons, ← List.singleton_append, outputLines_append, ih hnodup]
    by_cases hself : s = stream
    · subst hself
      rw [ToolOutput.on_only_self, if_neg hs, if_pos List.mem_cons_self, List.append_nil]
    · have hmem : stream ∈ s :: streams ↔ stream ∈ streams := by
        rw [List.mem_cons, or_iff_right (Ne.symm hself)]
      rw [ToolOutput.on_only_of_ne hself]
      simp only [hmem]
      rfl

end

namespace Builtin

open Output

/-- **A language whose reader goes line by line through some streams**: a line feed between two
texts puts their findings one after the other, the streams are read one after the other, and every
output with short numbers is read. -/
structure Linewise (b : Builtin) (streams : List Stream) : Prop where
  joined : ∀ (m : Machine) (file root : Path), ∀ stream ∈ streams, ∀ x y : String,
    b.diagnostics m (.only stream (x ++ "\n" ++ y) file root) =
      followedBy (b.diagnostics m (.only stream x file root))
        (b.diagnostics m (.only stream y file root))
  ordered : ∀ (m : Machine) (o : ToolOutput),
    b.diagnostics m o = inOrder (streams.map fun stream =>
      b.diagnostics m (.only stream (o.on stream) o.file o.root))
  returns : ∀ (m : Machine) (o : ToolOutput),
    (∀ stream ∈ streams, RunsShort isDecimal (o.on stream).toList) →
      ∃ ds, b.diagnostics m o = .ok ds

/-- **A reader of lines through some streams**, each at most once. -/
theorem linewise_of_byLines {b : Builtin} {streams : List Stream} {numerals : α → List (List Char)}
    (hnodup : streams.Nodup)
    (hread : ∀ m o, b.diagnostics m o = byLines find read (streams.map o.on))
    (hnone : find [] = none)
    (hnumerals : ∀ a, Returns (read a) ↔ ∀ n ∈ numerals a, Short n)
    (hshort : ∀ l a, RunsShort isDecimal l → find l = some a → ∀ n ∈ numerals a, Short n) :
    Linewise b streams := by
  have honly : ∀ m file root, ∀ stream ∈ streams, ∀ text,
      b.diagnostics m (.only stream text file root) = byLines find read [text] := by
    intro m file root stream hstream text
    rw [hread, byLines, outputLines_only hnodup, if_pos hstream, byLines]
  refine ⟨fun m file root stream hstream x y => ?_, fun m o => ?_, fun m o h => ?_⟩
  · rw [honly m file root stream hstream, honly m file root stream hstream,
      honly m file root stream hstream, byLines_joined hnone]
  · rw [hread, byLines_eq_inOrder, List.map_map]
    refine congrArg inOrder (List.map_congr_left fun stream hstream => ?_)
    rw [honly m o.file o.root stream hstream]
    rfl
  · rw [hread]
    refine (returns_eachLine hnumerals _).mpr (forall_short hshort fun s hs => ?_)
    obtain ⟨stream, hstream, rfl⟩ := List.mem_map.mp hs
    exact h stream hstream

/-- **Five languages have readers that go line by line**: three of them through what a tool prints
and then through its errors, that for Lua the other way round, and that for Zig through the errors
alone. -/
theorem linewise_readers :
    Linewise .cpp [.stdout, .stderr] ∧ Linewise .rust [.stdout, .stderr] ∧
      Linewise .go [.stdout, .stderr] ∧ Linewise .lua [.stderr, .stdout] ∧
      Linewise .zig [.stderr] := by
  have hcompiler : ∀ l a, RunsShort isDecimal l → CompilerLine.ofLine? (trim l) = some a →
      ∀ n ∈ a.numerals, Short n :=
    fun l a h => CompilerLine.short_numerals h.trim
  refine ⟨?_, ?_, ?_, ?_, ?_⟩
  · exact linewise_of_byLines (by decide) (fun _ _ => rfl) rfl CompilerLine.returns_diagnostic
      hcompiler
  · exact linewise_of_byLines (by decide) (fun _ _ => rfl) rfl CompilerLine.returns_diagnostic
      hcompiler
  · refine linewise_of_byLines (by decide) (fun _ _ => rfl) rfl GoVetLine.returns_diagnostic ?_
    intro l a h hl
    dsimp only at hl
    split at hl
    · cases hl
    · exact GoVetLine.short_numerals h.trim hl
  · refine linewise_of_byLines (by decide) (fun _ _ => rfl) rfl Luac.LuacLine.returns_diagnostic ?_
    exact fun l a h => Luac.short_numerals h.trim
  · exact linewise_of_byLines (by decide) (fun _ _ => rfl) rfl CompilerLine.returns_diagnostic
      hcompiler

/-- A finding whose line ends with a carriage return. -/
def returnText : String := "luac: a.lua:3: near x\x0d"

/-- A finding behind an empty line. -/
def feedText : String := "\nb.lua:4: near y"

/-- What the two findings say. -/
def nearX : Diagnostic := ⟨.ofNat 3, .first, .error, "near x", none⟩

def nearY : Diagnostic := ⟨.ofNat 4, .first, .error, "near y", none⟩

/-- Both findings, each on a stream of its own. -/
def bothStreams : ToolOutput := ⟨feedText, returnText, checkedFile, projectRoot⟩

theorem linewise_readers_lua :
    Stream.stdout ∈ [Stream.stderr, .stdout] ∧
    (∀ stream ∈ [Stream.stderr, .stdout], RunsShort isDecimal (bothStreams.on stream).toList) ∧
    lua.diagnostics bareMachine
        (.only .stdout (returnText ++ "\n" ++ feedText) checkedFile projectRoot) =
      .ok [nearX, nearY] ∧
    lua.diagnostics bareMachine bothStreams = .ok [nearX, nearY] ∧
    ∃ ds, lua.diagnostics bareMachine bothStreams = .ok ds := by
  have hstream : Stream.stdout ∈ [Stream.stderr, .stdout] := by decide
  have hshort : ∀ stream ∈ [Stream.stderr, .stdout],
      RunsShort isDecimal (bothStreams.on stream).toList := by
    rw [List.forall_mem_cons, List.forall_mem_singleton]
    exact ⟨runsShort_of_short (by decide +kernel) _, runsShort_of_short (by decide +kernel) _⟩
  have hreturn : ∀ stream, lua.diagnostics bareMachine
      (.only stream returnText checkedFile projectRoot) = .ok [nearX] := by
    rintro (_ | _) <;> decide +kernel
  have hfeed : lua.diagnostics bareMachine (.only .stdout feedText checkedFile projectRoot) =
      .ok [nearY] := by
    decide +kernel
  obtain ⟨-, -, -, hlua, -⟩ := linewise_readers
  refine ⟨hstream, hshort, ?_, ?_, hlua.returns _ _ hshort⟩
  · rw [hlua.joined _ _ _ _ hstream, hreturn, hfeed]
    rfl
  · rw [hlua.ordered]
    exact (inOrder_pair _ _).trans (congrArg₂ followedBy (hreturn .stderr) hfeed)

end Builtin

end SourceCheck

import SourceCheck.Proofs.Output.LineFormat

/-!
# Lines of the Lua compiler that are read back

The Lua compiler puts its name in front of a path, a line number and a message.  A path may have
colons, and the name may be a path with spaces: then the reader takes both for the path.  Either way
the line number and the message are those of the line, for a path without a colon and a space in a
row holds no line number, and a name has no colon at all.

* `Luac.Unlocated`, `Luac.located?_eq`: texts without a line number, and where a path ends.
* `Luac.behindProgram?_append`, `Luac.behindProgram?_path`, `Luac.behindProgram?_blank`: which name
  is taken off.
* `LuacFinding`, `LuacFinding.Sound`: findings as the Lua compiler writes them.
* `LuacFinding.format`: how it writes them.
-/

namespace SourceCheck

open Text

/-! ## 1. Line numbers -/

namespace Luac

variable {s q r L M P D name : List Char}

/-- What can be read behind a path starts with a line number. -/
theorem exists_line {v} (h : behindPath? s = some v) :
    ∃ ds r, Numeral ds ∧ s = ':' :: (ds ++ ':' :: ' ' :: r) := by
  rw [behindPath?] at h
  simp only [Option.bind_eq_bind, Option.bind_eq_some_iff, Prod.exists] at h
  obtain ⟨s₁, hfirst, ds, s₂, hline, s₃, hsecond, -⟩ := h
  obtain ⟨rfl, hds⟩ := numeral_of_digits? hline
  obtain rfl := of_afterWord hfirst
  obtain rfl := of_afterWord hsecond
  exact ⟨ds, s₃, hds, rfl⟩

/-- **A text without a line number** between colons and in front of a space. -/
def Unlocated (s : List Char) : Prop := ∀ ds, Numeral ds → ¬ (':' :: (ds ++ [':', ' '])) <:+: s

theorem Unlocated.of_suffix (h : Unlocated s) (hq : q <:+ s) : Unlocated q :=
  fun ds hds hinner => h ds hds (hinner.trans hq.isInfix)

theorem unlocated_of_plain (h : ¬ [':', ' '] <:+: s) : Unlocated s :=
  fun ds _ hinner => h ((List.suffix_append (':' :: ds) [':', ' ']).isInfix.trans hinner)

/-- A name without colons in front of such a text makes no difference. -/
theorem Unlocated.behind (hD : ':' ∉ D) (h : Unlocated P) : Unlocated (D ++ ':' :: ' ' :: P) := by
  rintro ds hds ⟨a, b, heq⟩
  simp only [List.append_assoc, List.cons_append, List.nil_append] at heq
  rcases cut_at_colon hD heq with ⟨-, hspace⟩ | ⟨v, -, hP⟩
  · exact hds.append_ne_space hspace
  · cases v with
    | nil => exact absurd (List.cons.inj hP).1 (by decide)
    | cons c v =>
      obtain ⟨-, rfl⟩ := List.cons.inj hP
      exact h ds hds ⟨v, b, by simp⟩

/-- Behind a part of such a text, only what stands behind the whole can be read. -/
theorem behindPath?_eq_none (hq : q ≠ []) (h : Unlocated q) (hL : Numeral L) (X : List Char) :
    behindPath? (q ++ ':' :: (L ++ X)) = none := by
  rw [Option.eq_none_iff_forall_ne_some]
  intro v hv
  obtain ⟨ds, r, hds, heq⟩ := exists_line hv
  obtain ⟨c, q, rfl⟩ := List.exists_cons_of_ne_nil hq
  obtain ⟨rfl, htail⟩ := List.cons.inj heq
  rcases cut_at_colon (hds.notMem (by decide)) htail with ⟨-, hspace⟩ | ⟨v, rfl, hspace⟩
  · exact hL.append_ne_space hspace
  · cases v with
    | nil => exact absurd (List.cons.inj hspace).1 (by decide)
    | cons c v =>
      obtain ⟨rfl, -⟩ := List.cons.inj hspace
      exact h ds hds ⟨[], v, by simp⟩

/-- **A path without a line number in it is told from what follows.** -/
theorem located?_eq (hP : P ≠ []) (h : Unlocated P) (hL : Numeral L) (hM : M ≠ []) :
    located? (P ++ ':' :: (L ++ (": ".toList ++ M))) = some ⟨P, L, M⟩ := by
  have hcolon : ∀ r, afterWord ":" (':' :: r) = some r := afterWord_append ":"
  have hread : behindPath? (':' :: (L ++ (": ".toList ++ M))) = some (L, M) := by
    rw [behindPath?]
    simp only [hcolon, digits?_before hL ": " (by decide), afterWord_append, nonEmpty?, if_neg hM,
      Option.bind_eq_bind, Option.bind_some, Option.pure_def]
  have hsplit := shortest_append hP hread fun b q hb _ hq =>
    behindPath?_eq_none hq (h.of_suffix ⟨b, hb.symm⟩) hL _
  rw [located?, hsplit]
  rfl

/-! ## 2. The name of the program -/

/-- The characters of a version. -/
def isVersionChar (c : Char) : Bool := isDecimal c || c == '.'

/-- A word without its version. -/
theorem isVersioned_append {a v : List Char} (hv : ∀ c ∈ v, isVersionChar c = true)
    (ha : ∀ c ∈ a.getLast?, isVersionChar c = false) :
    isVersioned (a ++ v) = "luac".toList.isSuffixOf a := by
  have hstem : ((a ++ v).reverse.dropWhile isVersionChar).reverse = a := by
    rw [List.reverse_append,
      List.dropWhile_append_of_pos fun c hc => hv c (List.mem_reverse.mp hc), dropWhile_eq_self,
      List.reverse_reverse]
    intro c hc
    rw [List.head?_reverse] at hc
    exact ha c hc
  exact congrArg (fun stem => "luac".toList.isSuffixOf stem) hstem

/-- What a text ends with ends with its last character. -/
theorem getLast?_of_isSuffixOf {w : List Char} (hw : w ≠ []) (h : w.isSuffixOf s = true) :
    s.getLast? = w.getLast? := by
  obtain ⟨t, rfl⟩ := List.isSuffixOf_iff_suffix.mp h
  exact List.getLast?_append_of_ne_nil t hw

/-- A word that ends with a line number is no name of the program. -/
theorem isProgram_located (hL : Numeral L) (s : List Char) : isProgram (s ++ ':' :: L) = false := by
  have hversioned : isVersioned (s ++ ':' :: L) = false := by
    have hlast : (s ++ [':']).getLast? = some ':' := List.getLast?_concat
    have hchars : ∀ c ∈ L, isVersionChar c = true := fun c hc => by
      rw [isVersionChar, hL.2 c hc, Bool.true_or]
    have hcolon : ∀ c ∈ (s ++ [':']).getLast?, isVersionChar c = false :=
      fun c hc => Option.some.inj (hlast.symm.trans hc) ▸ by decide
    have hsplit : s ++ ':' :: L = s ++ [':'] ++ L := by simp
    rw [hsplit, isVersioned_append hchars hcolon, Bool.eq_false_iff]
    intro hsuffix
    rw [getLast?_of_isSuffixOf (by decide) hsuffix] at hlast
    exact absurd hlast (by decide)
  have hexe : ".exe".toList.isSuffixOf (s ++ ':' :: L) = false := by
    rw [Bool.eq_false_iff]
    intro hsuffix
    have hlast := getLast?_of_isSuffixOf (by decide) hsuffix
    rw [← List.singleton_append, ← List.append_assoc,
      List.getLast?_append_of_ne_nil _ hL.1] at hlast
    exact absurd (hL.2 'e' (List.mem_of_getLast? hlast)) (by decide)
  rw [isProgram, hversioned, hexe]
  rfl

/-- What stands behind the name of the program. -/
theorem of_behindProgram? (h : behindProgram? s = some r) :
    ∃ name, s = name ++ ':' :: ' ' :: r ∧ isProgram name = true ∧
      ∀ c ∈ name, isBlank c = false := by
  have hs := run_append (fun c => !isBlank c) s
  have hword : ∀ c ∈ (run (fun c => !isBlank c) s).1, isBlank c = false := by
    intro c hc
    simpa using List.mem_takeWhile_imp (p := fun c => !isBlank c) hc
  rw [behindProgram?] at h
  generalize run (fun c => !isBlank c) s = p at h hs hword
  obtain ⟨word, rest⟩ := p
  dsimp only at h hs hword
  split at h
  · rename_i name rest' hname
    split at h
    · rename_i hprogram
      cases h
      have hsplit : word = name.reverse ++ [':'] := by
        rw [← List.reverse_reverse word, hname, List.reverse_cons]
      subst hsplit
      refine ⟨name.reverse, ?_, hprogram, fun c hc => hword c (List.mem_append_left _ hc)⟩
      rw [← hs, List.append_assoc]
      rfl
    · cases h
  · cases h

/-- **A name of the program without white space** is taken off. -/
theorem behindProgram?_append (hblank : ∀ c ∈ name, isBlank c = false)
    (hname : isProgram name = true) (r : List Char) :
    behindProgram? (name ++ ':' :: ' ' :: r) = some r := by
  have hword : ∀ c ∈ name ++ [':'], (!isBlank c) = true := by
    refine List.forall_mem_append.mpr ⟨fun c hc => ?_, List.forall_mem_singleton.mpr rfl⟩
    rw [hblank c hc, Bool.not_false]
  have hrun : run (fun c => !isBlank c) (name ++ ':' :: ' ' :: r) = (name ++ [':'], ' ' :: r) := by
    rw [← List.singleton_append, ← List.append_assoc, run, List.takeWhile_append_of_pos hword,
      List.dropWhile_append_of_pos hword, List.takeWhile_cons_of_neg (by decide),
      List.dropWhile_cons_of_neg (by decide), List.append_nil]
  rw [behindProgram?, hrun]
  simp only [List.reverse_append, List.reverse_cons, List.reverse_nil, List.nil_append,
    List.cons_append, List.reverse_reverse, hname, if_true]

/-- A line without the name in front does not look like one with it. -/
theorem behindProgram?_path (hP : ¬ [':', ' '] <:+: P) (hL : Numeral L) (M : List Char) :
    behindProgram? (P ++ ':' :: (L ++ ':' :: ' ' :: M)) = none := by
  rw [Option.eq_none_iff_forall_ne_some]
  intro r hr
  obtain ⟨name, heq, hname, hblank⟩ := of_behindProgram? hr
  -- the colon behind the name is in the path, or the one behind it, or that behind the line
  rcases List.append_eq_append_iff.mp heq with ⟨a, rfl, ha⟩ | ⟨a, rfl, ha⟩
  · cases a with
    | nil => exact hL.append_ne_space (List.cons.inj ha).2
    | cons c a =>
      obtain ⟨rfl, hrest⟩ := List.cons.inj ha
      rcases cut_at_colon (hL.notMem (by decide)) hrest.symm with ⟨rfl, -⟩ | ⟨v, rfl, hspace⟩
      · rw [isProgram_located hL] at hname
        cases hname
      · cases v with
        | nil => exact absurd (List.cons.inj hspace).1 (by decide)
        | cons d v =>
          obtain ⟨rfl, -⟩ := List.cons.inj hspace
          exact absurd (hblank ' ' (by simp)) (by decide)
  · cases a with
    | nil => exact hL.append_ne_space (List.cons.inj ha).2.symm
    | cons c a =>
      obtain ⟨rfl, hrest⟩ := List.cons.inj ha
      cases a with
      | nil => exact absurd (List.cons.inj hrest).1 (by decide)
      | cons d a =>
        obtain ⟨rfl, -⟩ := List.cons.inj hrest
        exact hP ⟨name, a, by simp⟩

/-- A name with white space in it is not taken off. -/
theorem behindProgram?_blank (hD : ':' ∉ D) (hblank : ∃ c ∈ D, isBlank c = true) (X : List Char) :
    behindProgram? (D ++ ':' :: X) = none := by
  obtain ⟨c, hc, hcblank⟩ := hblank
  rw [Option.eq_none_iff_forall_ne_some]
  intro r hr
  obtain ⟨name, heq, -, hfirm⟩ := of_behindProgram? hr
  have hmem : c ∈ name := by
    rcases cut_at_colon hD heq.symm with ⟨rfl, -⟩ | ⟨v, rfl, -⟩
    · exact hc
    · exact List.mem_append_left _ hc
  rw [hfirm c hmem] at hcblank
  cases hcblank

end Luac

/-! ## 3. Findings as the Lua compiler writes them -/

/-- **The name of the Lua compiler**, behind whatever its path is: `luac`, a version and perhaps
`.exe`. -/
structure LuacProgram where
  front : List Char
  version : List Char
  exe : Bool

namespace LuacProgram

variable {p : LuacProgram}

/-- The ending of programs. -/
def ending (p : LuacProgram) : List Char := if p.exe then ".exe".toList else []

def text (p : LuacProgram) : List Char := p.front ++ "luac".toList ++ p.version ++ p.ending

/-- **Names without colons**: the path may hold anything else on one line, the version digits and
dots. -/
structure Sound (p : LuacProgram) : Prop where
  front_plain : ':' ∉ p.front
  front_unbroken : Unbroken p.front
  version : ∀ c ∈ p.version, Luac.isVersionChar c = true

theorem isVersioned_stem (h : p.Sound) :
    Luac.isVersioned (p.front ++ "luac".toList ++ p.version) = true := by
  have hlast : (p.front ++ "luac".toList).getLast? = some 'c' :=
    List.getLast?_append_of_ne_nil _ (by decide)
  have hstop : ∀ c ∈ (p.front ++ "luac".toList).getLast?, Luac.isVersionChar c = false :=
    fun c hc => Option.some.inj (hlast.symm.trans hc) ▸ by decide
  rw [Luac.isVersioned_append h.version hstop, List.isSuffixOf_iff_suffix]
  exact List.suffix_append _ _

theorem isProgram_text (h : p.Sound) : Luac.isProgram p.text = true := by
  rw [text, ending, Luac.isProgram]
  cases p.exe with
  | true =>
    rw [if_pos rfl]
    have hsuffix : ".exe".toList.isSuffixOf
        (p.front ++ "luac".toList ++ p.version ++ ".exe".toList) = true :=
      List.isSuffixOf_iff_suffix.mpr (List.suffix_append _ _)
    have hstem : (p.front ++ "luac".toList ++ p.version ++ ".exe".toList).take
        ((p.front ++ "luac".toList ++ p.version ++ ".exe".toList).length - 4) =
          p.front ++ "luac".toList ++ p.version := by
      rw [List.length_append]
      exact List.take_left' rfl
    rw [hsuffix, hstem, isVersioned_stem h, Bool.true_and, Bool.or_true]
  | false => rw [if_neg Bool.false_ne_true, List.append_nil, isVersioned_stem h, Bool.true_or]

/-- A character of the name that stands in the path, or is no line break and no colon. -/
theorem mem_text (h : p.Sound) : ∀ c ∈ p.text, c ∈ p.front ∨ isLineBreak c = false ∧ c ≠ ':' := by
  have hall :
      (("luac".toList ++ ".exe".toList).all fun c => !isLineBreak c && c != ':') = true := by
    decide
  have hending : ∀ c ∈ "luac".toList ++ ".exe".toList, isLineBreak c = false ∧ c ≠ ':' := by
    intro c hc
    simpa using List.all_eq_true.mp hall c hc
  have hversion : ∀ c ∈ p.version, isLineBreak c = false ∧ c ≠ ':' := by
    intro c hc
    have hchar := h.version c hc
    rw [Luac.isVersionChar, Bool.or_eq_true, beq_iff_eq] at hchar
    rcases hchar with hdigit | rfl
    · have hnumeral : Numeral [c] := ⟨List.cons_ne_nil _ _, by simpa using hdigit⟩
      refine ⟨hnumeral.unbroken c List.mem_cons_self, ?_⟩
      rintro rfl
      exact absurd hdigit (by decide)
    · decide
  intro c hc
  simp only [text, List.mem_append] at hc
  rcases hc with ((hc | hc) | hc) | hc
  · exact .inl hc
  · exact .inr (hending c (List.mem_append_left _ hc))
  · exact .inr (hversion c hc)
  · refine .inr (hending c (List.mem_append_right _ ?_))
    rw [ending] at hc
    split at hc
    · exact hc
    · cases hc

theorem text_plain (h : p.Sound) : ':' ∉ p.text :=
  fun hmem => (mem_text h _ hmem).elim h.front_plain fun hplain => hplain.2 rfl

theorem unbroken_text (h : p.Sound) : Unbroken p.text :=
  fun c hc => (mem_text h c hc).elim (h.front_unbroken c) And.left

/-- The name without white space in front of it. -/
def trimmed (p : LuacProgram) : LuacProgram := { p with front := trimLeft p.front }

theorem sound_trimmed (h : p.Sound) : p.trimmed.Sound where
  front_plain hmem := h.front_plain ((List.dropWhile_sublist _).subset hmem)
  front_unbroken c hc := h.front_unbroken c ((List.dropWhile_sublist _).subset hc)
  version := h.version

/-- White space in front of the name, and the name without it. -/
theorem exists_trimmed (p : LuacProgram) :
    ∃ pre, p.text = pre ++ p.trimmed.text ∧ (∀ c ∈ pre, isBlank c = true) ∧
      p.trimmed.text ≠ [] ∧ ∀ c ∈ p.trimmed.text.head?, isBlank c = false := by
  have hname : p.trimmed.text = trimLeft p.front ++ ("luac".toList ++ p.version ++ p.ending) := by
    change trimLeft p.front ++ "luac".toList ++ p.version ++ p.ending = _
    simp only [List.append_assoc]
  refine ⟨p.front.takeWhile isBlank, ?_, fun c hc => List.mem_takeWhile_imp hc, ?_, ?_⟩
  · rw [hname, ← List.append_assoc, trimLeft, List.takeWhile_append_dropWhile]
    simp only [text, List.append_assoc]
  · rw [hname]
    exact List.append_ne_nil_of_right_ne_nil _ (List.cons_ne_nil _ _)
  · intro c hc
    rw [hname] at hc
    cases hfront : trimLeft p.front with
    | nil =>
      rw [hfront] at hc
      exact Option.some.inj hc ▸ by decide
    | cons d cs =>
      rw [hfront] at hc
      exact head?_dropWhile_false p.front c (by rw [← trimLeft, hfront]; exact hc)

end LuacProgram

/-- **A finding as the Lua compiler writes it**, with or without its name in front. -/
structure LuacFinding where
  program : Option LuacProgram
  path : List Char
  line : Position
  message : List Char

namespace LuacFinding

variable {f : LuacFinding}

def programText : Option LuacProgram → List Char
  | none => []
  | some p => p.text ++ ": ".toList

/-- What stands behind the path. -/
def behindPath (f : LuacFinding) : List Char := ':' :: (f.line.digits ++ (": ".toList ++ f.message))

/-- **The line of the finding**, `program: path:line: message`. -/
def text (f : LuacFinding) : List Char := programText f.program ++ (f.path ++ f.behindPath)

/-- What the line says. -/
def diagnostic (f : LuacFinding) : Diagnostic :=
  ⟨f.line, .first, .error, String.ofList f.message, none⟩

/-- **Findings that can be told from their line.**  The path starts with something that can be seen
and has no colon and space in a row, the number is not too long, and the message is there and
trimmed. -/
structure Sound (f : LuacFinding) : Prop where
  program : ∀ p ∈ f.program, p.Sound
  path_start : ∃ c ∈ f.path.head?, isBlank c = false
  path_plain : ¬ [':', ' '] <:+: f.path
  path_unbroken : Unbroken f.path
  line : Short f.line.digits
  message : f.message ≠ []
  trimmed : trim f.message = f.message
  message_unbroken : Unbroken f.message

theorem path_ne_nil (h : f.Sound) : f.path ≠ [] := by
  obtain ⟨c, hc, -⟩ := h.path_start
  rintro hnil
  rw [hnil] at hc
  cases hc

/-- **A line is taken apart behind the path**; a name of the program with white space in it counts
as a part of the path. -/
theorem exists_parts (h : f.Sound) :
    ∃ path, Luac.ofLine? f.text = some ⟨path, f.line.digits, f.message⟩ := by
  have hplain := Luac.unlocated_of_plain h.path_plain
  have hpath : Luac.located? (f.path ++ f.behindPath) = some ⟨f.path, f.line.digits, f.message⟩ :=
    Luac.located?_eq (path_ne_nil h) hplain f.line.numeral_digits h.message
  cases hprogram : f.program with
  | none =>
    refine ⟨f.path, ?_⟩
    have hnone : Luac.behindProgram? (f.path ++ f.behindPath) = none :=
      Luac.behindProgram?_path h.path_plain f.line.numeral_digits f.message
    rw [text, hprogram, programText, List.nil_append, Luac.ofLine?, hnone]
    exact hpath
  | some p =>
    have hp := h.program p hprogram
    have htext : f.text = p.text ++ ':' :: ' ' :: (f.path ++ f.behindPath) := by
      rw [text, hprogram, programText, List.append_assoc]
      rfl
    by_cases hblank : ∃ c ∈ p.text, isBlank c = true
    · refine ⟨p.text ++ ':' :: ' ' :: f.path, ?_⟩
      have hlocated := Luac.located?_eq (P := p.text ++ ':' :: ' ' :: f.path) (by simp)
        (hplain.behind (LuacProgram.text_plain hp)) f.line.numeral_digits h.message
      rw [htext, Luac.ofLine?, Luac.behindProgram?_blank (LuacProgram.text_plain hp) hblank]
      rw [List.append_assoc] at hlocated
      exact hlocated
    · refine ⟨f.path, ?_⟩
      have hfirm : ∀ c ∈ p.text, isBlank c = false :=
        fun c hc => Bool.eq_false_iff.mpr fun hc' => hblank ⟨c, hc, hc'⟩
      rw [htext, Luac.ofLine?,
        Luac.behindProgram?_append hfirm (LuacProgram.isProgram_text hp), Option.bind_some, hpath]

/-- The finding without white space in front of the name of the program. -/
def unpadded (f : LuacFinding) : LuacFinding := { f with program := f.program.map (·.trimmed) }

theorem sound_unpadded (h : f.Sound) : f.unpadded.Sound where
  program p hp := by
    obtain ⟨q, hq, rfl⟩ := Option.map_eq_some_iff.mp hp
    exact LuacProgram.sound_trimmed (h.program q hq)
  path_start := h.path_start
  path_plain := h.path_plain
  path_unbroken := h.path_unbroken
  line := h.line
  message := h.message
  trimmed := h.trimmed
  message_unbroken := h.message_unbroken

theorem endsFirm_text (h : f.Sound) : EndsFirm f.text := by
  intro c hc
  simp only [text, behindPath, ← List.append_assoc, ← List.cons_append] at hc
  exact endsFirm_append h.message h.trimmed c hc

/-- Trimming takes off what is in front of the name. -/
theorem trim_text (h : f.Sound) : trim f.text = f.unpadded.text := by
  have hend := endsFirm_text (sound_unpadded h)
  cases hprogram : f.program with
  | none =>
    have hsame : f.unpadded.text = f.text := by
      simp only [unpadded, text, hprogram, Option.map_none, behindPath]
    rw [hsame] at hend ⊢
    refine trim_of_firm (fun c hc => ?_) hend
    obtain ⟨d, hd, hfirm⟩ := h.path_start
    rw [text, hprogram, programText, List.nil_append,
      List.head?_append_of_ne_nil _ (path_ne_nil h), hd] at hc
    exact Option.some.inj hc ▸ hfirm
  | some p =>
    obtain ⟨pre, hpre, hblank, hne, hfirm⟩ := p.exists_trimmed
    have hunpadded :
        f.unpadded.text = p.trimmed.text ++ (": ".toList ++ (f.path ++ f.behindPath)) := by
      simp only [unpadded, text, hprogram, Option.map_some, programText, List.append_assoc,
        behindPath]
    have htext : f.text = pre ++ (f.unpadded.text ++ []) := by
      rw [hunpadded, text, hprogram, programText, hpre]
      simp only [List.append_assoc, List.append_nil]
    rw [htext]
    refine trim_between hblank (fun c hc => ?_) hend (List.forall_mem_nil _)
    rw [hunpadded, List.head?_append_of_ne_nil _ hne] at hc
    exact hfirm c hc

theorem unbroken_text (h : f.Sound) : Unbroken f.text := by
  have hname : Unbroken (programText f.program) := by
    cases hprogram : f.program with
    | none => exact nofun
    | some p =>
      exact unbroken_append_iff.mpr
        ⟨LuacProgram.unbroken_text (h.program p hprogram), by decide⟩
  have hfixed : isLineBreak ':' = false ∧ Unbroken ": ".toList := by decide
  simp only [text, behindPath, unbroken_append_iff, unbroken_cons_iff, hname, hfixed,
    f.line.numeral_digits.unbroken, h.path_unbroken, h.message_unbroken, and_self]

theorem diagnostic_parts (h : f.Sound) (path : List Char) :
    Luac.diagnostic ⟨path, f.line.digits, f.message⟩ = .ok f.diagnostic := by
  rw [Luac.diagnostic, Position.ofDigits_digits h.line]
  dsimp only
  rw [h.trimmed]
  rfl

/-- **How the Lua compiler writes its findings.** -/
def format : LineFormat LuacFinding Luac.LuacLine where
  Sound := Sound
  text := text
  diagnostic := diagnostic
  find := Luac.ofLine?
  read := Luac.diagnostic
  find_nil := rfl
  unbroken _ h := unbroken_text h
  found f h := by
    obtain ⟨path, hpath⟩ := exists_parts (sound_unpadded h)
    rw [trim_text h]
    exact ⟨_, hpath, diagnostic_parts h path⟩

end LuacFinding

end SourceCheck

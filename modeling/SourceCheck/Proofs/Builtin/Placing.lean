import SourceCheck.Builtin.Arguments
import SourceCheck.Proofs.Path

/-!
# Where the file stands among the arguments

The arguments of a tool are fixed words and paths.  The file comes last, behind words that
are the same for all files of a suffix, and nothing else about its name matters but whether it is
that of a Rust library.  Only the TypeScript compiler does without the file, in a project that
configures it.

* `Builtin.fixedWords`: the words of a language.
* `Builtin.exists_front`: what stands in front of the file.
* `Builtin.plan_congr`: what the arguments depend on.
* `Builtin.Placed`, `Builtin.placed_arguments`: the arguments as texts.
* `Builtin.arguments_of_file`: the arguments for two files.
-/

namespace SourceCheck.Builtin

open Argument

variable {b : Builtin} {x y : CheckContext}

/-! ## 1. What stands in front of the file -/

/-- **The fixed words of a language's arguments.** -/
def fixedWords : Builtin → List String
  | typeScript => ["--noEmit", "--pretty", "false", "--project", "--skipLibCheck", "--target",
      "es2022", "--jsx", "preserve"]
  | python => ["--outputjson", "--project"]
  | go => ["vet"]
  | rust => ["--error-format=short", "--emit=metadata", "--edition=2021", "--out-dir",
      "--crate-type=lib"]
  | java => ["-Xlint:all", "-d"]
  | cpp => ["-fsyntax-only", "-fdiagnostics-color=never", "-Wall", "-x", "c", "c++", "-std=c++17"]
  | php => ["-l", "-d", "display_errors=stderr", "log_errors=0"]
  | scala => ["-d"]
  | lua => ["-p"]
  | elixir => ["-e", elixirExpression]
  | terraform => ["fmt", "-check", "-diff", "-no-color"]
  | zig => ["ast-check"]

/-- No fixed word looks like an absolute path. -/
theorem head?_of_mem_fixedWords (b : Builtin) :
    ∀ s ∈ b.fixedWords, s.toList.head? ≠ some '/' := by
  cases b <;> decide

/-- **What may stand in front of the file**: fixed words, the scratch directory, and for Python the
root of a project that configures the tool. -/
inductive InFront (b : Builtin) (x : CheckContext) : Argument → Prop
  | word {s : String} (h : s ∈ b.fixedWords) : InFront b x (.word s)
  | scratch : InFront b x .scratch
  | root (hb : b = python) (hx : x.configured = true) : InFront b x .root

theorem inFront_words {ws : List String} (h : ws ⊆ b.fixedWords) :
    ∀ a ∈ words ws, b.InFront x a := by
  intro a ha
  obtain ⟨s, hs, rfl⟩ := List.mem_map.mp ha
  exact .word (h hs)

/-- Words that are given in some cases only. -/
theorem inFront_optional {ws : List String} (h : ws ⊆ b.fixedWords) (given : Bool) :
    ∀ a ∈ (if given then words ws else []), b.InFront x a := by
  cases given with
  | true => exact inFront_words h
  | false => exact List.forall_mem_nil _

/-- **The file comes last**, unless the project is checked as a whole. -/
theorem exists_front (h : ¬ (b = typeScript ∧ x.configured = true)) :
    ∃ front, b.plan x = front ++ [file] ∧ ∀ a ∈ front, b.InFront x a := by
  cases b with
  | typeScript =>
    have hconfigured : x.configured = false := by simpa using h
    refine ⟨words ["--noEmit", "--pretty", "false"] ++ (words ["--skipLibCheck", "--target",
      "es2022"] ++ if loweredSuffix x == ".tsx" then words ["--jsx", "preserve"] else []), ?_, ?_⟩
    · simp only [plan, hconfigured, Bool.false_eq_true, if_false, List.append_assoc]
    · refine List.forall_mem_append.mpr ⟨?_, List.forall_mem_append.mpr ⟨?_, ?_⟩⟩
      · exact inFront_words (by decide)
      · exact inFront_words (by decide)
      · exact inFront_optional (by decide) _
  | python =>
    have hword : ∀ a ∈ words ["--outputjson"], python.InFront x a := inFront_words (by decide)
    refine ⟨_, rfl, List.forall_mem_append.mpr ⟨hword, ?_⟩⟩
    split
    · rename_i hconfigured
      refine List.forall_mem_cons.mpr ⟨.word (by decide), List.forall_mem_singleton.mpr ?_⟩
      exact .root rfl hconfigured
    · exact List.forall_mem_nil _
  | go => exact ⟨words ["vet"], rfl, inFront_words (by decide)⟩
  | rust =>
    have hlibrary : ["--crate-type=lib"] ⊆ rust.fixedWords := by decide
    refine ⟨_, rfl, List.forall_mem_append.mpr ⟨List.forall_mem_append.mpr ⟨?_, ?_⟩, ?_⟩⟩
    · exact inFront_words (by decide)
    · exact List.forall_mem_singleton.mpr .scratch
    · exact inFront_optional hlibrary _
  | java =>
    refine ⟨words ["-Xlint:all", "-d"] ++ [scratch], rfl, List.forall_mem_append.mpr ⟨?_, ?_⟩⟩
    · exact inFront_words (by decide)
    · exact List.forall_mem_singleton.mpr .scratch
  | cpp =>
    refine ⟨_, rfl, List.forall_mem_append.mpr ⟨inFront_words (by decide), inFront_words ?_⟩⟩
    split
    · decide
    · decide
  | php => exact ⟨words _, rfl, inFront_words (by decide)⟩
  | scala =>
    refine ⟨words ["-d"] ++ [scratch], rfl, List.forall_mem_append.mpr ⟨?_, ?_⟩⟩
    · exact inFront_words (by decide)
    · exact List.forall_mem_singleton.mpr .scratch
  | lua => exact ⟨words ["-p"], rfl, inFront_words (by decide)⟩
  | elixir => exact ⟨words ["-e", elixirExpression], rfl, inFront_words (by decide)⟩
  | terraform => exact ⟨words _, rfl, inFront_words (by decide)⟩
  | zig => exact ⟨words ["ast-check"], rfl, inFront_words (by decide)⟩

/-- **What the arguments depend on**: whether the project is configured, and the suffix of the file
in lower case, if the file has not the name of a Rust library. -/
theorem plan_congr (hconfigured : x.configured = y.configured)
    (hsuffix : loweredSuffix x = loweredSuffix y) (hx : x.file.name ∉ rustLibraryNames)
    (hy : y.file.name ∉ rustLibraryNames) : b.plan x = b.plan y := by
  have hlibrary :
      rustLibraryNames.contains x.file.name = rustLibraryNames.contains y.file.name := by
    rw [Bool.eq_false_iff.mpr fun h => hx (List.contains_iff_mem.mp h),
      Bool.eq_false_iff.mpr fun h => hy (List.contains_iff_mem.mp h)]
  cases b <;> simp only [plan, hconfigured, hsuffix, hlibrary]

/-! ## 2. The arguments as texts -/

/-- **What a check hands on**: paths that their texts give back, absolute but for the scratch
directory, of which neither the scratch directory nor the file that configures the TypeScript
compiler is the checked file. -/
structure Apart (x : CheckContext) : Prop where
  file : x.file.Legible ∧ x.file.isAbsolute = true
  root : x.root.Legible ∧ x.root.isAbsolute = true
  scratch : x.scratch.Legible
  notScratch : x.file ≠ x.scratch
  notProject : x.file ≠ x.root.child "tsconfig.json"

/-- **Arguments among which no name is an option**: each is a fixed word, the scratch directory, or
an absolute path that the check hands on; the file is the last one and stands nowhere else, unless a
project is configured: then the TypeScript compiler gets no file, and for Python the root may be the
file. -/
structure Placed (b : Builtin) (x : CheckContext) (arguments : List String) : Prop where
  each : ∀ a ∈ arguments, a ∈ b.fixedWords ∨ a = x.scratch.text ∨ a.toList.head? = some '/' ∧
    a ∈ [x.file.text, x.root.text, (x.root.child "tsconfig.json").text]
  last : ¬ (b = typeScript ∧ x.configured = true) → arguments.getLast? = some x.file.text
  count : arguments.count x.file.text =
    if b = typeScript ∧ x.configured = true then 0
    else if b = python ∧ x.configured = true ∧ x.root = x.file then 2
    else 1

/-- The text of the file is no fixed word. -/
theorem Apart.text_notMem_fixedWords (h : Apart x) (b : Builtin) : x.file.text ∉ b.fixedWords :=
  fun hmem => b.head?_of_mem_fixedWords _ hmem (Path.head?_text h.file.2)

/-- What stands in front of the file is not the file, unless it is the root of a Python project. -/
theorem InFront.text_ne {a : Argument} (ha : b.InFront x a) (h : Apart x)
    (hroot : ¬ (b = python ∧ x.configured = true ∧ x.root = x.file)) :
    a.text x ≠ x.file.text := by
  cases ha with
  | word hs => exact fun heq => h.text_notMem_fixedWords b (heq ▸ hs)
  | scratch => exact fun heq => h.notScratch (Path.eq_of_text h.scratch h.file.1 heq).symm
  | root hb hx => exact fun heq => hroot ⟨hb, hx, Path.eq_of_text h.root.1 h.file.1 heq⟩

theorem InFront.text_cases {a : Argument} (ha : b.InFront x a) (h : Apart x) :
    a.text x ∈ b.fixedWords ∨ a.text x = x.scratch.text ∨ (a.text x).toList.head? = some '/' ∧
      a.text x ∈ [x.file.text, x.root.text, (x.root.child "tsconfig.json").text] := by
  cases ha with
  | word hs => exact .inl hs
  | scratch => exact .inr (.inl rfl)
  | root => exact .inr (.inr ⟨Path.head?_text h.root.2, by simp [Argument.text]⟩)

/-- Arguments that end with the file, and have it nowhere else. -/
theorem count_of_front {front : List Argument} (hfront : ∀ a ∈ front, a.text x ≠ x.file.text) :
    ((front ++ [file]).map (Argument.text x)).count x.file.text = 1 := by
  have hnone : (front.map (Argument.text x)).count x.file.text = 0 := by
    refine List.count_eq_zero.mpr fun hmem => ?_
    obtain ⟨a, ha, heq⟩ := List.mem_map.mp hmem
    exact hfront a ha heq
  rw [List.map_append, List.count_append, hnone, List.map_singleton, Argument.text,
    List.count_singleton_self]

/-- The arguments that are given to the TypeScript compiler in a project that configures it. -/
theorem arguments_typeScript (hconfigured : x.configured = true) :
    typeScript.arguments x =
      ["--noEmit", "--pretty", "false", "--project"] ++ [(x.root.child "tsconfig.json").text] := by
  rw [arguments, plan, hconfigured]
  rfl

/-- The arguments for Python in a project that configures the tool. -/
theorem arguments_python (hconfigured : x.configured = true) :
    python.arguments x = ["--outputjson", "--project"] ++ [x.root.text, x.file.text] := by
  rw [arguments, plan, hconfigured]
  rfl

theorem placed_typeScript (h : Apart x) (hconfigured : x.configured = true) :
    typeScript.Placed x (typeScript.arguments x) := by
  have hproject : (x.root.child "tsconfig.json").Legible ∧
      (x.root.child "tsconfig.json").isAbsolute = true :=
    ⟨h.root.1.child _, Path.isAbsolute_join h.root.2⟩
  have hfixed : ["--noEmit", "--pretty", "false", "--project"] ⊆ typeScript.fixedWords := by decide
  rw [arguments_typeScript hconfigured]
  refine ⟨fun a ha => ?_, fun hno => absurd ⟨rfl, hconfigured⟩ hno, ?_⟩
  · rcases List.mem_append.mp ha with ha | ha
    · exact .inl (hfixed ha)
    · rw [List.mem_singleton.mp ha]
      exact .inr (.inr ⟨Path.head?_text hproject.2, by simp⟩)
  · rw [if_pos ⟨rfl, hconfigured⟩, List.count_eq_zero, List.mem_append, List.mem_singleton]
    rintro (hmem | heq)
    · exact h.text_notMem_fixedWords typeScript (hfixed hmem)
    · exact h.notProject (Path.eq_of_text h.file.1 hproject.1 heq)

/-- **The arguments of a language are placed like this.** -/
theorem placed_arguments (h : Apart x) (b : Builtin) : b.Placed x (b.arguments x) := by
  by_cases hproject : b = typeScript ∧ x.configured = true
  · obtain ⟨rfl, hconfigured⟩ := hproject
    exact placed_typeScript h hconfigured
  · obtain ⟨front, hplan, hfront⟩ := exists_front hproject
    refine ⟨fun a ha => ?_, fun _ => ?_, ?_⟩
    · rw [arguments, hplan] at ha
      obtain ⟨argument, hmem, rfl⟩ := List.mem_map.mp ha
      rcases List.mem_append.mp hmem with hmem | hmem
      · exact (hfront argument hmem).text_cases h
      · rw [List.mem_singleton.mp hmem]
        exact .inr (.inr ⟨Path.head?_text h.file.2, List.mem_cons_self⟩)
    · rw [arguments, hplan, List.map_append, List.map_singleton, List.getLast?_concat]
      rfl
    · rw [if_neg hproject]
      split
      · rename_i hroot
        obtain ⟨rfl, hconfigured, hsame⟩ := hroot
        have hoption : x.file.text ∉ ["--outputjson", "--project"] :=
          h.text_notMem_fixedWords python
        rw [arguments_python hconfigured, hsame, List.count_append,
          List.count_eq_zero.mpr hoption]
        simp
      · rename_i hroot
        rw [arguments, hplan]
        exact count_of_front fun a ha => (hfront a ha).text_ne h hroot

/-- What stands in front of a file does not depend on it. -/
theorem InFront.text_of_file {a : Argument} (ha : b.InFront x a) (other : Path) :
    a.text { x with file := other } = a.text x := by
  cases ha <;> rfl

/-- **The arguments for two files of one suffix** differ in the last one only, and there as the
files do. -/
theorem arguments_of_file {other : Path} (h : Apart x)
    (hsuffix : Text.lowered x.file.suffix = Text.lowered other.suffix)
    (hx : x.file.name ∉ rustLibraryNames) (hother : other.name ∉ rustLibraryNames) (b : Builtin) :
    ∃ front last, b.arguments x = front ++ [last] ∧ b.arguments { x with file := other } =
      front ++ [if last = x.file.text then other.text else last] := by
  by_cases hproject : b = typeScript ∧ x.configured = true
  · obtain ⟨rfl, hconfigured⟩ := hproject
    have hne : (x.root.child "tsconfig.json").text ≠ x.file.text := fun heq =>
      h.notProject (Path.eq_of_text h.file.1 (h.root.1.child _) heq.symm)
    refine ⟨_, _, arguments_typeScript hconfigured, ?_⟩
    rw [if_neg hne]
    exact arguments_typeScript (x := { x with file := other }) hconfigured
  · obtain ⟨front, hplan, hfront⟩ := exists_front hproject
    have hlowered : loweredSuffix x = loweredSuffix { x with file := other } := hsuffix
    have hsame : b.plan x = b.plan { x with file := other } := plan_congr rfl hlowered hx hother
    have htexts : front.map (Argument.text { x with file := other }) =
        front.map (Argument.text x) :=
      List.map_congr_left fun a ha => (hfront a ha).text_of_file other
    refine ⟨front.map (Argument.text x), x.file.text, ?_, ?_⟩
    · rw [arguments, hplan, List.map_append]
      rfl
    · rw [arguments, ← hsame, hplan, List.map_append, htexts, if_pos rfl]
      rfl

end SourceCheck.Builtin

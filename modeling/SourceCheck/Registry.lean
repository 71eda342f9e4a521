import SourceCheck.Language
import SourceCheck.LogRecord
import SourceCheck.Path
import SourceCheck.Fault
import SourceCheck.Table

/-!
# The registry of languages

Every file suffix has one owner.  A suffix is kept in lower case, without outer white space and
with a dot in front.  Registering a language for a suffix that another one owns takes the suffix
over and reports the change of hands; a language that owns no suffix any more is dropped.

* `Registry.register`: a language takes some suffixes.
* `Registry.resolve`: the owner of the longest suffix that a file's name ends in.
* `Registry.find`: the first language with a given code, name or flag.
-/

namespace SourceCheck

/-- **The languages and the suffixes that they own.** -/
structure Registry where
  /-- The owner of each suffix. -/
  owners : Table Language
  /-- The languages that own a suffix, in the order in which they came. -/
  languages : List Language
  /-- The suffixes in the order in which they are tried. -/
  index : List String
  deriving Repr, DecidableEq

/-- A suffix that changes hands. -/
structure Override where
  suffix : String
  previous : Language
  next : Language
  deriving Repr, DecidableEq

namespace Override

/-- **What the log says when a suffix changes hands.** -/
def record (o : Override) : LogRecord :=
  ⟨.warning, .registry, "extension " ++ o.suffix ++ " registered by " ++ o.previous.name ++
    " is overridden by " ++ o.next.name⟩

end Override

namespace Registry

/-- The registry without languages. -/
def empty : Registry := ⟨[], [], []⟩

/-! ## 1. Suffixes -/

/-- A text with a dot in front. -/
def dotted (s : List Char) : List Char := if s.head? = some '.' then s else '.' :: s

/-- **A suffix as it is kept**: in lower case, without outer white space, a dot in front. -/
def normalSuffix (raw : String) : String :=
  String.ofList (dotted (Text.lower (Text.trim raw.toList)))

/-- The suffixes from the longest to the shortest, of equal length in the order in which they
came. -/
def longestFirst (suffixes : List String) : List String :=
  suffixes.mergeSort fun a b => decide (b.length ≤ a.length)

/-- Whether a name ends in a suffix and is longer than it. -/
def hasSuffix (name suffix : String) : Bool :=
  suffix.toList.isSuffixOf name.toList && decide (suffix.length < name.length)

/-! ## 2. Registering -/

/-- A language takes suffixes one after the other; what changes hands is noted in order. -/
def take (l : Language) (owners : Table Language) :
    List String → Table Language × List Override
  | [] => (owners, [])
  | raw :: rest =>
    let suffix := normalSuffix raw
    let (after, overrides) := take l (Table.put suffix l owners) rest
    match Table.get? owners suffix with
    | some previous =>
      (after, if previous = l then overrides else ⟨suffix, previous, l⟩ :: overrides)
    | none => (after, overrides)

/-- The languages that own at least one suffix. -/
def owning (owners : Table Language) (languages : List Language) : List Language :=
  languages.filter fun l => owners.any fun e => e.2 == l

/-- **Registers a language for some suffixes**, and tells which suffixes change hands. -/
def register (r : Registry) (l : Language) (suffixes : List String) :
    Registry × List Override :=
  let (owners, overrides) := take l r.owners suffixes
  let languages := if r.languages.contains l then r.languages else r.languages ++ [l]
  (⟨owners, owning owners languages, longestFirst (Table.keys owners)⟩, overrides)

/-- Registers languages for their own suffixes, in order. -/
def ofLanguages (ls : List Language) : Registry :=
  ls.foldl (fun r l => (r.register l l.extensions).1) empty

/-! ## 3. Looking up -/

/-- **The language of a file**: the owner of the longest suffix that its name, in lower case, ends
in; the name must be more than the suffix. -/
def resolve (r : Registry) (file : Path) : Option Language :=
  let name := Text.lowered file.name
  (r.index.find? (hasSuffix name)).bind (Table.get? r.owners)

/-- **The first language that an identifier designates.** -/
def find (r : Registry) (identifier : String) : Option Language :=
  r.languages.find? fun l => l.isNamed identifier

/-- Whether a suffix has an owner. -/
def contains (r : Registry) (suffix : String) : Bool :=
  (Table.get? r.owners (normalSuffix suffix)).isSome

/-- **The owner of a suffix**; it is a failure if there is none. -/
def get (r : Registry) (suffix : String) : Except Fault Language :=
  match Table.get? r.owners (normalSuffix suffix) with
  | some l => .ok l
  | none => .error (.unknownSuffix (normalSuffix suffix))

/-- The number of suffixes. -/
def size (r : Registry) : Nat := r.owners.length

/-! ## 4. Small facts -/

/-- Sorting the suffixes loses none. -/
theorem longestFirst_perm (suffixes : List String) : (longestFirst suffixes).Perm suffixes :=
  List.mergeSort_perm _ _

/-- Longer suffixes come first. -/
theorem longestFirst_sorted (suffixes : List String) :
    (longestFirst suffixes).Pairwise fun a b => b.length ≤ a.length := by
  have h : (longestFirst suffixes).Pairwise fun a b => decide (b.length ≤ a.length) = true :=
    List.pairwise_mergeSort
      (fun a b c hab hbc => by simp only [decide_eq_true_eq] at *; omega)
      (fun a b => by simp only [Bool.or_eq_true, decide_eq_true_eq]; omega) _
  exact h.imp fun hab => by simpa using hab

/-- The language of a file owns a suffix of its name. -/
theorem suffix_of_resolve {r : Registry} {file : Path} {l : Language} (h : r.resolve file = some l) :
    ∃ suffix ∈ r.index, hasSuffix (Text.lowered file.name) suffix = true ∧
      Table.get? r.owners suffix = some l := by
  rw [resolve] at h
  obtain ⟨suffix, hfind, howner⟩ := Option.bind_eq_some_iff.mp h
  exact ⟨suffix, List.mem_of_find?_eq_some hfind, List.find?_some hfind, howner⟩

end Registry

end SourceCheck

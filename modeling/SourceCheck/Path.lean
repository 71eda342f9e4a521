import SourceCheck.Text.Fields
import SourceCheck.Text.Lower

/-!
# Paths as texts

A path is a text that is read once into an anchor and named parts.  Empty parts and `.` say
nothing and are dropped; `..` stays, because what it means depends on the files.  Exactly two
leading slashes are an anchor of their own, any other number of them counts as one.

* `Path.ofString`, `Path.text`: between a path and its text.
* `Path.join`: a path seen from another.
* `Path.upward`: a directory and those above it.
-/

namespace SourceCheck

/-- **Where a path starts.** -/
inductive Anchor
  | relative
  | root
  | doubleRoot
  deriving Repr, DecidableEq

/-- **A path**: an anchor and the parts below it. -/
structure Path where
  anchor : Anchor
  parts : List String
  deriving Repr, DecidableEq

/-- The fields of a text between slashes. -/
def slashFields (s : String) : List String := (Text.fields '/' s.toList).map String.ofList

namespace Path

/-- Whether a field of the text is a part of the path. -/
def isPart (s : String) : Bool := s != "" && s != "."

/-- The anchor of a text. -/
def anchorOf (s : List Char) : Anchor :=
  match s.takeWhile (· == '/') with
  | [] => .relative
  | ['/', '/'] => .doubleRoot
  | _ => .root

/-- **The path that a text writes.** -/
def ofString (s : String) : Path := ⟨anchorOf s.toList, (slashFields s).filter isPart⟩

/-- Texts with slashes between them. -/
def withSlashes : List String → String
  | [] => ""
  | [s] => s
  | s :: rest => s ++ "/" ++ withSlashes rest

/-- **The text of a path.** -/
def text (p : Path) : String :=
  match p.anchor, p.parts with
  | .relative, [] => "."
  | .relative, parts => withSlashes parts
  | .root, parts => "/" ++ withSlashes parts
  | .doubleRoot, parts => "//" ++ withSlashes parts

/-- Whether the path starts at the root. -/
def isAbsolute (p : Path) : Bool := p.anchor != .relative

/-- **A path seen from another**: an absolute path is itself. -/
def join (base p : Path) : Path :=
  if p.isAbsolute then p else ⟨base.anchor, base.parts ++ p.parts⟩

/-- A named entry below a path. -/
def child (base : Path) (name : String) : Path := base.join (ofString name)

/-- The last part, or nothing. -/
def name (p : Path) : String := p.parts.getLast?.getD ""

/-- **The suffix of the name**, from its last dot on; a dot at either end of the name starts no
suffix. -/
def suffix (p : Path) : String :=
  let n := p.name.toList
  let tail := (n.reverse.takeWhile (· != '.')).reverse
  let stem := n.length - tail.length - 1
  if tail ≠ [] && n.contains '.' && 0 < stem then String.ofList ('.' :: tail) else ""

/-- The path without its last part. -/
def parent (p : Path) : Path := ⟨p.anchor, p.parts.dropLast⟩

/-- The beginnings of a list, from the whole down to nothing. -/
def shrinking : List String → List (List String)
  | [] => [[]]
  | x :: xs => (shrinking xs).map (x :: ·) ++ [[]]

/-- **A directory and those above it**, nearest first. -/
def upward (p : Path) : List Path := (shrinking p.parts).map fun parts => ⟨p.anchor, parts⟩

/-- Whether the null character occurs, which no file name may hold. -/
def hasNull (p : Path) : Bool := p.parts.any fun s => s.toList.contains '\x00'

/-- The path without parts that point to the directory above, judged by the text alone. -/
def collapse (parts : List String) : List String :=
  parts.foldl (fun done part => if part == ".." then done.dropLast else done ++ [part]) []

/-! ## 1. Small facts -/

@[simp] theorem join_absolute {base p : Path} (h : p.isAbsolute = true) : base.join p = p := by
  simp [join, h]

theorem isAbsolute_join {base p : Path} (h : base.isAbsolute = true) :
    (base.join p).isAbsolute = true := by
  unfold join
  split
  · assumption
  · simpa [isAbsolute] using h

end Path

end SourceCheck

import SourceCheck.Machine.Basic
import SourceCheck.Text.Blank

/-!
# Resolved paths

The resolved path of a text is absolute and free of links, `.` and `..`.  It is found without
asking that anything be there: a name that leads nowhere stands for itself, and `..` takes away
the name before it.  Every link that can be seen is replaced by what its target resolves to.  Where
a link turns up while it is being replaced, the rest of the path stays as it is written, `..` then
taking away names by the text alone; if what comes out still runs into too many links, there is no
resolved path.
-/

namespace SourceCheck.Machine

/-- **Where names lead** when their links are replaced. -/
inductive Replaced
  /-- A location. -/
  | location (l : Location)
  /-- A link turned up inside itself: a text that begins at that link and goes on as it was
  written. -/
  | text (s : String)
  deriving Repr, DecidableEq

/-- The links met so far, with what they resolve to once that is known. -/
abbrev Seen := List (Location × Option Location)

/-- **How far a path has been resolved.** -/
structure Resolving where
  place : Replaced
  seen : Seen
  deriving Repr

/-- Notes what a link resolves to. -/
def Resolving.note (l : Location) (value : Option Location) (seen : Seen) : Seen :=
  (l, value) :: seen.filter fun s => s.1 != l

/-- Whether a location can be looked at: all directories above it may be searched.  Those above the
working directory are not asked, since the program stands below them. -/
def reaches (m : Machine) (l : Location) : Bool :=
  (Path.shrinking l).tail.all fun d =>
    (d.isPrefixOf m.workingDirectory && d != m.workingDirectory) || (m.files.closed? d).isNone

/-- The target of the link that can be seen at a location. -/
def linkAt? (m : Machine) (l : Location) : Option String :=
  match m.files.lookup l with
  | some (.link target) => if m.reaches l then some target else none
  | _ => none

/-- A text behind a path, itself if it starts with a slash. -/
def textBehind (path rest : String) : String :=
  if rest.toList.head? = some '/' then rest
  else if path.toList.getLast? = some '/' then path ++ rest
  else path ++ "/" ++ rest

/-- Resolves names from a place on; `onLink` resolves the names of a link's target. -/
def resolveNames (m : Machine) (onLink : Location → List String → Seen → Resolving)
    (here : Location) (seen : Seen) : List String → Resolving
  | [] => ⟨.location here, seen⟩
  | name :: rest =>
    if name == "" || name == "." then resolveNames m onLink here seen rest
    else if name == ".." then resolveNames m onLink here.dropLast seen rest
    else
      let next := here ++ [name]
      match m.linkAt? next with
      | some target =>
        match (seen.find? fun s => s.1 == next).map (·.2) with
        | some (some known) => resolveNames m onLink known seen rest
        | some none =>
          ⟨.text (textBehind (Path.ofLocation next).text (Path.withSlashes rest)), seen⟩
        | none =>
          let start := if target.toList.head? = some '/' then [] else here
          let inner := onLink start (slashFields target) (Resolving.note next none seen)
          match inner.place with
          | .text s => ⟨.text (textBehind s (Path.withSlashes rest)), inner.seen⟩
          | .location l =>
            resolveNames m onLink l (Resolving.note next (some l) inner.seen) rest
      | none => resolveNames m onLink next seen rest

/-- Resolves names with a bound on how deep links may nest. -/
def resolveDeep (m : Machine) : Nat → Location → List String → Seen → Resolving
  | 0 => fun here names seen =>
    ⟨.text (textBehind (Path.ofLocation here).text (Path.withSlashes names)), seen⟩
  | n + 1 => fun here names seen => resolveNames m (resolveDeep m n) here seen names

/-- What the parts of a path lead to when their links are replaced. -/
def resolveParts (m : Machine) (p : Path) : Replaced :=
  (resolveDeep m (m.files.linkCount + 2) (m.startOf p) p.parts []).place

/-- The path to where names lead; a text is seen from the working directory. -/
def Replaced.path (m : Machine) : Replaced → Path
  | location l => Path.ofLocation l
  | text s => (Path.ofLocation m.workingDirectory).join (Path.ofString s)

/-- A path without parts that say nothing or point up, judged by the text alone. -/
def collapsed (p : Path) : Path := ⟨p.anchor, Path.collapse (p.parts.filter Path.isPart)⟩

/-- **The resolved path.**  A path that starts from the working directory has none if that directory
is gone. -/
def resolve (m : Machine) (p : Path) : Except Fault Path :=
  if p.hasNull then .error .nullCharacter
  else if !p.isAbsolute && (m.files.lookup m.workingDirectory).isNone then
    .error (.refused .missing)
  else
    let place := m.resolveParts p
    let out := collapsed (place.path m)
    match place with
    | .location _ => .ok out
    | .text _ =>
      match m.find out true with
      | .error (.system .linkLoop _) => .error (.linkCycle out.text)
      | .error .nullCharacter => .error .nullCharacter
      | _ => .ok out

/-- **Whether two paths lead to the same place.**  Where the system refuses to resolve one of them,
their names are compared. -/
def same (m : Machine) (p q : Path) : Except Fault Bool :=
  match m.resolve p, m.resolve q with
  | .ok a, .ok b => .ok (a == b)
  | .error f, _ | _, .error f => if f.isOfSystem then .ok (p.name == q.name) else .error f

/-- **Whether a path that a tool reports designates the checked file.**  No path, or an empty one,
does; a relative one is seen from the project root. -/
def sameFile (m : Machine) (reported : Option String) (file root : Path) : Except Fault Bool :=
  match reported with
  | none => .ok true
  | some text =>
    if text == "" then .ok true
    else m.same (root.join (Path.ofString (String.ofList (Text.trim text.toList)))) file

/-! ## 1. Small facts -/

/-- **A resolved path** is the collapsed path to where the names lead. -/
theorem eq_of_resolve {m : Machine} {p q : Path} (h : m.resolve p = .ok q) :
    q = collapsed ((m.resolveParts p).path m) := by
  unfold resolve at h
  split at h
  · contradiction
  · split at h
    · contradiction
    · dsimp only at h
      split at h
      · exact (Except.ok.inj h).symm
      · split at h
        · contradiction
        · contradiction
        · exact (Except.ok.inj h).symm

/-- Every resolved path is absolute. -/
theorem isAbsolute_of_resolve {m : Machine} {p q : Path} (h : m.resolve p = .ok q) :
    q.isAbsolute = true := by
  rw [eq_of_resolve h]
  cases m.resolveParts p with
  | location l => rfl
  | text s => exact Path.isAbsolute_join (p := Path.ofString s) (isAbsolute_ofLocation _)

end SourceCheck.Machine

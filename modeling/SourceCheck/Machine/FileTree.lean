import SourceCheck.Path
import SourceCheck.Fault

/-!
# The file system as a value

A file tree gives an entry to some locations, a location being the names from the root down.  The
root itself is always a directory.  `FileTree.walk` follows a path from a directory through links
the way the operating system does: at most forty links, every component but the last must be a
directory, and a name is looked up only in a directory that may be searched.

* `FileTree.lookup`, `put`, `erase`: the tree as a map.
* `FileTree.closed?`, `isWritable`: what the permission bits of a directory forbid.
* `FileTree.walk`: where a path leads, or why it leads nowhere.
-/

namespace SourceCheck

/-- **A place in the file tree**: the names from the root down. -/
abbrev Location := List String

/-- Programs that every machine brings along. -/
inductive Program
  | shell
  | sleep
  | wordCount
  deriving Repr, DecidableEq

/-- **What stands at a location.**  `mode` holds the permission bits. -/
inductive Entry
  | directory (mode : Nat)
  | file (mode : Nat) (bytes : List UInt8)
  | link (target : String)
  | program (p : Program)
  | nullDevice
  deriving Repr, DecidableEq

/-- **A file system.** -/
structure FileTree where
  entries : List (Location × Entry)
  deriving Repr, DecidableEq

/-- Where a path leads: a location, and its entry if there is one. -/
structure Place where
  location : Location
  entry : Option Entry
  deriving Repr, DecidableEq

namespace FileTree

/-- The permission bits of a new directory. -/
def directoryMode : Nat := 0o755

/-- The permission bits of a new file. -/
def fileMode : Nat := 0o644

/-- The permission bits of the root. -/
def rootMode (t : FileTree) : Nat :=
  match t.entries.find? fun e => e.1 == [] with
  | some (_, .directory mode) => mode
  | _ => directoryMode

/-- **The entry at a location.** -/
def lookup (t : FileTree) (l : Location) : Option Entry :=
  if l = [] then some (.directory t.rootMode)
  else (t.entries.find? fun e => e.1 == l).map (·.2)

/-- **Puts an entry at a location**, in place of what is there. -/
def put (t : FileTree) (l : Location) (e : Entry) : FileTree :=
  ⟨(l, e) :: t.entries.filter fun x => x.1 != l⟩

/-- **Removes what stands at a location** and everything below it. -/
def erase (t : FileTree) (l : Location) : FileTree :=
  ⟨t.entries.filter fun x => !l.isPrefixOf x.1⟩

/-- The number of links. -/
def linkCount (t : FileTree) : Nat :=
  (t.entries.filter fun x => match x.2 with
    | .link _ => true
    | _ => false).length

/-- The most bytes of a file name. -/
def nameLimit : Nat := 255

/-- The bytes at which a whole path is too long. -/
def pathLimit : Nat := 4096

/-- The most links on one walk. -/
def linkLimit : Nat := 40

/-- **Why names cannot be looked up at a location**, if they cannot: it must be a directory, and its
owner must be allowed to search it. -/
def closed? (t : FileTree) (l : Location) : Option SystemError :=
  match t.lookup l with
  | some (.directory mode) => if mode.testBit 6 then none else some .forbidden
  | some _ => some .notADirectory
  | none => some .missing

/-- Whether entries may be made at a location: a directory that its owner may write. -/
def isWritable (t : FileTree) (l : Location) : Bool :=
  match t.lookup l with
  | some (.directory mode) => mode.testBit 7
  | _ => false

/-- Follows names from a directory; `onLink` takes over where a link is met, with the directory
that the link's target starts from and the names still to follow. -/
def scan (t : FileTree) (followLast : Bool)
    (onLink : Location → List String → Except SystemError Place) (here : Location) :
    List String → Except SystemError Place
  | [] => .ok ⟨here, t.lookup here⟩
  | name :: rest =>
    if name == "" then scan t followLast onLink here rest
    else match t.closed? here with
      | some e => .error e
      | none =>
        if name == "." then scan t followLast onLink here rest
        else if name == ".." then scan t followLast onLink here.dropLast rest
        else if nameLimit < name.utf8ByteSize then .error .nameTooLong
        else
          let next := here ++ [name]
          match t.lookup next with
          | none => if rest = [] then .ok ⟨next, none⟩ else .error .missing
          | some (.link target) =>
            if rest = [] && !followLast then .ok ⟨next, some (.link target)⟩
            else if target.toList.head? = some '/' then onLink [] (slashFields target ++ rest)
            else onLink here (slashFields target ++ rest)
          | some (.directory _) => scan t followLast onLink next rest
          | some e => if rest = [] then .ok ⟨next, some e⟩ else .error .notADirectory

/-- **Where names lead from a directory**, with a given number of links left to follow. -/
def walk (t : FileTree) (followLast : Bool) :
    Nat → Location → List String → Except SystemError Place
  | 0 => scan t followLast fun _ _ => .error .linkLoop
  | n + 1 => scan t followLast (walk t followLast n)

/-! ## 1. The tree as a map -/

@[simp] theorem lookup_root (t : FileTree) : t.lookup [] = some (.directory t.rootMode) := rfl

theorem lookup_put_self {l : Location} (h : l ≠ []) (t : FileTree) (e : Entry) :
    (t.put l e).lookup l = some e := by
  simp [lookup, put, h]

theorem find?_filter_ne {l l' : Location} (h : l ≠ l') (es : List (Location × Entry)) :
    (es.filter fun x => x.1 != l).find? (fun e => e.1 == l') = es.find? (fun e => e.1 == l') := by
  induction es with
  | nil => rfl
  | cons x xs ih =>
    by_cases hx : x.1 = l
    · have hl : (x.1 == l') = false := by simp [hx, h]
      simp only [List.filter_cons, hx, bne_self_eq_false, Bool.false_eq_true, if_false]
      rw [List.find?_cons, hl]; exact ih
    · have hb : (x.1 != l) = true := by simpa using hx
      rw [List.filter_cons_of_pos (by simpa using hx)]
      rw [List.find?_cons, List.find?_cons, ih]

/-- Elsewhere nothing is changed. -/
theorem find?_put {l l' : Location} (h : l ≠ l') (t : FileTree) (e : Entry) :
    (t.put l e).entries.find? (fun e => e.1 == l') = t.entries.find? (fun e => e.1 == l') := by
  have hl : (l == l') = false := by simp [h]
  rw [put, List.find?_cons, hl]
  exact find?_filter_ne h t.entries

theorem lookup_put_of_ne {l l' : Location} (h : l ≠ l') (t : FileTree) (e : Entry) :
    (t.put l e).lookup l' = t.lookup l' := by
  unfold lookup
  split
  · rename_i hroot
    rw [rootMode, rootMode, find?_put (hroot ▸ h)]
  · rw [find?_put h]

end FileTree

end SourceCheck

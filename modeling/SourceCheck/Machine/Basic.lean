import SourceCheck.Json.Value
import SourceCheck.Machine.FileTree
import SourceCheck.Text.Utf8

/-!
# A machine

What the program can see of the machine that it runs on: the files, the working directory, the
environment and the users with their home directories.  Requests about a path go through
`Machine.find`; a refused request names the path as it was written.

* `entry?`, `isFile?`, `isDirectory?`, `exists?`: questions about a path.  A path that leads
  nowhere is a plain answer; only a refusal of another kind fails (a directory on the way that may
  not be searched, a name that is too long).
* `readBytes`, `writeBytes`, `makeDirectories`: the file operations.
* `expandHome`: a leading `~` replaced by a home directory.
-/

namespace SourceCheck

namespace Entry

/-- A regular file. -/
def isFile : Entry → Bool
  | file _ _ | program _ => true
  | _ => false

/-- A directory. -/
def isDirectory : Entry → Bool
  | directory _ => true
  | _ => false

/-- A file that its owner may start. -/
def isExecutableFile : Entry → Bool
  | file mode _ => mode.testBit 6
  | program _ => true
  | _ => false

/-- An entry that its owner may read. -/
def isReadable : Entry → Bool
  | file mode _ | directory mode => mode.testBit 8
  | _ => true

/-- What the owner reads from an entry. -/
def contents : Entry → Except SystemError (List UInt8)
  | file mode bytes => if mode.testBit 8 then .ok bytes else .error .forbidden
  | directory _ => .error .isADirectory
  | program _ | nullDevice | link _ => .ok []

end Entry

namespace Path

/-- The path of a location. -/
def ofLocation (l : Location) : Path := ⟨.root, l⟩

end Path

/-- **A machine.** -/
structure Machine where
  files : FileTree
  /-- The working directory; no component of it is a link. -/
  workingDirectory : Location := []
  /-- The environment, each name once. -/
  environment : List (String × String) := []
  /-- The home directories of the users. -/
  users : List (String × String) := []
  /-- The home directory of the user for whom the program runs, if that user is known. -/
  ownHome : Option String := none
  /-- The most bytes that a file may grow to, if there is a limit. -/
  fileLimit : Option Nat := none
  /-- How deep the documents in files and tool output are followed. -/
  nesting : Depth := .usual
  deriving Repr, DecidableEq

/-- **An action on a machine.**  One that fails keeps what it did before. -/
abbrev FileAction (α : Type) := ExceptT Fault (StateM Machine) α

namespace Machine

/-! ## 1. The environment -/

/-- **The value of an environment variable.** -/
def environmentValue? (m : Machine) (name : String) : Option String :=
  (m.environment.find? fun v => v.1 == name).map (·.2)

/-- Sets an environment variable, or removes it. -/
def setVariable (m : Machine) (name : String) (value : Option String) : Machine :=
  let others := m.environment.filter fun v => v.1 != name
  { m with environment := match value with
      | some v => others ++ [(name, v)]
      | none => others }

/-! ## 2. Following paths -/

/-- Where a path starts. -/
def startOf (m : Machine) (p : Path) : Location := if p.isAbsolute then [] else m.workingDirectory

/-- **Where a path leads.**  With `followLast` a link at the very end is followed too. -/
def find (m : Machine) (p : Path) (followLast : Bool) : Except Fault Place :=
  if p.hasNull then .error .nullCharacter
  else if FileTree.pathLimit ≤ p.text.utf8ByteSize then .error (.system .nameTooLong p.text)
  else match m.files.walk followLast FileTree.linkLimit (m.startOf p) p.parts with
    | .ok place => .ok place
    | .error e => .error (.system e p.text)

/-- Refusals that only say that a path leads nowhere. -/
def leadsNowhere : Fault → Bool
  | .nullCharacter => true
  | .system .missing _ | .system .notADirectory _ | .system .linkLoop _ => true
  | _ => false

/-- **The entry that a path leads to**; `none` if it leads nowhere. -/
def entry? (m : Machine) (p : Path) : Except Fault (Option Entry) :=
  match m.find p true with
  | .ok place => .ok place.entry
  | .error e => if leadsNowhere e then .ok none else .error e

/-- Whether a path leads to an entry with a property. -/
def holds? (m : Machine) (p : Path) (property : Entry → Bool) : Except Fault Bool :=
  (m.entry? p).map fun e => e.any property

/-- **Whether a path leads to anything.** -/
def exists? (m : Machine) (p : Path) : Except Fault Bool := m.holds? p fun _ => true

/-- **Whether a path leads to a regular file.** -/
def isFile? (m : Machine) (p : Path) : Except Fault Bool := m.holds? p Entry.isFile

/-- **Whether a path leads to a directory.** -/
def isDirectory? (m : Machine) (p : Path) : Except Fault Bool := m.holds? p Entry.isDirectory

/-- Whether a path leads to a file that may be started; a refused request counts as no. -/
def isExecutable (m : Machine) (p : Path) : Bool :=
  match m.holds? p Entry.isExecutableFile with
  | .ok b => b
  | .error _ => false

/-! ## 3. Reading and writing -/

/-- **The bytes of the file that a path leads to.** -/
def readBytes (m : Machine) (p : Path) : Except Fault (List UInt8) :=
  match m.find p true with
  | .error e => .error e
  | .ok ⟨_, none⟩ => .error (.system .missing p.text)
  | .ok ⟨_, some e⟩ =>
    match e.contents with
    | .ok bytes => .ok bytes
    | .error e => .error (.system e p.text)

/-- An action that changes the files. -/
def changeFiles (f : FileTree → FileTree) : FileAction Unit :=
  modify fun m => { m with files := f m.files }

/-- Fills a file from its start; what goes beyond the limit is lost, and that is a failure. -/
def fill (l : Location) (mode : Nat) (bytes : List UInt8) : FileAction Unit := do
  match (← get).fileLimit with
  | none => changeFiles (·.put l (.file mode bytes))
  | some limit =>
    changeFiles (·.put l (.file mode (bytes.take limit)))
    if limit < bytes.length then throw .fileTooLarge

/-- **Writes a file**, new or in place of the one that the path leads to. -/
def writeBytes (p : Path) (bytes : List UInt8) : FileAction Unit := do
  let m ← get
  match m.find p true with
  | .error e => throw e
  | .ok ⟨l, none⟩ =>
    if m.files.isWritable l.dropLast then fill l FileTree.fileMode bytes
    else throw (.system .forbidden p.text)
  | .ok ⟨l, some (.file mode _)⟩ =>
    if mode.testBit 7 then fill l mode bytes else throw (.system .forbidden p.text)
  | .ok ⟨_, some (.directory _)⟩ => throw (.system .isADirectory p.text)
  | .ok ⟨_, some (.program _)⟩ => throw (.system .forbidden p.text)
  | .ok ⟨_, some _⟩ => return ()

/-- Makes one directory; its parent must be there and may be written, and it must not be there. -/
def makeDirectory (p : Path) : FileAction Unit := do
  let m ← get
  match m.find p false with
  | .error e => throw e
  | .ok ⟨l, none⟩ =>
    if m.files.isWritable l.dropLast then
      changeFiles (·.put l (.directory FileTree.directoryMode))
    else throw (.system .forbidden p.text)
  | .ok ⟨_, some _⟩ => throw (.system .alreadyThere p.text)

/-- Passes over a failure to make a directory if the directory is there. -/
def unlessThere (p : Path) (e : Fault) : FileAction Unit := do
  match (← get).isDirectory? p with
  | .ok true => return ()
  | .ok false => throw e
  | .error e' => throw e'

/-- Makes one directory unless it is there. -/
def ensureDirectory (p : Path) : FileAction Unit :=
  tryCatch (makeDirectory p) (unlessThere p)

/-- Makes the directory at the beginning of a path with a given number of parts, and before it
those above it. -/
def makeDirectoriesUpTo (p : Path) : Nat → FileAction Unit
  | 0 => ensureDirectory ⟨p.anchor, []⟩
  | n + 1 =>
    let here : Path := ⟨p.anchor, p.parts.take (n + 1)⟩
    tryCatch (makeDirectory here) fun
      | .system .missing _ => do
        makeDirectoriesUpTo p n
        ensureDirectory here
      | e => unlessThere here e

/-- **Makes a directory and those above it**, unless they are there. -/
def makeDirectories (p : Path) : FileAction Unit := makeDirectoriesUpTo p p.parts.length

/-! ## 4. Home directories -/

/-- A path text without slashes at its end. -/
def dropSlashes (s : String) : List Char := (s.toList.reverse.dropWhile (· == '/')).reverse

/-- The home directory that a first part such as `~` or `~name` designates: for the user's own the
environment comes before what is known of the user. -/
def homeOf? (m : Machine) (part : String) : Option String :=
  let home := if part == "~" then (m.environmentValue? "HOME").orElse fun _ => m.ownHome else
    (m.users.find? fun u => "~" ++ u.1 == part).map (·.2)
  home.map fun h => if dropSlashes h = [] then "/" else String.ofList (dropSlashes h)

/-- **A path with a leading `~` replaced by the home directory.** -/
def expandHome (m : Machine) (p : Path) : Except Fault Path :=
  match p.anchor, p.parts with
  | .relative, first :: rest =>
    if first.toList.head? = some '~' then
      match m.homeOf? first with
      | some home =>
        if home.toList.head? = some '~' then .error .homeUnknown
        else .ok ((Path.ofString home).join ⟨.relative, rest⟩)
      | none => .error .homeUnknown
    else .ok p
  | _, _ => .ok p

/-! ## 5. Small facts -/

theorem isAbsolute_ofLocation (l : Location) : (Path.ofLocation l).isAbsolute = true := rfl

/-- Only a path that starts with `~` changes. -/
theorem expandHome_absolute {m : Machine} {p : Path} (h : p.isAbsolute = true) :
    m.expandHome p = .ok p := by
  unfold expandHome
  split
  · rename_i heq _
    simp [Path.isAbsolute, heq] at h
  · rfl

end Machine

end SourceCheck

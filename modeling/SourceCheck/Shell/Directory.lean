import SourceCheck.Machine.Search
import SourceCheck.Shell.Flags

/-!
# The directory of a shell

A shell remembers the place where it is and the name under which it came there; the two differ
behind symbolic links.

* `changeDirectory`: enters another directory.
* `printDirectory`: says where the shell is.
-/

namespace SourceCheck.Shell

/-- A directory as it is named when it is entered from another one. -/
def named (shown : Location) (target : Path) : Location :=
  target.parts.foldl (fun l part => if part == ".." then l.dropLast else l ++ [part])
    (if target.isAbsolute then [] else shown)

/-- The text of a location. -/
def locationText (l : Location) : List Char := bytesOf (Path.ofLocation l).text

/-- Enters a directory. -/
def enter (place shown : Location) (sh : State) : State :=
  let before := locationText sh.frame.shown
  let sh := sh.withFrame fun f => { f with directory := place, shown }
  let sh := (sh.put "OLDPWD" (some before)).put "PWD" (some (locationText shown))
  (sh.expose "PWD").expose "OLDPWD"

/-- Whether the flags ask for the place itself, not for its name; the last one counts. -/
def asksPlace (found : List (Char × List Char)) : Bool :=
  found.getLast?.any fun f => f.1 == 'P'

/-- Whether a target is looked for in other directories too. -/
def isSearched (target : List Char) : Bool :=
  match (Text.fields '/' target).head? with
  | some first => !first.isEmpty && first != ['.'] && first != ['.', '.']
  | none => false

/-- The directories in which a target is looked for, and whether its name is shown then. -/
def placesToTry (target : List Char) (sh : State) : List (List Char × Bool) :=
  let plain := (target, false)
  match sh.value? "CDPATH" with
  | some places =>
    if isSearched target then
      (Text.fields ':' places).map (fun d =>
        (bytesOf (Machine.inDirectory (textOf d) (textOf target)), !d.isEmpty)) ++ [plain]
    else [plain]
  | none => [plain]

/-- Whether a path leads to a directory. -/
def isDirectory (path : List Char) (sh : State) : Bool :=
  match sh.view.isDirectory? (Path.ofString (textOf path)) with
  | .ok b => b
  | .error _ => false

/-- **Changes the directory.** -/
def changeDirectory (arguments : List (List Char)) (sh : State) : State :=
  match flags "LP" arguments with
  | .error problem => sh.failing 2 "cd: " problem
  | .ok (found, words) =>
    let given := words.head?.getD ((sh.value? "HOME").getD [])
    let back := given == ['-']
    let target := if back then (sh.value? "OLDPWD").getD [] else given
    let target := if target.isEmpty then ['.'] else target
    let (path, isFound) := ((placesToTry target sh).find? fun p => isDirectory p.1 sh).getD
      (target, false)
    let path := Path.ofString (textOf path)
    let shown := named sh.frame.shown path
    match sh.machine.find (Path.ofLocation shown) true, sh.view.find path true with
    | .ok ⟨l, some (.directory _)⟩, .ok ⟨place, some (.directory _)⟩ =>
      let sh := if asksPlace found then enter place place sh else enter l shown sh
      if back || isFound then sh.print (locationText sh.frame.shown ++ ['\n']) else sh
    | _, _ => sh.failing 2 "cd: can't cd to " target

/-- **Prints the directory.** -/
def printDirectory (arguments : List (List Char)) (sh : State) : State :=
  match flags "LP" arguments with
  | .error problem => sh.failing 2 "pwd: " problem
  | .ok (found, _) =>
    let place := if asksPlace found then sh.frame.directory else sh.frame.shown
    sh.print (locationText place ++ ['\n'])

end SourceCheck.Shell

import SourceCheck.Shell.Opening
import SourceCheck.Shell.Options
import SourceCheck.Shell.Token

/-!
# Shells within shells

A subshell takes the frame of its shell along.  A shell that is started as a program gets a frame of
its own, in which only the environment, the directory, the streams, the mask and the ignored signals
stay.

* `innerFrame`: the frame of a subshell.
* `newFrame`: the frame of a shell that is a program.
* `shellCall`: what the arguments of such a shell ask for.
-/

namespace SourceCheck.Shell

/-- How a shell's end looks to the shell around it. -/
def outer : Flow → Flow
  | .killed n => .killed n
  | .stopped => .stopped
  | _ => .next

/-- The traps that a subshell keeps: only ignored signals stay. -/
def keptTraps (f : Frame) : List (Nat × List Char) := f.traps.filter fun t => t.2.isEmpty

/-- The frame of a subshell. -/
def innerFrame (f : Frame) : Frame :=
  { f with traps := keptTraps f, inner := true, started := [], ended := [], reached := 1 }

/-- The frame of a subshell that reads or writes something else. -/
def innerFrameWith (number : Nat) (stream : Stream) (f : Frame) : Frame :=
  { innerFrame f with streams := setStream number (some stream) f.streams }

/-- The directories that a shell looks into unless anybody says otherwise. -/
def ownSearchPath : String := "/usr/local/sbin:/usr/local/bin:/usr/sbin:/usr/bin:/sbin:/bin"

/-- Variables with a value for those that have none. -/
def withDefaults (defaults : List (String × List Char)) (bindings : Table (List Char)) :
    Table (List Char) :=
  defaults.foldl (fun t d => if (Table.get? t d.1).isSome then t else Table.put d.1 d.2 t) bindings

/-- Variables with new values for some of them. -/
def withValues (values : List (String × List Char)) (bindings : Table (List Char)) :
    Table (List Char) :=
  values.foldl (fun t v => Table.put v.1 v.2 t) bindings

/-- The environment as variables: entries without a proper name are dropped. -/
def imported (environment : Table (List Char)) : Table (List Char) :=
  environment.filter fun v => isName v.1.toList

/-- The variables of a new shell in a directory. -/
def newBindings (place : Location) (environment : Table (List Char)) : Table (List Char) :=
  withValues [("IFS", " \t\n".toList), ("OPTIND", ['1']),
      ("PPID", (toString (State.ownNumber - 1)).toList),
      ("PWD", bytesOf (Path.ofLocation place).text)]
    (withDefaults [("PATH", ownSearchPath.toList), ("PS1", "$ ".toList), ("PS2", "> ".toList),
      ("PS4", "+ ".toList)] environment)

/-- The frame of a process that is no shell yet. -/
def startFrame (environment : Table (List Char)) (place : Location)
    (streams : List (Nat × Stream)) : Frame :=
  { name := [], arguments := [], bindings := environment, exported := Table.keys environment
    fixed := [], functions := [], aliases := [], located := [], hidden := none
    directory := place, shown := place, streams, mask := 0o022, options := []
    optionPlace := State.firstOption, status := 0, lastOutput := none, beforeTrap := none
    lastJob := none, started := [], ended := []
    inner := false, traps := [], verdict := .next, within := [], loops := 0, tested := 0, calls := 0
    depth := 0, lineFeeds := 0, below := 0, reached := 0 }

/-- A new shell's frame for a program started from another one. -/
def newFrame (sh : State) (name : List Char) (arguments : List (List Char))
    (options : List Char) : Frame :=
  let environment := imported sh.environment
  let start := startFrame environment sh.frame.directory sh.frame.streams
  { start with
    name, arguments, options, bindings := newBindings sh.frame.directory environment
    exported := "PWD" :: start.exported.filter (· != "PWD")
    mask := sh.frame.mask, traps := keptTraps sh.frame, depth := sh.frame.depth + 1 }

/-- **What a shell is called to run.** -/
structure ShellCall where
  options : List Char
  /-- The name that it goes by, if not the one it was called by. -/
  name : Option (List Char)
  arguments : List (List Char)
  script : List Char
  /-- Whether the script is read from a file or a stream. -/
  isFile : Bool
  /-- The shell from which the script was read. -/
  reader : State

/-- The options that some words set, and whether the script stands among the arguments. -/
def startOptions : List OptionStep → List Char → Bool → Except (List Char) (List Char × Bool)
  | [], letters, command => .ok (letters, command)
  | .turn on letter :: steps, letters, command =>
    startOptions steps (turned on letter letters) command
  | .command :: steps, letters, _ => startOptions steps letters true
  | .illegal words :: _, _, _ => .error ("Illegal option ".toList ++ words)
  | _ :: steps, letters, command => startOptions steps letters command

/-- What the arguments of a shell ask for. -/
def shellCall (sh : State) (words : List (List Char)) : Except (List Char) ShellCall :=
  let r := OptionReading.ofWords true words
  match startOptions r.steps [] false, r.rest with
  | .error problem, _ => .error problem
  | .ok (_, true), [] => .error "-c requires an argument".toList
  | .ok (letters, true), script :: rest =>
    .ok ⟨letters, rest.head?, rest.tail, script, false, sh⟩
  | .ok (letters, false), rest =>
    let fromStream := fun (rest : List (List Char)) =>
      let script := (sh.unread? 0).getD []
      (⟨turned true 's' letters, none, rest, script, true,
        sh.advance 0 script.length⟩ : ShellCall)
    match letters.contains 's', rest with
    | true, rest => .ok (fromStream rest)
    | false, [] => .ok (fromStream [])
    | false, file :: rest =>
      match sh.view.readBytes (Path.ofString (textOf file)) with
      | .ok bytes => .ok ⟨letters, some file, rest, ofBytes bytes, true, sh⟩
      | .error (.system .isADirectory _) => .ok ⟨letters, some file, rest, [], true, sh⟩
      | .error f =>
        .error ("cannot open ".toList ++ file ++ ": ".toList ++ (readingWords f).toList)

end SourceCheck.Shell

import SourceCheck.Check.Engine
import SourceCheck.Library
import SourceCheck.Report

/-!
# The editor's hook

An editor tells about an edit with the name of an event and a JSON document.  If the event is an
edit of a file that is there, the file is checked and the editor gets a message.  Whatever else
comes, the hook ends quietly, so that an edit is never disturbed.

* `HookEvent.ofPayload?`: the event that a document describes.
* `Hook.handle`: one call of the hook.
-/

namespace SourceCheck

/-- **An editor's action on a file.** -/
structure HookEvent where
  /-- The editor's tool that was used. -/
  toolName : String
  /-- The file that it touched. -/
  filePath : String
  /-- The directory that the editor works in. -/
  directory : String
  deriving DecidableEq, Repr

namespace HookEvent

/-- A text at a key. -/
def textAt? (key : String) (v : Json) : Option String :=
  match v.member? key with
  | some (.string s) => some s
  | _ => none

/-- The event that a document describes; members that are not asked for do not matter. -/
def ofDocument? (v : Json) : Option HookEvent := do
  let toolName ← textAt? "tool_name" v
  let input ← v.member? "tool_input"
  let filePath ← textAt? "file_path" input
  let directory ← textAt? "cwd" v
  return { toolName, filePath, directory }

/-- **The event that a payload describes**, if it is one. -/
def ofPayload? [Library] (payload : String) : Option HookEvent :=
  (Library.eventDocument? payload).bind ofDocument?

/-- The tools that change a file. -/
def editingTools : List String := ["Edit", "MultiEdit", "Write"]

/-- The event that comes after a tool was used. -/
def afterUse : String := "PostToolUse"

/-- **Whether an event is an edit.** -/
def isEdit (e : HookEvent) (eventName : String) : Bool :=
  eventName == afterUse && editingTools.contains e.toolName

/-- **The file that was touched**; a relative path is seen from the editor's directory. -/
def target (e : HookEvent) (m : Machine) : Except Fault Path :=
  (m.expandHome (Path.ofString e.filePath)).map fun p => (Path.ofString e.directory).join p

end HookEvent

/-- **How a call of the hook ends.** -/
structure HookOutcome where
  exitCode : Nat
  /-- What the editor gets. -/
  message : String
  /-- The result of the check, if there was one. -/
  result : Option CheckResult
  deriving DecidableEq, Repr

namespace Hook

variable {τ : Type}

/-- The outcome when there is nothing to check. -/
def quiet : HookOutcome := ⟨CheckResult.cleanCode, "", none⟩

/-- The outcome of a check. -/
def outcome (r : CheckResult) : Except Fault HookOutcome := do
  return ⟨r.exitCode, (← Report.message? r).getD "", some r⟩

/-- The file to check, if the event is an edit of a file that is there. -/
def fileToCheck? (m : Machine) (eventName : String) (e : HookEvent) : Option Path :=
  if e.isEdit eventName then
    match e.target m with
    | .ok file =>
      match m.isFile? file with
      | .ok true => some file
      | _ => none
    | .error _ => none
  else none

/-- **One call of the hook.**  The engine is made only when there is a file to check. -/
def handle [Library] (eventName payload : String) (makeEngine : Traced τ (Engine τ)) :
    Traced τ HookOutcome := do
  match HookEvent.ofPayload? payload with
  | none => return quiet
  | some e =>
    match fileToCheck? (← get).1.machine eventName e with
    | none => return quiet
    | some file =>
      let engine ← makeEngine
      match outcome (← engine.check file (some (Path.ofString e.directory))) with
      | .ok o => return o
      | .error f => throw f

end Hook

end SourceCheck

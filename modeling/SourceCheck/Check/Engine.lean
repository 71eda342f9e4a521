import SourceCheck.Backend
import SourceCheck.Check.Result
import SourceCheck.Check.Scratch
import SourceCheck.Machine.Resolve
import SourceCheck.Number.Shortest
import SourceCheck.Project.Root
import SourceCheck.Project.Tool
import SourceCheck.Registry
import SourceCheck.Settings.Basic

/-!
# Checking a file

A check finds the file's language, asks whether it is switched off, finds the project and the tool,
has the arguments written, runs the tool once, and reads its output.  Every step may be the last;
each way to end has its status.  What backends get wrong is logged and contained.  Nothing else is:
a check fails with what the search for the tool, the scratch directory or the runner fails with, and
with a failure of a backend that cannot be told.

* `Engine.check`: the check of one file.
-/

namespace SourceCheck

/-- **What a check works with.** -/
structure Engine (τ : Type) where
  settings : Settings
  registry : Registry
  /-- What each language brings along. -/
  backend : Language → Backend τ
  runner : Runner τ
  scratch : Scratch τ := .standard

namespace Engine

variable {τ : Type}

/-! ## 1. The steps of a check -/

/-- The root for a check: the given one if it is a directory, else the root of the file's
project. -/
def rootFor (detect : Path → Action τ Bool) (file : Path) (given : Option Path) :
    Action τ Path := do
  match given with
  | none => Project.findRoot detect file
  | some root =>
    if ← Action.ask fun m => m.isDirectory? root then Action.ask fun m => m.resolve root
    else Project.findRoot detect file

/-- The words for a failure of a backend; there may be none. -/
def wordsFor (f : Fault) : Traced τ String :=
  match f.text with
  | .ok words => return words
  | .error g => throw g

/-- The log record about a backend that fails in some stage. -/
def defectRecord (stage : String) (l : Language) (words : String) : LogRecord :=
  ⟨.error, .engine, stage ++ " for " ++ l.name ++ " failed: " ++ words⟩

/-- The end of a check whose backend fails in some stage. -/
def defect (file : Path) (l : Language) (stage : String) (f : Fault) : Traced τ CheckResult := do
  let words ← wordsFor f
  Traced.logAll [defectRecord stage l words]
  return .backendDefect file l words

/-- The command that checks a file. -/
def command (e : Engine τ) (l : Language) (file root : Path) (tool : String) (scratch : Path) :
    Action τ Command := do
  let configured ← (e.backend l).detect root
  let arguments ← (e.backend l).arguments { file, root, tool, configured, scratch }
  return { arguments := tool :: arguments, directory := some root, environment := none
           timeout := some e.settings.timeout }

/-- **Runs the tool once**, or ends the check because its arguments could not be written. -/
def runTool (e : Engine τ) (l : Language) (file root : Path) (tool : String) :
    Traced τ (Except CheckResult RunResult) :=
  e.scratch.around fun scratch => do
    match ← Traced.attempt (e.command l file root tool scratch) with
    | .error f => return .error (← defect file l "argument builder" f)
    | .ok c => return .ok (← Traced.call e.runner c)

/-- The log record about an output parser that fails. -/
def parserRecord (l : Language) (words : String) : LogRecord :=
  ⟨.error, .engine, "output parser for " ++ l.name ++ " failed: " ++ words⟩

/-- The end of a check whose output parser fails. -/
def unreadable (file : Path) (l : Language) (f : Fault) : Traced τ CheckResult := do
  let words ← wordsFor f
  Traced.logAll [parserRecord l words]
  return .parserDefect file l words

/-- **Reads the tool's output.** -/
def readOutput (e : Engine τ) (l : Language) (o : ToolOutput) : Traced τ CheckResult := do
  match ← Traced.attempt ((e.backend l).findings o) with
  | .error f => unreadable o.file l f
  | .ok findings =>
    match Finding.diagnostics? findings with
    | some ds => return .completed o.file l ds
    | none => unreadable o.file l (.foreignFindings l.name)

/-- What a timeout says. -/
def timeoutDetail (e : Engine τ) (l : Language) : String :=
  l.tool ++ " exceeded " ++ e.settings.timeout.oneDecimal ++ "s"

/-- **The end of a check after the tool ran.** -/
def afterRun (e : Engine τ) (l : Language) (file root : Path) (r : RunResult) :
    Traced τ CheckResult :=
  match r.status with
  | .notFound => return .toolNotFound file l
  | .timedOut => return .toolTimeout file l (e.timeoutDetail l)
  | .completed => e.readOutput l { stdout := r.stdout, stderr := r.stderr, file, root }

/-- The check of a file whose project is known. -/
def checkIn (e : Engine τ) (l : Language) (file root : Path) : Traced τ CheckResult := do
  match ← Traced.lift (Action.ask fun m => m.resolveTool l root) with
  | none => return .toolNotFound file l
  | some tool =>
    match ← e.runTool l file root tool with
    | .error v => return v
    | .ok r => e.afterRun l file root r

/-- The check of a file whose language is known. -/
def checkAs (e : Engine τ) (l : Language) (file : Path) (given : Option Path) :
    Traced τ CheckResult := do
  match ← Traced.attempt (rootFor (e.backend l).detect file given) with
  | .error f => defect file l "project detection" f
  | .ok root => e.checkIn l file root

/-! ## 2. The check -/

/-- The resolved path of a file argument, with the home directory filled in. -/
def locate (m : Machine) (file : Path) : Except Fault Path :=
  match m.expandHome file with
  | .ok p => m.resolve p
  | .error f => .error f

/-- **The check of one file.** -/
def check (e : Engine τ) (file : Path) (given : Option Path) : Traced τ CheckResult := do
  let file ← Traced.lift (Action.ask fun m => locate m file)
  match e.registry.resolve file with
  | none => return .unsupported file
  | some l =>
    if e.settings.isDisabled l then return .disabled file l else e.checkAs l file given

end Engine

end SourceCheck

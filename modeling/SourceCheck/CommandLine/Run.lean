import SourceCheck.Builtin.Backend
import SourceCheck.CommandLine.Invocation
import SourceCheck.Console
import SourceCheck.Hook
import SourceCheck.Probe
import SourceCheck.Execution.Standard
import SourceCheck.Settings.Store

/-!
# The commands

Each command gives an exit code and what is written to the two streams.

* `CommandLine.run`: what an invocation does.
-/

namespace SourceCheck.CommandLine

variable {τ : Type}

/-- **What a command gives.** -/
structure Outcome where
  exitCode : Nat
  stdout : String
  stderr : String
  deriving DecidableEq, Repr

/-- **What the commands find around them.** -/
structure Setting (τ : Type) where
  /-- Everything on standard input. -/
  stdin : String
  /-- Whether the streams are terminals. -/
  terminal : Bool
  /-- Who runs the tools. -/
  runner : Runner τ := Execution.run
  /-- Where the tools may write files. -/
  scratch : Scratch τ := .standard

namespace Outcome

/-- A failure with a message. -/
def failure (s : Setting τ) (message : String) : Outcome :=
  ⟨1, "", Console.line s.terminal ⟨"❌ " ++ message, some .red⟩⟩

end Outcome

/-- The settings of the settings file; what is to be logged about it is logged. -/
def loadSettings [Library] : Traced τ Settings := do
  let (settings, logs) ← Traced.lift (Action.ask fun m => Settings.load m none)
  Traced.logAll logs
  return settings

/-- **The engine of the command line**: freshly read settings, and the languages that come along. -/
def engine [Library] (s : Setting τ) : Traced τ (Engine τ) := do
  let settings ← loadSettings
  return { settings, registry := Builtin.registry, backend := Builtin.backendOf
           runner := s.runner, scratch := s.scratch }

/-- The result for a file, with freshly read settings. -/
def checkFile [Library] (s : Setting τ) (path : Path) : Traced τ CheckResult := do
  let e ← engine s
  e.check path none

/-- Checks a file and reports to a person. -/
def check [Library] (s : Setting τ) (file : String) : Traced τ Outcome := do
  let path := Path.ofString file
  if ← Traced.lift (Action.ask fun m => m.isFile? path) then
    let r ← checkFile s path
    match Report.lines r with
    | .ok lines => return ⟨r.exitCode, Console.lines s.terminal lines, ""⟩
    | .error f => throw f
  else return .failure s ("File not found: " ++ path.text)

/-- Answers the editor. -/
def hook [Library] (s : Setting τ) (event : String) : Traced τ Outcome := do
  let outcome ← Hook.handle event s.stdin (engine s)
  return ⟨outcome.exitCode, "", if outcome.message == "" then "" else outcome.message ++ "\n"⟩

/-! ## 1. Switches -/

/-- The name of the global switch. -/
def allLanguages : String := "all"

/-- **The switch that a text names**, if it names one. -/
def switchOf? (r : Registry) (language : String) : Option Switch :=
  if Language.normalIdentifier language == allLanguages then some .all
  else (r.find language).map .language

/-- What is said about a text that names no switch. -/
def unknownLanguage (r : Registry) (language : String) : String :=
  "Unknown language '" ++ language ++ "'. Known languages: " ++
    UsageProblem.joined ", " (r.languages.map (·.code)) ++ ", " ++ allLanguages

/-- What a switch is called. -/
def switchLabel : Switch → String
  | .all => "All language"
  | .language l => l.name

/-- What is said when a switch has been turned. -/
def switchedLine (target : Switch) (enabled : Bool) (file : Path) : ReportLine :=
  ⟨"✅ " ++ switchLabel target ++ " checking " ++ (if enabled then "enabled" else "disabled") ++
    " (saved to " ++ file.text ++ ")", some .green⟩

/-- The reminder that everything is still switched off. -/
def stillDisabledLine : ReportLine :=
  ⟨"⚠️  All language checking is still disabled globally; run 'polycheck enable all'",
    some .yellow⟩

/-- What is said after a switch has been turned. -/
def switchedLines (target : Switch) (enabled : Bool) (s : Settings) (file : Path) :
    List ReportLine :=
  switchedLine target enabled file ::
    if enabled && target != .all && s.disable then [stillDisabledLine] else []

/-- Writes the settings; that they cannot be written is a value. -/
def saveSettings (s : Settings) : Traced τ (Except String Path) := do
  match ← Traced.attempt (Action.act (Settings.save s none)) with
  | .ok file => return .ok file
  | .error (.settingsUnwritable path cause) =>
    return .error (Fault.settingsUnwritable path cause).message
  | .error f => throw f

/-- **Turns a switch and writes the settings.** -/
def toggle [Library] (s : Setting τ) (language : String) (enabled : Bool) : Traced τ Outcome := do
  match switchOf? Builtin.registry language with
  | none => return .failure s (unknownLanguage Builtin.registry language)
  | some target =>
    let settings := (← loadSettings).switch target enabled
    match ← saveSettings settings with
    | .error message => return .failure s message
    | .ok file =>
      return ⟨0, Console.lines s.terminal (switchedLines target enabled settings file), ""⟩

/-! ## 2. The status -/

/-- The status table of the languages that come along. -/
def statusLines [Library] (s : Setting τ) : Traced τ (List String) := do
  let settings ← loadSettings
  let probes ← Probe.probe s.runner settings Builtin.registry.languages
  return Probe.statusLines probes settings

/-- The status table as it is written. -/
def statusText [Library] (s : Setting τ) : Traced τ String := do
  return UsageProblem.joined "\n" (← statusLines s) ++ "\n"

/-- How the program is used. -/
def usage : String :=
  "polycheck - file-based diagnostics for editor hooks\n\n" ++
  "Usage: polycheck <command> [args]\n\n" ++
  "Commands:\n" ++
  "  hook <event>             Handle editor hook events (payload on stdin)\n" ++
  "  check <file>             Check an individual file for errors/warnings\n" ++
  "  disable <language>       Disable checking for a language (or 'all')\n" ++
  "  enable <language>        Enable checking for a language (or 'all')\n" ++
  "  status                   Show tool availability\n" ++
  "  help                     Show this help message\n"

/-- **What an invocation does** if the terminal shows styles. -/
def perform [Library] (s : Setting τ) : Invocation → Traced τ Outcome
  | .check file => check s file
  | .hook event => hook s event
  | .enable language => toggle s language true
  | .disable language => toggle s language false
  | .status => return ⟨0, ← statusText s, ""⟩
  | .usage => return ⟨0, usage, ""⟩
  | .help => return ⟨0, usage ++ "\n" ++ (← statusText s), ""⟩

/-- **What an invocation does.**  A terminal that shows no styles is like no terminal. -/
def run [Library] (s : Setting τ) (i : Invocation) : Traced τ Outcome := do
  let kind := (← get).1.machine.environmentValue? Console.kindVariable
  perform { s with terminal := s.terminal && Console.showsStyles kind } i

end SourceCheck.CommandLine

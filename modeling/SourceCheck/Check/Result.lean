import SourceCheck.Diagnostic
import SourceCheck.Language
import SourceCheck.Path

/-!
# The result of a check

A check ends in one of seven ways.  Only a completed one has diagnostics, and only diagnostics that
need attention give an exit code other than zero.
-/

namespace SourceCheck

/-- **How a check ended.** -/
inductive CheckStatus
  /-- The tool ran and its output was read. -/
  | completed
  /-- No language owns the file's suffix. -/
  | unsupported
  /-- The language is switched off. -/
  | disabled
  /-- The tool is not there. -/
  | toolNotFound
  /-- The tool took too long. -/
  | toolTimeout
  /-- The tool's output could not be read. -/
  | parserDefect
  /-- The backend could not prepare the check. -/
  | backendDefect
  deriving DecidableEq, Repr

namespace CheckStatus

/-- The word for a status. -/
def word : CheckStatus → String
  | completed => "completed"
  | unsupported => "unsupported-extension"
  | disabled => "checking-disabled"
  | toolNotFound => "tool-not-found"
  | toolTimeout => "tool-timeout"
  | parserDefect => "parser-defect"
  | backendDefect => "backend-defect"

/-- Every status. -/
def all : List CheckStatus :=
  [completed, unsupported, disabled, toolNotFound, toolTimeout, parserDefect, backendDefect]

/-- The status that a word stands for. -/
def ofWord? (s : String) : Option CheckStatus := all.find? fun c => c.word == s

end CheckStatus

/-- **The result of a check.** -/
structure CheckResult where
  file : Path
  /-- The name of the file's language, if it has one. -/
  language : Option String
  status : CheckStatus
  diagnostics : List Diagnostic
  /-- Whether the tool was there. -/
  toolAvailable : Bool
  tool : Option String
  detail : Option String
  deriving DecidableEq, Repr

namespace CheckResult

/-- How many diagnostics there are of each severity. -/
def tally (r : CheckResult) : Tally := Tally.of r.diagnostics

/-- The exit code when nothing needs attention. -/
def cleanCode : Nat := 0

/-- The exit code when something needs attention. -/
def attentionCode : Nat := 2

/-- **The exit code for a result.** -/
def exitCode (r : CheckResult) : Nat :=
  if r.tally.needsAttention then attentionCode else cleanCode

/-! ## 1. Results by status -/

/-- No language owns the file's suffix. -/
def unsupported (file : Path) : CheckResult :=
  ⟨file, none, .unsupported, [], false, none, none⟩

/-- The language is switched off. -/
def disabled (file : Path) (l : Language) : CheckResult :=
  ⟨file, some l.name, .disabled, [], false, some l.tool, none⟩

/-- The tool is not there; the hint says how to get it. -/
def toolNotFound (file : Path) (l : Language) : CheckResult :=
  ⟨file, some l.name, .toolNotFound, [], false, some l.tool,
    if l.installHint == "" then none else some l.installHint⟩

/-- The tool took too long. -/
def toolTimeout (file : Path) (l : Language) (detail : String) : CheckResult :=
  ⟨file, some l.name, .toolTimeout, [], true, some l.tool, some detail⟩

/-- The tool's output could not be read. -/
def parserDefect (file : Path) (l : Language) (detail : String) : CheckResult :=
  ⟨file, some l.name, .parserDefect, [], true, some l.tool, some detail⟩

/-- The backend could not prepare the check. -/
def backendDefect (file : Path) (l : Language) (detail : String) : CheckResult :=
  ⟨file, some l.name, .backendDefect, [], false, some l.tool, some detail⟩

/-- The tool ran and its output was read. -/
def completed (file : Path) (l : Language) (ds : List Diagnostic) : CheckResult :=
  ⟨file, some l.name, .completed, ds, true, some l.tool, none⟩

/-! ## 2. Exit codes -/

end CheckResult

end SourceCheck

import SourceCheck.Check.Result
import SourceCheck.Json.Writer

/-!
# Reports

A result is reported in two ways: as lines for a person, and as one message for an editor.  The
message is a JSON document inside an escape sequence of the terminal; nothing is sent when nothing
needs attention.  Neither can be made of a position with too many digits.

* `Report.lines`: the report for a person.
* `Report.message?`: the message for an editor.
-/

namespace SourceCheck

/-- **How a line is set off on a terminal.** -/
inductive Style
  | boldRed
  | red
  | green
  | yellow
  | cyan
  | dim
  deriving DecidableEq, Repr

/-- **A line of a report.** -/
structure ReportLine where
  text : String
  style : Option Style
  deriving DecidableEq, Repr

namespace Report

/-! ## 1. Words -/

/-- What a report of findings that need attention starts with. -/
def failureMarker : String := "✗"

/-- What any other report of findings starts with. -/
def successMarker : String := "✓"

/-- **The verdict on a tally.** -/
def summary (t : Tally) : String :=
  if t.needsAttention then
    failureMarker ++ " " ++ toString t.errors ++ " error(s), " ++ toString t.warnings ++
      " warning(s)"
  else if t.total == 0 then successMarker ++ " No issues found"
  else successMarker ++ " No errors or warnings (" ++ toString t.infos ++ " info)"

/-- A text, if there is one and it is not empty. -/
def nonEmpty? : Option String → Option String
  | some s => if s == "" then none else some s
  | none => none

/-- **One diagnostic on a line.** -/
def diagnosticLine (d : Diagnostic) : Except Fault String := do
  let code := match nonEmpty? d.code with
    | some c => " (" ++ c ++ ")"
    | none => ""
  let line ← Number.writeInteger d.line.value
  let column ← Number.writeInteger d.column.value
  return "  [" ++ d.severity.word ++ "] " ++ line ++ ":" ++ column ++ ": " ++ d.message ++ code

/-- The language's name in a report. -/
def languageName (r : CheckResult) : String := (nonEmpty? r.language).getD "Unknown"

/-- The tool's name in a report. -/
def toolName (r : CheckResult) : String := r.tool.getD "None"

/-- The hint behind the tool's name. -/
def hint (r : CheckResult) : String :=
  match nonEmpty? r.detail with
  | some d => " (" ++ d ++ ")"
  | none => ""

/-- **What is said instead of findings** when a check did not complete. -/
def statusMessage? (r : CheckResult) : Option String :=
  match r.status with
  | .completed => none
  | .toolNotFound =>
    some (languageName r ++ " checker not installed: " ++ toolName r ++ hint r)
  | .toolTimeout => some (languageName r ++ " check timed out (" ++ toolName r ++ ")")
  | .parserDefect => some (languageName r ++ " output parser failed (" ++ toolName r ++ ")")
  | .backendDefect =>
    some (languageName r ++ " backend failed to prepare the check (" ++ toolName r ++ ")")
  | .disabled => some (languageName r ++ " checking is disabled")
  | .unsupported => some ("No checker registered for " ++ r.file.name)

/-! ## 2. The report for a person -/

/-- The style of a severity. -/
def styleOf : Severity → Style
  | .error => .red
  | .warning => .yellow
  | .info => .cyan

/-- The line for a check that did not complete. -/
def statusLine (r : CheckResult) (message : String) : ReportLine :=
  ⟨message, some (if r.status = .unsupported then .dim else .yellow)⟩

/-- The line with the verdict. -/
def summaryLine (r : CheckResult) : ReportLine :=
  ⟨summary r.tally, some (if r.tally.needsAttention then .boldRed else .green)⟩

/-- The line for a finding. -/
def findingLine (d : Diagnostic) : Except Fault ReportLine := do
  return ⟨← diagnosticLine d, some (styleOf d.severity)⟩

/-- **The report for a person**: a verdict and every diagnostic in order, or one line that tells
why there are none. -/
def lines (r : CheckResult) : Except Fault (List ReportLine) :=
  match statusMessage? r with
  | some message => return [statusLine r message]
  | none => return summaryLine r :: (← r.diagnostics.mapM findingLine)

/-! ## 3. The message for an editor -/

/-- What an editor's terminal takes for the start of a message. -/
def messageStart : String := "\x1b]633;E;"

/-- What it takes for the end. -/
def messageEnd : String := "\x07"

/-- A text as a message. -/
def wrapped (body : String) : String := messageStart ++ body ++ messageEnd

/-- A text, or the document's null. -/
def textOrNull : Option String → Json
  | some s => .string s
  | none => .null

/-- A diagnostic in a message. -/
def diagnosticDocument (d : Diagnostic) : Json :=
  let code : Json.Members := match nonEmpty? d.code with
    | some c => [("code", .string c)]
    | none => []
  .object ([("line", .int d.line.value), ("column", .int d.column.value),
    ("severity", .string d.severity.word), ("message", .string d.message)] ++ code)

/-- The document about findings. -/
def findingsDocument (r : CheckResult) : Json :=
  .object [("file", .string r.file.text), ("language", textOrNull r.language),
    ("summary", .string (summary r.tally)), ("errors", .int r.tally.errors),
    ("warnings", .int r.tally.warnings),
    ("diagnostics", .array (r.diagnostics.map diagnosticDocument))]

/-- The document about a check that did not complete. -/
def statusDocument (r : CheckResult) : Json :=
  .object [("file", .string r.file.text), ("language", textOrNull r.language),
    ("status", .string r.status.word), ("summary", textOrNull (statusMessage? r))]

/-- **The document for an editor**, if there is anything to tell. -/
def document? (r : CheckResult) : Option Json :=
  match r.status with
  | .unsupported | .disabled => none
  | .completed => if r.tally.needsAttention then some (findingsDocument r) else none
  | _ => some (statusDocument r)

/-- **The message for an editor**, if there is anything to tell. -/
def message? (r : CheckResult) : Except Fault (Option String) :=
  match document? r with
  | some v => (Json.compact v).map fun body => some (wrapped body)
  | none => .ok none

/-! ## 4. Small facts -/

theorem statusMessage?_eq_none_iff (r : CheckResult) :
    statusMessage? r = none ↔ r.status = .completed := by
  unfold statusMessage?
  split <;> simp_all

end Report

end SourceCheck

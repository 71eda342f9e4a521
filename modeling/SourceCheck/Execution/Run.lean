import SourceCheck.Execution.System
import SourceCheck.Number.Shortest

/-!
# Running a command

A command that is worth trying is given to the system.  One that the system finds nothing to start
for is not there; any other refusal is a failure.  One that is started is waited for up to its
deadline, if that can be waited for, and stopped then.

* `Execution.refusal?`: the commands that are not even tried.
* `Execution.deadlineFault?`: the deadlines that cannot be waited for.
* `Execution.runOn`: runs a command on a system.
-/

namespace SourceCheck.Execution

open Number (Binary64)

/-! ## 1. What is not tried -/

/-- Whether a text holds the null character. -/
def hasNull (s : String) : Bool := s.toList.contains '\x00'

/-- The directory that a command names, if it is none. -/
def badDirectory? (m : Machine) (c : Command) : Except Fault (Option Path) :=
  match c.directory with
  | none => .ok none
  | some d =>
    match m.isDirectory? d with
    | .ok true => .ok none
    | .ok false => .ok (some d)
    | .error f => .error f

/-- **Why a command is not even tried**, if it is not. -/
def refusal? (m : Machine) (c : Command) : Option Fault :=
  if c.arguments = [] then some .emptyCommand
  else match badDirectory? m c with
    | .error f => some f
    | .ok (some d) => some (.noWorkingDirectory d.text)
    | .ok none =>
      let environment := c.environment.getD []
      if environment.any fun v => v.1.toList.contains '=' then some .badVariableName
      else if c.arguments.any hasNull || environment.any fun v => hasNull v.1 || hasNull v.2 then
        some .nullCharacter
      else none

/-! ## 2. Deadlines -/

/-- The milliseconds of a deadline, rounded up. -/
def milliseconds (m : Nat) (e : Int) : Nat :=
  let (num, den) := Binary64.ratio m e
  (num * 1000 + den - 1) / den

/-- The most milliseconds that can be waited for. -/
def waitLimit : Nat := 2147483647

/-- The most milliseconds that can be expressed at all. -/
def clockLimit : Nat := 9223372036854

/-- The words for a deadline that is too far away. -/
def tooFar (m : Nat) (e : Int) : String :=
  if milliseconds m e ≤ clockLimit then "timeout is too large"
  else
    let (num, den) := Binary64.ratio m e
    match Binary64.ofRatio false (num * 1000) den with
    | .infinity _ => "cannot convert float infinity to integer"
    | _ => "timestamp too large to convert to C _PyTime_t"

/-- Why a deadline cannot be waited for, if it cannot.  One that is over already can. -/
def deadlineFault? : Option Binary64 → Option Fault
  | some .nan => some (.noWholePart false)
  | some (.infinity false) => some (.deadlineTooFar "cannot convert float infinity to integer")
  | some (.finite false m e) =>
    if milliseconds m e ≤ waitLimit then none else some (.deadlineTooFar (tooFar m e))
  | _ => none

/-! ## 3. What comes of a command -/

/-- What stands on a stream, as text: what is no text is replaced, and all line ends become one. -/
def textOf (bytes : List UInt8) : String :=
  String.ofList (Text.Utf8.unifyLineEnds (Text.Utf8.decodeLossy bytes))

/-- What stands behind the errors of a command that was stopped. -/
def timeoutNote (timeout : Binary64) : String :=
  "Command timed out after " ++ timeout.oneDecimal ++ "s"

/-- The return code of a command that was stopped. -/
def timeoutCode : Int := 124

/-- The return code of a command that was not there. -/
def notFoundCode : Int := 127

/-- **What came of a command that ended.** -/
def endedResult (c : Command) (code : Int) (printed : Printed) : RunResult :=
  ⟨c.arguments, code, textOf printed.stdout, textOf printed.stderr, .completed⟩

/-- **What came of a command that was stopped.** -/
def stoppedResult (c : Command) (timeout : Binary64) (printed : Printed) : RunResult :=
  let note := timeoutNote timeout
  let stderr := textOf printed.stderr
  ⟨c.arguments, timeoutCode, textOf printed.stdout,
    if stderr == "" then note else stderr ++ "\n" ++ note, .timedOut⟩

/-- **What came of a command that was not there.** -/
def notFoundResult (c : Command) : RunResult :=
  ⟨c.arguments, notFoundCode, "", "", .notFound⟩

/-- What came of a command that was started. -/
def settled (c : Command) : Ending c.timeout → Except Fault RunResult
  | .overdue _ _ (.error e) => .error (.refused e)
  | .ended code printed =>
    match deadlineFault? c.timeout with
    | some f => .error f
    | none => .ok (endedResult c code printed)
  | .overdue limit _ (.ok printed) =>
    match deadlineFault? c.timeout with
    | some f => .error f
    | none => .ok (stoppedResult c limit printed)

/-- **What is made of the system's answer.** -/
def madeOf (c : Command) : Except Refusal (Ending c.timeout) → Except Fault RunResult
  | .error refusal => if refusal.isAbsence then .ok (notFoundResult c) else .error refusal.fault
  | .ok ending => settled c ending

/-- **Runs a command** on a system. -/
def runOn {τ : Type} (system : System τ) : Runner τ := fun c => do
  let w ← get
  match refusal? w.machine c with
  | some f => throw f
  | none =>
    let (answer, after) := system c w
    set after
    match madeOf c answer with
    | .ok r => return r
    | .error f => throw f

end SourceCheck.Execution

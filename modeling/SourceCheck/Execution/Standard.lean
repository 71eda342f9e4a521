import SourceCheck.Execution.Run
import SourceCheck.Shell.Run

/-!
# A system of our own

The programs of this system are a shell and two small ones (`Program`), and its clock is a number.
A program is looked for on the search path of the command, started in the directory of the command,
and watched until it and everybody who holds its streams has ended.  At the deadline all of them are
stopped.  A command that ends in time takes its background jobs with it.

* `Execution.standard`: the system.
* `Execution.run`: runs a command on it.
-/

namespace SourceCheck.Execution

open Number (Binary64)
open Shell (Flow Emission Job)

/-! ## 1. What a command sees of the machine -/

/-- The machine as a command sees it. -/
def viewOf (m : Machine) (c : Command) : Machine :=
  match c.directory with
  | none => m
  | some d =>
    match m.find d true with
    | .ok place => { m with workingDirectory := place.location }
    | .error _ => m

/-- The environment of a command. -/
def environmentOf (m : Machine) (c : Command) : List (String × String) :=
  c.environment.getD m.environment

/-- Where a command's program is looked for. -/
def searchPathOf (environment : List (String × String)) : String :=
  ((environment.find? fun v => v.1 == "PATH").map (·.2)).getD Machine.defaultSearchPath

/-! ## 2. What is not started -/

/-- The bytes at which one argument is too long. -/
def argumentLimit : Nat := 131072

/-- The room for all arguments and the environment together. -/
def argumentRoom : Nat := 2097152

/-- The room that a text takes, with its end and a reference to it. -/
def roomOf (s : String) : Nat := s.utf8ByteSize + 9

/-- Whether a command has too many or too long arguments. -/
def isTooLong (m : Machine) (c : Command) : Bool :=
  let assignments := (environmentOf m c).map fun v => v.1 ++ "=" ++ v.2
  let texts := c.arguments ++ assignments
  texts.any (fun s => decide (argumentLimit ≤ s.utf8ByteSize)) ||
    decide (argumentRoom < texts.foldl (fun room s => room + roomOf s) 0)

/-- The directory of a command that may not be entered, with the reason. -/
def entranceRefusal? (m : Machine) (c : Command) : Option Refusal :=
  c.directory.bind fun d =>
    (m.files.closed? (viewOf m c).workingDirectory).map fun e => ⟨e, some d.text⟩

/-- **The program of a command**, or why it is not started. -/
def programOf (m : Machine) (c : Command) : Except Refusal Machine.Loaded :=
  match entranceRefusal? m c with
  | some refusal => .error refusal
  | none =>
    let name := c.arguments.headD ""
    let paths := Machine.candidates (searchPathOf (environmentOf m c)) name
    match Machine.loadFirst (viewOf m c) none paths with
    | .error e =>
      if (Refusal.mk e name).isAbsence || !isTooLong m c then .error ⟨e, name⟩
      else .error ⟨.argumentsTooLong, name⟩
    | .ok l => if isTooLong m c then .error ⟨.argumentsTooLong, name⟩ else .ok l

/-! ## 3. The run of a program -/

/-- A bound on the steps of a run. -/
def stepLimit : Nat := 20000000

/-- The microseconds of a deadline. -/
def microseconds : Binary64 → Nat
  | .finite false m e =>
    let (num, den) := Binary64.ratio m e
    num * 1000000 / den
  | _ => 0

/-- The shell state from which a program is started. -/
def startState (m : Machine) (c : Command) (deadline : Option Nat) : Shell.State :=
  let view := viewOf m c
  let environment := (environmentOf m c).map fun v => (v.1, Shell.bytesOf v.2)
  let streams := [(0, .nowhere), (1, .output), (2, .errors)]
  { frame := Shell.startFrame environment view.workingDirectory streams
    machine := m, clock := 0, deadline, emitted := [], channels := [], nextChannel := 0
    endless := []
    unprinted := false, jobs := [], nextJob := Shell.State.ownNumber + 1, pending := [] }

/-- Whether a job holds the run's streams once its redirections are made. -/
def holdsStreams (sh : Shell.State) (j : Job) : Bool :=
  (Shell.streamsOfJob stepLimit j sh).any fun s => s.2 = .output || s.2 = .errors

/-- How a run looks while its background jobs are gone through. -/
structure Watched where
  shell : Shell.State
  /-- Until when the streams are held; `none` if they still are at the deadline. -/
  heldUntil : Option Nat

/-- The later of two times, `none` being later than all. -/
def later : Option Nat → Option Nat → Option Nat
  | some a, some b => some (max a b)
  | _, _ => none

/-- Runs the background jobs that hold the streams. -/
def watchHolders : Nat → Watched → Watched
  | 0, w => w
  | n + 1, w =>
    match w.shell.jobs.find? (holdsStreams w.shell) with
    | none => w
    | some j =>
      let rest := { w.shell with jobs := w.shell.jobs.filter fun k => k.number != j.number }
      let (flow, done) := Shell.runJob stepLimit j rest
      let held := if flow = .stopped && j.killed.isNone then none else some done.clock
      watchHolders n ⟨{ done with deadline := w.shell.deadline, clock := w.shell.clock },
        later w.heldUntil held⟩

/-- Runs the other background jobs up to a given time. -/
def runOthers (upTo : Option Nat) : Nat → Shell.State → Shell.State
  | 0, sh => sh
  | n + 1, sh =>
    match sh.jobs with
    | [] => sh
    | j :: js =>
      let (_, done) := Shell.runJob stepLimit j { sh with jobs := js, deadline := upTo }
      runOthers upTo n done

/-- What was printed, each stream in the order of time. -/
def printed (emissions : List Emission) : Printed :=
  let inTime := emissions.reverse.mergeSort fun a b => decide (a.time ≤ b.time)
  let bytes := fun errors =>
    Shell.toBytes ((inTime.filter fun e => e.toErrors == errors).flatMap (·.text))
  ⟨bytes false, bytes true⟩

/-- The ending of a command that was watched, stopped or not; without a deadline it never is. -/
def endingOf (deadline : Option Binary64) (stopped : Bool) (code : Int) (output : Printed) :
    Ending deadline :=
  match deadline with
  | none => .ended code output
  | some limit => if stopped then .overdue limit rfl (.ok output) else .ended code output

/-- The return code for the end of a program. -/
def codeOf (flow : Flow) (status : Nat) : Int :=
  match flow with
  | .killed signal => -(signal : Int)
  | _ => status

/-- **Runs a program to its end or to the deadline.** -/
def watch (m : Machine) (c : Command) (l : Machine.Loaded) : Ending c.timeout × Machine :=
  let deadline := c.timeout.map microseconds
  let called := (l.arguments c.arguments).map Shell.bytesOf
  let (flow, sh) := Shell.runProgram stepLimit l.program called (startState m c deadline)
  let ownEnd := if flow = .stopped then none else some sh.clock
  let w := watchHolders stepLimit ⟨sh, ownEnd⟩
  let upTo := match w.heldUntil with
    | some t => some t
    | none => deadline
  let done := runOthers upTo stepLimit w.shell
  (endingOf c.timeout w.heldUntil.isNone (codeOf flow sh.frame.status) (printed done.emitted),
    done.machine)

/-! ## 4. The system -/

/-- **The system.**  A command whose deadline cannot be waited for is stopped before it does
anything. -/
def standard {τ : Type} : System τ := fun c w =>
  match programOf w.machine c with
  | .error refusal => (.error refusal, w)
  | .ok l =>
    if (deadlineFault? c.timeout).isSome then (.ok (endingOf c.timeout true 0 .nothing), w)
    else
      let (ending, machine) := watch w.machine c l
      (.ok ending, { w with machine })

/-- **Runs a command** on this system. -/
def run {τ : Type} : Runner τ := runOn standard

end SourceCheck.Execution

import SourceCheck.Command

/-!
# Whoever starts commands

What becomes of a command is not for the program to say.  The system may refuse to start it, for any
reason it has; a command that was started ends by itself, with whatever code, or is still there at
its deadline and has to be stopped, which may be refused as well.  All that is known of the system
is the form of its answers.

* `Refusal`: why a command is not started.
* `Ending`: what becomes of one that is.
* `System`: whoever starts commands and waits for them.
-/

namespace SourceCheck.Execution

open Number (Binary64)

/-! ## 1. Refusals -/

/-- **Why a command is not started**, with the path that the refusal names, if it names one. -/
structure Refusal where
  error : SystemError
  path : Option String
  deriving DecidableEq, Repr

namespace Refusal

/-- **The refusals that mean that a command is not there**, by their numbers: not permitted, no such
file, no permission, and no directory. -/
def absences : List Nat := [1, 2, 13, 20]

/-- Whether a refusal means that the command is not there. -/
def isAbsence (r : Refusal) : Bool := absences.contains r.error.number

/-- The failure that any other refusal is. -/
def fault : Refusal → Fault
  | ⟨error, some path⟩ => .system error path
  | ⟨error, none⟩ => .refused error

end Refusal

/-! ## 2. Endings -/

/-- **What a command printed** on its two streams. -/
structure Printed where
  stdout : List UInt8
  stderr : List UInt8
  deriving DecidableEq, Repr

/-- Nothing printed at all. -/
def Printed.nothing : Printed := ⟨[], []⟩

/-- **What becomes of a command that was started**: only one with a deadline has to be stopped. -/
inductive Ending (deadline : Option Binary64)
  /-- It ended with a code, and nobody holds its streams any more. -/
  | ended (code : Int) (printed : Printed)
  /-- It or somebody who holds its streams was still there when the waiting was over.  Stopping them
  was refused, or gave what was printed so far: nothing, if the streams were held even then. -/
  | overdue (limit : Binary64) (h : deadline = some limit) (stopped : Except SystemError Printed)

/-- **Whoever starts commands and waits for them**, with nothing for them to read: the refusal or
the ending, and the world behind it. -/
abbrev System (τ : Type) := (c : Command) → World τ → Except Refusal (Ending c.timeout) × World τ

end SourceCheck.Execution

import SourceCheck.World
import SourceCheck.Number.Binary64

/-!
# Commands

A command is a program with its arguments, run once in a directory with a deadline.  What comes of
it is a return code, the text of its two streams, and whether it ended by itself, was stopped at
the deadline, or was not there to be started.
-/

namespace SourceCheck

open Number (Binary64)

/-- **A command.** -/
structure Command where
  /-- The program and its arguments. -/
  arguments : List String
  /-- Where it runs; the working directory if nothing is said. -/
  directory : Option Path
  /-- Its environment; that of the machine if nothing is said. -/
  environment : Option (List (String × String))
  /-- How many seconds it may take; any number if nothing is said. -/
  timeout : Option Binary64
  deriving DecidableEq, Repr

/-- **How a command ended.** -/
inductive RunStatus
  | completed
  | timedOut
  | notFound
  deriving DecidableEq, Repr

namespace RunStatus

/-- The word for how a command ended. -/
def word : RunStatus → String
  | completed => "completed"
  | timedOut => "timed-out"
  | notFound => "not-found"

end RunStatus

/-- **What came of a command.** -/
structure RunResult where
  arguments : List String
  returnCode : Int
  stdout : String
  stderr : String
  status : RunStatus
  deriving DecidableEq, Repr

/-- **Whoever runs commands.** -/
abbrev Runner (τ : Type) := Command → Action τ RunResult

end SourceCheck

import SourceCheck.Command
import SourceCheck.LogRecord

/-!
# Traces

Beside its answer an action can leave a trace: the commands that were given to a runner and the log
records, both in order.  Only the program itself writes the trace; an action of a backend or a
runner cannot reach it.

* `Traced`: actions with a trace.
* `Traced.lift`, `attempt`: an action without a trace inside one that has a trace.
* `Traced.call`, `log`: what goes into the trace.
-/

namespace SourceCheck

/-- **What can be seen of an action beside its answer.** -/
structure Trace where
  /-- The commands given to a runner. -/
  commands : List Command
  /-- What was logged. -/
  logs : List LogRecord
  deriving DecidableEq, Repr

namespace Trace

/-- Nothing seen. -/
def empty : Trace := ⟨[], []⟩

/-- One more command. -/
def withCommand (t : Trace) (c : Command) : Trace := { t with commands := t.commands ++ [c] }

/-- Some more log records. -/
def withLogs (t : Trace) (rs : List LogRecord) : Trace := { t with logs := t.logs ++ rs }

end Trace

/-- **An action that leaves a trace.** -/
abbrev Traced (τ α : Type) := ExceptT Fault (StateM (World τ × Trace)) α

namespace Traced

variable {τ α : Type}

/-- **What an action gives, and the world and the trace that it leaves.** -/
def runIn (a : Traced τ α) (w : World τ) (t : Trace) : Except Fault α × World τ × Trace :=
  a.run.run (w, t)

/-- **An action without a trace**, its failure being a value. -/
def attempt (a : Action τ α) : Traced τ (Except Fault α) := do
  let (w, t) ← get
  let (r, w') := a.run.run w
  set (w', t)
  return r

/-- An action without a trace. -/
def lift (a : Action τ α) : Traced τ α := do
  match ← attempt a with
  | .ok v => return v
  | .error f => throw f

/-- Writes to the log. -/
def logAll (rs : List LogRecord) : Traced τ Unit := modify fun (w, t) => (w, t.withLogs rs)

/-- **Gives a command to a runner.** -/
def call (runner : Runner τ) (c : Command) : Traced τ RunResult := do
  modify fun (w, t) => (w, t.withCommand c)
  lift (runner c)

/-- **Something that is done at the end, whether or not the action before it fails.** -/
def andThenAlways (a : Traced τ α) (last : Action τ Unit) : Traced τ α := do
  let r ← tryCatch (Except.ok <$> a) fun f => return Except.error f
  lift last
  match r with
  | .ok v => return v
  | .error f => throw f

end Traced

end SourceCheck

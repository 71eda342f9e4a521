import SourceCheck.Machine.Basic

/-!
# Worlds and actions

An action reads and changes a world: the machine, and whatever the parts of the program that are
not ours (backends, runners) keep for themselves.  It gives a value or fails with a cause; a
failure undoes nothing.
-/

namespace SourceCheck

/-- **The machine and what others keep for themselves.** -/
structure World (τ : Type) where
  machine : Machine
  own : τ

/-- **Something that is done in a world**, gives a value or fails. -/
abbrev Action (τ α : Type) := ExceptT Fault (StateM (World τ)) α

namespace Action

variable {τ α : Type}

/-- What an action comes to in a world. -/
def outcome (a : Action τ α) (w : World τ) : Except Fault α := (a.run.run w).1

/-- The world that an action leaves. -/
def final (a : Action τ α) (w : World τ) : World τ := (a.run.run w).2

/-- A question about the machine. -/
def ask (q : Machine → Except Fault α) : Action τ α := do
  match q (← get).machine with
  | .ok v => return v
  | .error f => throw f

/-- Something done to the machine. -/
def act (a : FileAction α) : Action τ α := do
  let w ← get
  let (r, machine) := a.run.run w.machine
  set { w with machine }
  match r with
  | .ok v => return v
  | .error f => throw f

end Action

end SourceCheck

import SourceCheck.Check.Scratch

/-!
# What actions come to

An action is a sequence of smaller ones, and a run of it passes through a world for each.  Nothing
in the proofs about checks looks inside the two monads: this module says once what every building
block comes to, and the rest follows by rewriting.

* `Action.outcome_bind`: an action after another one.
* `Traced.runIn_bind`, `runIn_lift`, `runIn_call`, `runIn_andThenAlways`: the same for actions that
  leave a trace.
* `Scratch.runIn_around`: what is done with a scratch directory.
-/

namespace SourceCheck

variable {τ α β : Type}

/-! ## 1. Actions -/

namespace Action

theorem outcome_pure (v : α) (w : World τ) : (pure v : Action τ α).outcome w = .ok v := rfl

/-- **An action after another one** starts in the world that the first one leaves. -/
theorem outcome_bind (a : Action τ α) (k : α → Action τ β) (w : World τ) :
    (a >>= k).outcome w = (a.outcome w).bind fun v => (k v).outcome (a.final w) := by
  unfold outcome final
  rw [ExceptT.run_bind, StateT.run_bind]
  rcases a.run.run w with ⟨r, w'⟩
  cases r <;> rfl

/-- An action after one that succeeds leaves the world that it leaves by itself. -/
theorem final_bind {a : Action τ α} {k : α → Action τ β} {w : World τ} {v : α}
    (h : a.outcome w = .ok v) : (a >>= k).final w = (k v).final (a.final w) := by
  unfold outcome at h
  unfold final
  rw [ExceptT.run_bind, StateT.run_bind]
  rcases hrun : a.run.run w with ⟨r, w'⟩
  rw [hrun] at h
  cases h
  rfl

theorem outcome_get (w : World τ) : (get : Action τ (World τ)).outcome w = .ok w := rfl

/-- A question comes to the machine's answer. -/
theorem outcome_ask (q : Machine → Except Fault α) (w : World τ) :
    (ask q).outcome w = q w.machine := by
  rw [ask, outcome_bind, outcome_get]
  dsimp only [Except.bind]
  cases q w.machine <;> rfl

/-- A question changes nothing. -/
theorem final_ask (q : Machine → Except Fault α) (w : World τ) : (ask q).final w = w := by
  rw [ask, final_bind (outcome_get w)]
  cases q w.machine <;> rfl

end Action

/-! ## 2. Actions that leave a trace -/

namespace Traced

theorem runIn_get (w : World τ) (t : Trace) :
    (get : Traced τ (World τ × Trace)).runIn w t = (.ok (w, t), w, t) := rfl

/-- **A traced action after another one**: a failure of the first is a failure of both. -/
theorem runIn_bind (a : Traced τ α) (k : α → Traced τ β) (w : World τ) (t : Trace) :
    (a >>= k).runIn w t = match a.runIn w t with
      | (.ok v, w', t') => (k v).runIn w' t'
      | (.error f, w', t') => (.error f, w', t') := by
  unfold runIn
  rw [ExceptT.run_bind, StateT.run_bind]
  rcases a.run.run (w, t) with ⟨r, w', t'⟩
  cases r <;> rfl

/-- An attempt always gives something, and leaves the trace alone. -/
theorem runIn_attempt (a : Action τ α) (w : World τ) (t : Trace) :
    (attempt a).runIn w t = (.ok (a.outcome w), a.final w, t) := rfl

theorem runIn_lift (a : Action τ α) (w : World τ) (t : Trace) :
    (lift a).runIn w t = (a.outcome w, a.final w, t) := by
  unfold lift
  rw [runIn_bind, runIn_attempt]
  simp only []
  cases a.outcome w <;> rfl

/-- A question leaves the world and the trace alone. -/
theorem runIn_ask (q : Machine → Except Fault α) (w : World τ) (t : Trace) :
    (lift (Action.ask q)).runIn w t = (q w.machine, w, t) := by
  rw [runIn_lift, Action.outcome_ask, Action.final_ask]

/-- **A call is noted whether or not the runner succeeds.** -/
theorem runIn_call (runner : Runner τ) (c : Command) (w : World τ) (t : Trace) :
    (call runner c).runIn w t =
      ((runner c).outcome w, (runner c).final w, t.withCommand c) := by
  unfold call
  rw [runIn_bind]
  exact runIn_lift (runner c) w (t.withCommand c)

/-- A failure that is made a value. -/
theorem runIn_caught (a : Traced τ α) (w : World τ) (t : Trace) :
    (tryCatch (Except.ok <$> a) fun f => return Except.error f : Traced τ (Except Fault α)).runIn
      w t = (.ok (a.runIn w t).1, (a.runIn w t).2) := by
  unfold runIn
  rw [ExceptT.run_tryCatch, ExceptT.run_map, StateT.run_bind, StateT.run_map]
  rcases a.run.run (w, t) with ⟨r, w', t'⟩
  cases r <;> rfl

/-- **What is done at the end is done in any case**, and if it succeeds the action before it
decides. -/
theorem runIn_andThenAlways (a : Traced τ α) (last : Action τ Unit) (w : World τ) (t : Trace) :
    (andThenAlways a last).runIn w t =
      ((last.outcome (a.runIn w t).2.1).bind fun _ => (a.runIn w t).1,
        last.final (a.runIn w t).2.1, (a.runIn w t).2.2) := by
  unfold andThenAlways
  rw [runIn_bind, runIn_caught]
  simp only [runIn_bind, runIn_lift]
  cases last.outcome (a.runIn w t).2.1 with
  | error f => rfl
  | ok _ => cases (a.runIn w t).1 <;> rfl

end Traced

/-! ## 3. Scratch directories -/

/-- **Something that is done with a scratch directory** needs one, and fails where it cannot be
removed. -/
theorem Scratch.runIn_around (s : Scratch τ) (body : Path → Traced τ α) (w : World τ) (t : Trace) :
    (s.around body).runIn w t = match s.make.outcome w with
      | .error f => (.error f, s.make.final w, t)
      | .ok scratch =>
        let ran := (body scratch).runIn (s.make.final w) t
        (((s.remove scratch).outcome ran.2.1).bind fun _ => ran.1,
          (s.remove scratch).final ran.2.1, ran.2.2) := by
  unfold around
  rw [Traced.runIn_bind, Traced.runIn_lift]
  cases s.make.outcome w with
  | error f => rfl
  | ok scratch => exact Traced.runIn_andThenAlways ..

end SourceCheck

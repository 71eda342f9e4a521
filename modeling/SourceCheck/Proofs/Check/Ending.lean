import SourceCheck.Check.Engine
import SourceCheck.Proofs.Check.Running

/-!
# How a check can end

Backends, tools and runners decide where a check stops, but not what a result looks like: the engine
writes it, by one of seven forms.  This holds of every check that gives a result at all, whatever
the others do on the way and whatever the trace was before.

* `Traced.Gives`: what holds of everything that an action gives.
* `Engine.runIn_check`: a check up to the switch of the language.
* `Engine.Ending`: the forms of a result behind the switch of the language.
* `Engine.gives_checkAs`: a check that has come past the switch ends in one of them.
* `Engine.gives_check`: only a completed check has findings.
-/

namespace SourceCheck

variable {τ α β : Type}

/-! ## 1. What an action gives -/

namespace Traced

/-- **Whatever an action gives** has a property; it may also fail. -/
def Gives (P : α → Prop) (a : Traced τ α) : Prop :=
  ∀ w t v, (a.runIn w t).1 = .ok v → P v

variable {P : α → Prop}

theorem gives_pure {v : α} (h : P v) : Gives P (pure v : Traced τ α) := by
  intro w t v' hv
  cases hv
  exact h

/-- An action behind one of which something is known. -/
theorem gives_bind_of {Q : β → Prop} {a : Traced τ β} {k : β → Traced τ α} (ha : Gives Q a)
    (h : ∀ x, Q x → Gives P (k x)) : Gives P (a >>= k) := by
  intro w t v hv
  rw [runIn_bind] at hv
  split at hv
  · rename_i x w' t' hx
    exact h x (ha w t x (congrArg Prod.fst hx)) _ _ v hv
  · cases hv

/-- The last step of an action decides what it gives. -/
theorem gives_bind {a : Traced τ β} {k : β → Traced τ α} (h : ∀ x, Gives P (k x)) :
    Gives P (a >>= k) :=
  gives_bind_of (Q := fun _ => True) (fun _ _ _ _ => trivial) fun x _ => h x

theorem gives_around {s : Scratch τ} {body : Path → Traced τ α}
    (h : ∀ scratch, Gives P (body scratch)) : Gives P (s.around body) := by
  intro w t v hv
  rw [Scratch.runIn_around] at hv
  split at hv
  · cases hv
  · dsimp only at hv
    rename_i scratch hmade
    cases hremoved : (s.remove scratch).outcome ((body scratch).runIn (s.make.final w) t).2.1 with
    | error f =>
      rw [hremoved] at hv
      cases hv
    | ok _ =>
      rw [hremoved] at hv
      exact h scratch _ _ v hv

end Traced

namespace Engine

open Traced

variable {e : Engine τ} {l : Language} {file argument root : Path} {given : Option Path}
  {v : CheckResult} {w : World τ} {t : Trace}

/-! ## 2. Up to the switch -/

/-- **A check of a file** looks for its language and asks for the switch; only then it does
anything. -/
theorem runIn_check (hfile : locate w.machine argument = .ok file) :
    (e.check argument given).runIn w t = match e.registry.resolve file with
      | none => (.ok (.unsupported file), w, t)
      | some l =>
        if e.settings.isDisabled l then (.ok (.disabled file l), w, t)
        else (e.checkAs l file given).runIn w t := by
  rw [check, runIn_bind, runIn_ask, hfile]
  dsimp only
  cases e.registry.resolve file with
  | none => rfl
  | some l =>
    dsimp only
    split <;> rfl

/-- A path that is not located is the end of the check. -/
theorem runIn_check_of_not_located {f : Fault} (h : locate w.machine argument = .error f) :
    (e.check argument given).runIn w t = (.error f, w, t) := by
  rw [check, runIn_bind, runIn_ask, h]

/-! ## 3. Behind the switch -/

/-- **The forms of a result** for a file of a language that is not switched off. -/
inductive Ending (l : Language) (file : Path) : CheckResult → Prop
  | toolNotFound : Ending l file (.toolNotFound file l)
  | toolTimeout (detail : String) : Ending l file (.toolTimeout file l detail)
  | parserDefect (detail : String) : Ending l file (.parserDefect file l detail)
  | backendDefect (detail : String) : Ending l file (.backendDefect file l detail)
  | completed (ds : List Diagnostic) : Ending l file (.completed file l ds)

theorem gives_defect (stage : String) (f : Fault) :
    Gives (Ending l file) (defect file l stage f : Traced τ CheckResult) :=
  gives_bind fun words => gives_bind fun _ => gives_pure (.backendDefect words)

theorem gives_unreadable (f : Fault) :
    Gives (Ending l file) (unreadable file l f : Traced τ CheckResult) :=
  gives_bind fun words => gives_bind fun _ => gives_pure (.parserDefect words)

theorem gives_readOutput (o : ToolOutput) : Gives (Ending l o.file) (e.readOutput l o) := by
  refine gives_bind fun read => ?_
  cases read with
  | error f => exact gives_unreadable f
  | ok findings =>
    dsimp only
    split
    · exact gives_pure (.completed _)
    · exact gives_unreadable _

theorem gives_afterRun (r : RunResult) : Gives (Ending l file) (e.afterRun l file root r) := by
  rw [afterRun]
  split
  · exact gives_pure .toolNotFound
  · exact gives_pure (.toolTimeout _)
  · exact gives_readOutput _

/-- A check that ends before its tool runs ends in one of these forms as well. -/
theorem gives_runTool {tool : String} :
    Gives (fun r => ∀ v, r = .error v → Ending l file v) (e.runTool l file root tool) := by
  refine gives_around fun scratch => gives_bind fun written => ?_
  cases written with
  | ok c => exact gives_bind fun r => gives_pure fun v hv => nomatch hv
  | error f =>
    refine gives_bind_of (gives_defect (l := l) "argument builder" f) fun v hv => ?_
    exact gives_pure fun v' hv' => Except.error.inj hv' ▸ hv

theorem gives_checkIn : Gives (Ending l file) (e.checkIn l file root) := by
  refine gives_bind fun found => ?_
  cases found with
  | none => exact gives_pure .toolNotFound
  | some tool =>
    refine gives_bind_of gives_runTool fun ran hran => ?_
    cases ran with
    | error v => exact gives_pure (hran v rfl)
    | ok r => exact gives_afterRun r

/-- **A check that has come past the switch** ends in one of five forms. -/
theorem gives_checkAs : Gives (Ending l file) (e.checkAs l file given) := by
  refine gives_bind fun found => ?_
  cases found with
  | error f => exact gives_defect _ f
  | ok root => exact gives_checkIn

namespace Ending

theorem status_ne_disabled (h : Ending l file v) : v.status ≠ .disabled := by
  cases h <;> nofun

theorem no_diagnostics (h : Ending l file v) (hv : v.status ≠ .completed) : v.diagnostics = [] := by
  cases h with
  | completed ds => exact absurd rfl hv
  | _ => rfl

end Ending

/-! ## 4. The whole check -/

/-- **Only a completed check has findings**, whatever it was that a check ran into. -/
theorem gives_check :
    Gives (fun v => v.status ≠ .completed → v.diagnostics = []) (e.check argument given) := by
  refine gives_bind fun file => ?_
  cases e.registry.resolve file with
  | none => exact gives_pure fun _ => rfl
  | some l =>
    dsimp only
    split
    · exact gives_pure fun _ => rfl
    · exact fun w t v hv => (gives_checkAs w t v hv).no_diagnostics

end Engine

end SourceCheck

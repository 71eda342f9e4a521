import SourceCheck.Proofs.Check.Calling
import SourceCheck.Proofs.CommandLine.Turning
import SourceCheck.Proofs.Execution.Returning
import SourceCheck.Proofs.Registry.Resolving

/-!
# What a check keeps apart

Two checks of one file can differ in much that must not matter: in the tools that are there, in the
project around the file, in what backends and runners do.  Before the switch of the language is
asked for nothing of this is touched, and behind it the return code of a run is never looked at.
What does matter is kept apart up to the result: a tool that is not there, one that was stopped, and
one that ran.

* `Engine.runIn_check_of_passedOver`: a check that calls nobody.
* `Engine.runIn_check_congr`: checks whose runs differ in the return code.
* `Engine.KeepsApart`: three ways for a tool to answer, and the statuses for them.
* `Engine.check_indifferent`: all of it.
-/

namespace SourceCheck

variable {τ τ' : Type}

namespace Engine

variable {e : Engine τ} {e' : Engine τ'} {argument file root scratch : Path} {given : Option Path}
  {l : Language} {tool : String} {c : Command} {v : CheckResult} {w w₁ : World τ} {t t₁ : Trace}

/-! ## 1. Checks that call nobody -/

/-- **Engines that are told the same**: the same settings, and the same owners of suffixes, by
whatever registrations they came about. -/
structure ToldTheSame (e : Engine τ) (e' : Engine τ') : Prop where
  settings : e.settings = e'.settings
  registered : ∃ cs, e.registry = Registry.ofRegistrations cs
  registered' : ∃ cs, e'.registry = Registry.ofRegistrations cs
  owners : ∀ suffix, Table.get? e.registry.owners suffix = Table.get? e'.registry.owners suffix

theorem ToldTheSame.resolve_eq (h : e.ToldTheSame e') (file : Path) :
    e.registry.resolve file = e'.registry.resolve file := by
  obtain ⟨cs, hcs⟩ := h.registered
  obtain ⟨cs', hcs'⟩ := h.registered'
  have hkept := Registry.wellKept_ofRegistrations cs
  have hkept' := Registry.wellKept_ofRegistrations cs'
  rw [← hcs] at hkept
  rw [← hcs'] at hkept'
  exact hkept.resolve_eq_of_owners hkept' h.owners

/-- **A file that is passed over**: no language owns its suffix, or its language is switched off, by
itself or together with all others. -/
def PassedOver (e : Engine τ) (file : Path) : Prop :=
  e.registry.resolve file = none ∨
    ∃ l, e.registry.resolve file = some l ∧ (e.settings.disable = true ∨ e.settings.Holds l)

/-- What is said of a file that is passed over. -/
def passing (e : Engine τ) (file : Path) : CheckResult :=
  match e.registry.resolve file with
  | none => .unsupported file
  | some l => .disabled file l

theorem ToldTheSame.passing_eq (h : e.ToldTheSame e') (file : Path) :
    e.passing file = e'.passing file := by
  rw [passing, passing, h.resolve_eq]

theorem ToldTheSame.passedOver (h : e.ToldTheSame e') (hfile : e.PassedOver file) :
    e'.PassedOver file := by
  rw [PassedOver, h.resolve_eq, h.settings] at hfile
  exact hfile

/-- **The check of a file that is passed over** changes no world and leaves no trace. -/
theorem runIn_check_of_passedOver (hfile : locate w.machine argument = .ok file)
    (h : e.PassedOver file) : (e.check argument given).runIn w t = (.ok (e.passing file), w, t) := by
  rw [runIn_check hfile, passing]
  obtain hnone | ⟨l, hl, hoff⟩ := h
  · rw [hnone]
  · rw [hl]
    dsimp only
    rw [if_pos (Settings.isDisabled_iff.mpr hoff)]

/-! ## 2. Checks whose runs differ in the return code -/

/-- **Engines that are led alike**: the same settings, backends and scratch directories. -/
structure LedAlike (e e₁ : Engine τ) : Prop where
  settings : e.settings = e₁.settings
  backend : e.backend = e₁.backend
  scratch : e.scratch = e₁.scratch

namespace LedAlike

variable {e₁ : Engine τ}

theorem detection_eq (h : e.LedAlike e₁) : e.detection = e₁.detection := by
  unfold detection
  rw [h.backend]

theorem lookupWorld_eq (h : e.LedAlike e₁) : e.lookupWorld = e₁.lookupWorld := by
  unfold lookupWorld
  rw [h.detection_eq]

theorem commandWorld_eq (h : e.LedAlike e₁) : e.commandWorld = e₁.commandWorld := by
  unfold commandWorld
  rw [h.lookupWorld_eq, h.scratch]

theorem command_eq (h : e.LedAlike e₁) : e.command = e₁.command := by
  unfold command
  rw [h.settings, h.backend]

theorem runWorld_eq (h : e.LedAlike e₁) : e.runWorld = e₁.runWorld := by
  unfold runWorld
  rw [h.command_eq, h.commandWorld_eq]

theorem answered_eq (h : e.LedAlike e₁) : e.answered = e₁.answered := by
  have hafter : e.afterRun = e₁.afterRun := by
    unfold afterRun readOutput timeoutDetail
    rw [h.settings, h.backend]
  funext l file root w t answer
  cases answer with
  | error f => rfl
  | ok r => rw [answered, answered, hafter]

end LedAlike

/-- What a check sees of a run: its status and its two streams. -/
def seen (r : RunResult) : RunStatus × String × String := (r.status, r.stdout, r.stderr)

/-- **Runners that a check cannot tell apart** at a command: both fail alike, or their results
differ at most in the return code and the repeated arguments, and they leave the same world. -/
structure AlikeAt (runner runner₁ : Runner τ) (c : Command) (w : World τ) : Prop where
  answer : ((runner c).outcome w).map seen = ((runner₁ c).outcome w).map seen
  world : (runner c).final w = (runner₁ c).final w

/-- Behind the run the return code is not looked at. -/
theorem answered_congr {answer answer₁ : Except Fault RunResult}
    (h : answer.map seen = answer₁.map seen) :
    e.answered l file root w t answer = e.answered l file root w t answer₁ := by
  cases answer with
  | error f =>
    cases answer₁ with
    | error f₁ => rw [Except.error.inj h]
    | ok r₁ => cases h
  | ok r =>
    cases answer₁ with
    | error f₁ => cases h
    | ok r₁ =>
      obtain ⟨hstatus, hstreams⟩ := Prod.mk.inj (Except.ok.inj h)
      obtain ⟨hstdout, hstderr⟩ := Prod.mk.inj hstreams
      rw [answered, answered, afterRun, afterRun, hstatus, hstdout, hstderr]

variable {e₁ : Engine τ}

section

variable (hled : e.LedAlike e₁)
  (halike : AlikeAt e.runner e₁.runner c (e.runWorld l file given w root tool scratch))

include hled halike

theorem ranWorld_congr : e.ranWorld l file given w root tool scratch c =
    e₁.ranWorld l file given w root tool scratch c := by
  unfold ranWorld
  rw [← hled.runWorld_eq, halike.world]

theorem readWorld_congr : e.readWorld l file given w root tool scratch c =
    e₁.readWorld l file given w root tool scratch c := by
  unfold readWorld
  rw [← hled.scratch, ranWorld_congr hled halike]

theorem answer_congr : (e.answer l file given w root tool scratch c).map seen =
    (e₁.answer l file given w root tool scratch c).map seen := by
  unfold answer
  rw [← ranWorld_congr hled halike, ← hled.scratch, ← hled.runWorld_eq]
  cases (e.scratch.remove scratch).outcome (e.ranWorld l file given w root tool scratch c) with
  | error f => rfl
  | ok _ => exact halike.answer

end

/-- A command that is not written is not given to a runner, whatever runner it is. -/
theorem launched_congr (hled : e.LedAlike e₁) {written : Except Fault Command}
    (halike : ∀ c, written = .ok c →
      AlikeAt e.runner e₁.runner c (e.runWorld l file given w root tool scratch)) :
    e.launched l file given w root tool scratch t written =
      e₁.launched l file given w root tool scratch t written := by
  cases written with
  | error f => rw [launched, launched, hled.scratch, hled.runWorld_eq]
  | ok c =>
    -- Only here the runners are called, and `halike` speaks of no other command.
    have hrunner := halike c rfl
    rw [launched, launched, ← readWorld_congr hled hrunner, ← hled.answered_eq,
      answered_congr (answer_congr hled hrunner)]

/-- **Checks whose runs differ in the return code** come to the same, in the same world and with the
same trace. -/
theorem runIn_check_congr (hfile : locate w.machine argument = .ok file)
    (hresolve : e.registry.resolve file = e₁.registry.resolve file) (hled : e.LedAlike e₁)
    (halike : ∀ l root tool scratch c, e.Prepared l file given w root tool scratch →
      (e.command l file root tool scratch).outcome (e.commandWorld l file given w) = .ok c →
      AlikeAt e.runner e₁.runner c (e.runWorld l file given w root tool scratch)) :
    (e.check argument given).runIn w t = (e₁.check argument given).runIn w t := by
  refine runIn_check_of_taken hfile hresolve hled.settings fun l htakes htakes₁ => ?_
  cases hr : (e.detection l file given).outcome w with
  | error f =>
    rw [runIn_check_of_takes hfile htakes, runIn_check_of_takes hfile htakes₁,
      ← hled.detection_eq, ← hled.lookupWorld_eq, hr]
  | ok root =>
    have hr₁ : (e₁.detection l file given).outcome w = .ok root := hled.detection_eq ▸ hr
    rw [runIn_check_of_detected hfile htakes hr, runIn_check_of_detected hfile htakes₁ hr₁,
      ← hled.lookupWorld_eq, ← hled.commandWorld_eq, ← hled.scratch, ← hled.command_eq]
    cases hfound : (e.lookupWorld l file given w).machine.resolveTool l root with
    | error f => rfl
    | ok found =>
      cases found with
      | none => rfl
      | some tool =>
        dsimp only
        cases hmade : e.scratch.make.outcome (e.lookupWorld l file given w) with
        | error f => rfl
        | ok scratch =>
          exact launched_congr hled fun c hc =>
            halike l root tool scratch c ⟨⟨htakes, hr, hfound⟩, hmade⟩ hc

/-! ## 3. Three ways for a tool to answer -/

/-- A check that looks for its tool and finds none. -/
def Untooled (e : Engine τ) (file : Path) (given : Option Path) (w : World τ) : Prop :=
  ∃ l root, e.Takes l file ∧ (e.detection l file given).outcome w = .ok root ∧
    (e.lookupWorld l file given w).machine.resolveTool l root = .ok none

/-- A check whose run came to a status, with whatever return code. -/
def RanTo (e : Engine τ) (file : Path) (given : Option Path) (w : World τ) (status : RunStatus) :
    Prop :=
  ∃ l root tool scratch c r, e.Ran l file given w root tool scratch c r ∧ r.status = status

/-- **A result that keeps apart** whether there was no tool, whether it was stopped, and whether it
ran to its end: each has statuses of its own. -/
structure KeepsApart (e : Engine τ) (file : Path) (given : Option Path) (w : World τ)
    (v : CheckResult) : Prop where
  missing : v.status = .toolNotFound ↔ e.Untooled file given w ∨ e.RanTo file given w .notFound
  stopped : v.status = .toolTimeout ↔ e.RanTo file given w .timedOut
  ran : v.status = .completed ∨ v.status = .parserDefect ↔ e.RanTo file given w .completed

/-- **Every result of a check** keeps them apart. -/
theorem keepsApart (hfile : locate w.machine argument = .ok file)
    (hrun : (e.check argument given).runIn w .empty = (.ok v, w₁, t₁)) :
    e.KeepsApart file given w v := by
  have hcourse := course_of_returns hfile hrun
  -- From a status to what happened: the course of the check.  Back: what happened decides the run.
  refine ⟨⟨?_, ?_⟩, ⟨?_, ?_⟩, ⟨?_, ?_⟩⟩
  · intro hv
    cases hcourse with
    | untooled h hr hn => exact .inl ⟨_, _, h, hr, hn⟩
    | unstarted h hs => exact .inr ⟨_, _, _, _, _, _, h.toRan, hs⟩
    | _ => cases hv
  · rintro (⟨l, root, htakes, hr, hn⟩ | ⟨l, root, tool, scratch, c, r, hran, hs⟩)
    · rw [runIn_check_of_detected hfile htakes hr, hn] at hrun
      cases hrun
      rfl
    · rw [(runDecides hfile hran hrun).notFound hs]
      rfl
  · intro hv
    cases hcourse with
    | stopped h hs => exact ⟨_, _, _, _, _, _, h.toRan, hs⟩
    | _ => cases hv
  · rintro ⟨l, root, tool, scratch, c, r, hran, hs⟩
    rw [(runDecides hfile hran hrun).timedOut hs]
    rfl
  · intro hv
    cases hcourse with
    | unread h => exact ⟨_, _, _, _, _, _, h.toRan, h.status_eq⟩
    | completed h hs => exact ⟨_, _, _, _, _, _, h.toRan, hs⟩
    | _ => rcases hv with hv | hv <;> cases hv
  · rintro ⟨l, root, tool, scratch, c, r, hran, hs⟩
    exact (runDecides hfile hran hrun).completed hs

/-! ## 4. All of it -/

/-- **What a check is indifferent to, and what it keeps apart.**

Two checks of a file that is passed over say the same and leave their worlds and traces as they
were, however their runners, backends, roots and machines differ; what others keep for themselves in
a world would tell of any call to them.  Two checks that differ only in the return code of their run
come to the same.  Every result keeps apart whether the tool was missing, was stopped or ran, and so
does every result of a runner of commands, whatever the system is that it runs them on. -/
theorem check_indifferent :
    (∀ {τ τ' : Type} (e : Engine τ) (e' : Engine τ') (argument argument' file : Path)
      (given given' : Option Path) (w : World τ) (w' : World τ') (t t' : Trace),
      e.ToldTheSame e' → locate w.machine argument = .ok file →
      locate w'.machine argument' = .ok file → e.PassedOver file →
      ∃ v, (e.check argument given).runIn w t = (.ok v, w, t) ∧
        (e'.check argument' given').runIn w' t' = (.ok v, w', t')) ∧
    (∀ {τ : Type} (e e₁ : Engine τ) (argument file : Path) (given : Option Path) (w : World τ)
      (t : Trace), e.ToldTheSame e₁ → e.backend = e₁.backend → e.scratch = e₁.scratch →
      locate w.machine argument = .ok file →
      (∀ l root tool scratch c, e.Prepared l file given w root tool scratch →
        (e.command l file root tool scratch).outcome (e.commandWorld l file given w) = .ok c →
        AlikeAt e.runner e₁.runner c (e.runWorld l file given w root tool scratch)) →
      (e.check argument given).runIn w t = (e₁.check argument given).runIn w t) ∧
    (∀ {τ : Type} (e : Engine τ) (argument file : Path) (given : Option Path) (w w₁ : World τ)
      (v : CheckResult) (t₁ : Trace), locate w.machine argument = .ok file →
      (e.check argument given).runIn w .empty = (.ok v, w₁, t₁) → e.KeepsApart file given w v) ∧
    ∀ {τ : Type} (system : Execution.System τ) (e : Engine τ) (l : Language) (file : Path)
      (given : Option Path) (w : World τ) (root : Path) (tool : String) (scratch : Path)
      (c : Command) (r : RunResult), e.runner = Execution.runOn system →
      e.Ran l file given w root tool scratch c r →
      Execution.Told system c (e.runWorld l file given w root tool scratch) r := by
  refine ⟨?_, ?_, fun e _ _ _ _ _ _ _ hfile hrun => e.keepsApart hfile hrun, ?_⟩
  · intro τ τ' e e' argument argument' file given given' w w' t t' hsame hfile hfile' hover
    have hover' := hsame.passedOver hover
    refine ⟨e.passing file, runIn_check_of_passedOver hfile hover, ?_⟩
    rw [runIn_check_of_passedOver hfile' hover', hsame.passing_eq]
  · intro τ e e₁ argument file given w t hsame hbackend hscratch hfile halike
    exact runIn_check_congr hfile (hsame.resolve_eq file) ⟨hsame.settings, hbackend, hscratch⟩
      halike
  · intro τ system e l file given w root tool scratch c r hrunner hran
    have hr := hran.ran
    rw [hrunner] at hr
    exact (Execution.outcome_runOn_eq_ok_iff.mp hr).2.told

open Execution (callingEngine callingScratch callingWorld callBy)

/-- Settings that switch all checking off. -/
def allOff : Settings := { Settings.default with disable := true }

/-- An engine that fails at whatever it is asked for. -/
def brokenEngine : Engine Unit where
  settings := allOff
  registry := callingEngine.registry
  backend _ :=
    { detect := fun _ => throw (.raised "no project")
      arguments := fun _ => throw (.raised "no arguments")
      findings := fun _ => throw (.raised "no findings") }
  runner _ := throw (.raised "no runner")

/-- An engine whose commands end with a code. -/
def endingEngine (code : Int) : Engine Unit :=
  luaEngine (fun c => pure ⟨c.arguments, code, "", "", .completed⟩) []

theorem registered_lua : callingEngine.registry =
    Registry.ofRegistrations [⟨Builtin.lua.language, [".lua"]⟩] := by
  have hindex : Registry.longestFirst [".lua"] = [".lua"] := List.mergeSort_singleton _
  have hregister : Registry.ofRegistrations [⟨Builtin.lua.language, [".lua"]⟩] =
    ⟨[(".lua", Builtin.lua.language)], [Builtin.lua.language], Registry.longestFirst [".lua"]⟩ := rfl
  rw [hregister, hindex]
  rfl

theorem toldTheSame_lua {e₁ e₂ : Engine Unit} (hsettings : e₁.settings = e₂.settings)
    (h₁ : e₁.registry = callingEngine.registry) (h₂ : e₂.registry = callingEngine.registry) :
    e₁.ToldTheSame e₂ :=
  ⟨hsettings, ⟨_, h₁.trans registered_lua⟩, ⟨_, h₂.trans registered_lua⟩,
    fun _ => by rw [h₁, h₂]⟩

theorem returns_endingEngine (code : Int) : ∃ v w₁ t₁,
    ((endingEngine code).check luaFile (some luaRoot)).runIn (luaWorld shell) .empty =
      (.ok v, w₁, t₁) := ⟨_, _, _, Prod.ext rfl rfl⟩

theorem ran_shell : ∃ r, callingEngine.Ran Builtin.lua.language luaFile (some luaRoot)
    (luaWorld shell) luaRoot "/bin/luac" callingScratch (callBy Settings.default.timeout) r := by
  obtain ⟨r, hr⟩ := Execution.exists_cameOf_iff.mpr (.inr Execution.started_shell)
  have hrun : (Execution.run (callBy Settings.default.timeout)).outcome (callingWorld shell) =
      .ok r := Execution.outcome_runOn_eq_ok_iff.mpr ⟨Execution.tried_callBy _, hr⟩
  exact ⟨r, prepared_lua List.mem_cons_self, Execution.written_callBy shell, hrun⟩

theorem check_indifferent_lua :
    (∃ v, (({ endingEngine 0 with settings := allOff } : Engine Unit).check luaFile none).runIn
        (luaWorld shell) .empty = (.ok v, luaWorld shell, .empty) ∧
      (brokenEngine.check luaFile (some luaRoot)).runIn (luaWorld unmarked) .empty =
        (.ok v, luaWorld unmarked, .empty)) ∧
    ((endingEngine 0).check luaFile (some luaRoot)).runIn (luaWorld shell) .empty =
      ((endingEngine 124).check luaFile (some luaRoot)).runIn (luaWorld shell) .empty ∧
    (∃ v w₁ t₁, ((endingEngine 124).check luaFile (some luaRoot)).runIn (luaWorld shell) .empty =
        (.ok v, w₁, t₁) ∧
      (endingEngine 124).KeepsApart luaFile (some luaRoot) (luaWorld shell) v) ∧
    ∃ r, callingEngine.Ran Builtin.lua.language luaFile (some luaRoot) (luaWorld shell) luaRoot
        "/bin/luac" callingScratch (callBy Settings.default.timeout) r ∧
      Execution.Told Execution.standard (callBy Settings.default.timeout) (callingWorld shell) r := by
  obtain ⟨hover, hcode, hkeeps, htold⟩ := check_indifferent
  obtain ⟨v, w₁, t₁, hrun⟩ := returns_endingEngine 124
  obtain ⟨r, hran⟩ := ran_shell
  have hoff : ({ endingEngine 0 with settings := allOff } : Engine Unit).PassedOver luaFile :=
    .inr ⟨Builtin.lua.language, rfl, .inl rfl⟩
  have hsame : ({ endingEngine 0 with settings := allOff } : Engine Unit).ToldTheSame
      brokenEngine := toldTheSame_lua rfl rfl rfl
  have hsame₁ : (endingEngine 0).ToldTheSame (endingEngine 124) := toldTheSame_lua rfl rfl rfl
  refine ⟨?_, ?_, ⟨v, w₁, t₁, hrun, ?_⟩, ⟨r, hran, ?_⟩⟩
  · exact hover _ _ luaFile luaFile luaFile _ _ _ _ .empty .empty hsame rfl rfl hoff
  · exact hcode _ _ luaFile luaFile _ _ .empty hsame₁ rfl rfl rfl fun _ _ _ _ _ _ _ => ⟨rfl, rfl⟩
  · exact hkeeps _ luaFile luaFile _ _ _ _ _ rfl hrun
  · exact htold Execution.standard callingEngine _ _ _ _ _ _ _ _ _ rfl hran

end Engine

end SourceCheck

import SourceCheck.Execution.Standard
import SourceCheck.Proofs.Check.Calling

/-!
# Commands that are run

Of the many ways in which the system refuses to start a command, four count as a command that is not
there: not permitted, no such file, no permission, and no directory.  Any other refusal is a failure
of the runner, and so are a deadline that cannot be waited for and a refusal to stop what is
overdue. Nothing else is, whatever the system is and however it lets a command end.

* `Tried`: a command that is worth trying.
* `Absent`, `Started`: a command that is not there, and one that is started and waited for.
* `outcome_runOn_eq_ok_iff`: what running a command gives.
* `Told`, `CameOf.told`: what the status of a result tells of the command.
* `run_returns_iff`: when running a command gives a result, and what follows for checks.
-/

namespace SourceCheck.Execution

open Number (Binary64)

variable {m : Machine} {c : Command}

/-! ## 1. Commands that are worth trying -/

/-- **A command that is worth trying**: it names a program and a directory that is one, and the null
character, which no program can be told, stands nowhere. -/
structure Tried (m : Machine) (c : Command) : Prop where
  named : c.arguments ≠ []
  directory : ∀ d, c.directory = some d → m.isDirectory? d = .ok true
  environment : ∀ v ∈ c.environment.getD [],
    '=' ∉ v.1.toList ∧ '\x00' ∉ v.1.toList ∧ '\x00' ∉ v.2.toList
  arguments : ∀ a ∈ c.arguments, '\x00' ∉ a.toList

theorem badDirectory?_eq_none_iff : badDirectory? m c = .ok none ↔
    ∀ d, c.directory = some d → m.isDirectory? d = .ok true := by
  rw [badDirectory?]
  cases c.directory with
  | none => simp
  | some d =>
    simp only [Option.some.injEq, forall_eq']
    cases m.isDirectory? d with
    | error f => simp
    | ok b => cases b <;> simp

theorem named_apart_iff {environment : List (String × String)} :
    (environment.any fun v => v.1.toList.contains '=') = false ↔
      ∀ v ∈ environment, '=' ∉ v.1.toList := by
  simp

theorem without_null_iff {arguments : List String} {environment : List (String × String)} :
    (arguments.any hasNull || environment.any fun v => hasNull v.1 || hasNull v.2) = false ↔
      (∀ a ∈ arguments, '\x00' ∉ a.toList) ∧
        ∀ v ∈ environment, '\x00' ∉ v.1.toList ∧ '\x00' ∉ v.2.toList := by
  simp [hasNull]

theorem refusal?_eq_none_iff : refusal? m c = none ↔ Tried m c := by
  rw [refusal?]
  constructor
  · intro h
    split at h
    · cases h
    · rename_i hnamed
      split at h
      · cases h
      · cases h
      · rename_i hdirectory
        dsimp only at h
        split at h
        · cases h
        · rename_i hequals
          split at h
          · cases h
          · rename_i hnull
            have hequals := named_apart_iff.mp (Bool.eq_false_iff.mpr hequals)
            have hnull := without_null_iff.mp (Bool.eq_false_iff.mpr hnull)
            exact ⟨hnamed, badDirectory?_eq_none_iff.mp hdirectory,
              fun v hv => ⟨hequals v hv, hnull.2 v hv⟩, hnull.1⟩
  · intro h
    have hequals := named_apart_iff.mpr fun v hv => (h.environment v hv).1
    have hnull := without_null_iff.mpr ⟨h.arguments, fun v hv => (h.environment v hv).2⟩
    rw [if_neg h.named, badDirectory?_eq_none_iff.mpr h.directory]
    dsimp only
    rw [hequals, hnull]
    rfl

/-! ## 2. Deadlines that can be waited for -/

/-- **A deadline that can be waited for**: a number of seconds, and at most 2147483647 thousandths
of one.  A deadline that is over already needs no waiting. -/
def Waitable : Binary64 → Prop
  | .nan | .infinity false => False
  | .infinity true => True
  | .finite false n e => (Binary64.ratio n e).1 * 1000 ≤ waitLimit * (Binary64.ratio n e).2
  | .finite true _ _ => True

theorem ratio_pos (n : Nat) (e : Int) : 0 < (Binary64.ratio n e).2 := by
  rw [Binary64.ratio]
  split
  · exact Nat.one_pos
  · exact Nat.pow_pos (by decide)

theorem milliseconds_le_iff {n : Nat} {e : Int} {limit : Nat} : milliseconds n e ≤ limit ↔
    (Binary64.ratio n e).1 * 1000 ≤ limit * (Binary64.ratio n e).2 := by
  have hpos := ratio_pos n e
  have hround : milliseconds n e =
      ((Binary64.ratio n e).1 * 1000 + (Binary64.ratio n e).2 - 1) / (Binary64.ratio n e).2 := rfl
  rw [hround, ← Nat.lt_succ_iff, Nat.div_lt_iff_lt_mul hpos, Nat.succ_mul]
  omega

theorem deadlineFault?_eq_none_iff {x : Binary64} : deadlineFault? (some x) = none ↔ Waitable x := by
  cases x with
  | nan => exact iff_of_false nofun id
  | infinity negative =>
    cases negative with
    | true => exact iff_of_true rfl trivial
    | false => exact iff_of_false nofun id
  | finite negative n e =>
    cases negative with
    | true => exact iff_of_true rfl trivial
    | false =>
      refine Iff.trans ?_ milliseconds_le_iff
      rw [deadlineFault?]
      split
      · exact iff_of_true rfl ‹_›
      · exact iff_of_false nofun ‹_›

/-- **A command whose deadline can be waited for**, if it has one. -/
def Patient (c : Command) : Prop := ∀ x, c.timeout = some x → Waitable x

theorem patient_iff : deadlineFault? c.timeout = none ↔ Patient c := by
  rw [Patient]
  cases c.timeout with
  | none => exact iff_of_true rfl nofun
  | some x => simp [deadlineFault?_eq_none_iff]

/-! ## 3. Commands that are not there, and commands that are started -/

namespace Ending

variable {deadline : Option Binary64}

/-- Whether it had to be stopped. -/
def IsOverdue : Ending deadline → Prop
  | .ended _ _ => False
  | .overdue _ _ _ => True

/-- Whether nothing refused to be stopped. -/
def Yields : Ending deadline → Prop
  | .overdue _ _ (.error _) => False
  | _ => True

end Ending

variable {τ : Type} {system : System τ} {w : World τ} {r : RunResult}

/-- **A command that is not there**: the system finds nothing that it may start. -/
def Absent (system : System τ) (c : Command) (w : World τ) : Prop :=
  ∃ refusal, (system c w).1 = .error refusal ∧ refusal.error.number ∈ Refusal.absences

/-- **A command that is started and waited for**, up to an ending. -/
structure Started (system : System τ) (c : Command) (w : World τ) (ending : Ending c.timeout) :
    Prop where
  answer : (system c w).1 = .ok ending
  deadline : Patient c
  yields : ending.Yields

/-- **What came of a command**: it was not there, ended by itself, or was stopped. -/
inductive CameOf (system : System τ) (c : Command) (w : World τ) : RunResult → Prop
  | absent (h : Absent system c w) : CameOf system c w (notFoundResult c)
  | ended {code : Int} {printed : Printed} (h : Started system c w (.ended code printed)) :
      CameOf system c w (endedResult c code printed)
  | stopped {limit : Binary64} {hlimit : c.timeout = some limit} {printed : Printed}
      (h : Started system c w (.overdue limit hlimit (.ok printed))) :
      CameOf system c w (stoppedResult c limit printed)

theorem settled_ended {code : Int} {printed : Printed} :
    settled c (.ended code printed) = .ok r ↔ Patient c ∧ r = endedResult c code printed := by
  rw [settled, ← patient_iff]
  cases deadlineFault? c.timeout with
  | some f => simp
  | none => simp [eq_comm]

theorem settled_overdue {limit : Binary64} {hlimit : c.timeout = some limit} {printed : Printed} :
    settled c (.overdue limit hlimit (.ok printed)) = .ok r ↔
      Patient c ∧ r = stoppedResult c limit printed := by
  rw [settled, ← patient_iff]
  cases deadlineFault? c.timeout with
  | some f => simp
  | none => simp [eq_comm]

/-- **What is made of an answer** is a result exactly if something came of the command. -/
theorem madeOf_eq_ok_iff : madeOf c (system c w).1 = .ok r ↔ CameOf system c w r := by
  constructor
  · intro h
    cases hanswer : (system c w).1 with
    | error refusal =>
      rw [hanswer, madeOf] at h
      split at h
      · rename_i habsence
        cases h
        exact .absent ⟨refusal, hanswer, by simpa [Refusal.isAbsence] using habsence⟩
      · cases h
    | ok ending =>
      rw [hanswer, madeOf] at h
      -- The answer decides: it ended, was stopped, or could not be stopped, and then is no result.
      match ending, hanswer, h with
      | .ended _ _, hanswer, h =>
        obtain ⟨hdeadline, rfl⟩ := settled_ended.mp h
        exact .ended ⟨hanswer, hdeadline, trivial⟩
      | .overdue _ _ (.ok _), hanswer, h =>
        obtain ⟨hdeadline, rfl⟩ := settled_overdue.mp h
        exact .stopped ⟨hanswer, hdeadline, trivial⟩
      | .overdue _ _ (.error _), _, h => cases h
  · intro h
    cases h with
    | absent h =>
      obtain ⟨refusal, hanswer, habsence⟩ := h
      rw [hanswer, madeOf, if_pos (by simpa [Refusal.isAbsence] using habsence)]
    | ended h =>
      rw [h.answer, madeOf]
      exact settled_ended.mpr ⟨h.deadline, rfl⟩
    | stopped h =>
      rw [h.answer, madeOf]
      exact settled_overdue.mpr ⟨h.deadline, rfl⟩

theorem outcome_runOn : (runOn system c).outcome w =
    match refusal? w.machine c with
    | some f => .error f
    | none => madeOf c (system c w).1 := by
  rw [runOn, Action.outcome_bind, Action.outcome_get]
  dsimp only [Except.bind]
  cases refusal? w.machine c with
  | some f => rfl
  | none =>
    generalize system c w = served
    cases madeOf c served.1 <;> rfl

/-- **What running a command gives.** -/
theorem outcome_runOn_eq_ok_iff :
    (runOn system c).outcome w = .ok r ↔ Tried w.machine c ∧ CameOf system c w r := by
  rw [outcome_runOn, ← refusal?_eq_none_iff, ← madeOf_eq_ok_iff]
  cases refusal? w.machine c with
  | some f => simp
  | none => simp

/-! ## 4. What a status tells -/

/-- **What a status tells of a command**, each status one thing. -/
structure Told (system : System τ) (c : Command) (w : World τ) (r : RunResult) : Prop where
  notFound : r.status = .notFound ↔ Absent system c w
  timedOut : r.status = .timedOut ↔ ∃ ending, Started system c w ending ∧ ending.IsOverdue
  completed : r.status = .completed ↔ ∃ ending, Started system c w ending ∧ ¬ ending.IsOverdue

theorem Started.unique {ending ending' : Ending c.timeout} (h : Started system c w ending)
    (h' : Started system c w ending') : ending' = ending :=
  Except.ok.inj (h'.answer.symm.trans h.answer)

theorem Started.not_absent {ending : Ending c.timeout} (h : Started system c w ending) :
    ¬ Absent system c w :=
  fun ⟨_, hanswer, _⟩ => nomatch h.answer.symm.trans hanswer

/-- What is asked of the ending of a started command is asked of the one that it has. -/
theorem Started.exists_iff {ending : Ending c.timeout} (h : Started system c w ending)
    {p : Ending c.timeout → Prop} : (∃ ending, Started system c w ending ∧ p ending) ↔ p ending :=
  ⟨fun ⟨_, h', hp⟩ => h.unique h' ▸ hp, fun hp => ⟨ending, h, hp⟩⟩

/-- Whatever came of a command, its status tells it, whatever the return code is. -/
theorem CameOf.told (h : CameOf system c w r) : Told system c w r := by
  cases h with
  | absent h =>
    have hno : ∀ {p : Ending c.timeout → Prop}, ¬ ∃ ending, Started system c w ending ∧ p ending :=
      fun ⟨_, hstarted, _⟩ => hstarted.not_absent h
    exact ⟨iff_of_true rfl h, iff_of_false nofun hno, iff_of_false nofun hno⟩
  | ended h =>
    exact ⟨iff_of_false nofun h.not_absent, iff_of_false nofun (mt h.exists_iff.mp id),
      iff_of_true rfl (h.exists_iff.mpr id)⟩
  | stopped h =>
    exact ⟨iff_of_false nofun h.not_absent, iff_of_true rfl (h.exists_iff.mpr trivial),
      iff_of_false nofun (mt h.exists_iff.mp fun hnot => hnot trivial)⟩

/-! ## 5. When running a command gives a result -/

theorem exists_cameOf_iff : (∃ r, CameOf system c w r) ↔
    Absent system c w ∨ ∃ ending, Started system c w ending := by
  constructor
  · rintro ⟨r, h | h | h⟩
    · exact .inl h
    · exact .inr ⟨_, h⟩
    · exact .inr ⟨_, h⟩
  · rintro (h | ⟨ending, h⟩)
    · exact ⟨_, .absent h⟩
    · match ending, h with
      | .ended _ _, h => exact ⟨_, .ended h⟩
      | .overdue _ _ (.ok _), h => exact ⟨_, .stopped h⟩
      | .overdue _ _ (.error _), h => exact h.yields.elim

/-- **When running a command gives a result, and when a check with this runner does**, on any
system. A command that is worth trying gives one exactly if it is not there or is started.  A check
that the machine answers, whose scratch directory is there to be used and whose backend tells its
failures gives one exactly if this holds of the command that it comes to. -/
theorem run_returns_iff {τ : Type} (system : System τ) :
    (∀ (c : Command) (w : World τ) (r : RunResult), (runOn system c).outcome w = .ok r ↔
      Tried w.machine c ∧ CameOf system c w r) ∧
    (∀ (c : Command) (w : World τ), (∃ r, (runOn system c).outcome w = .ok r) ↔
      Tried w.machine c ∧ (Absent system c w ∨ ∃ ending, Started system c w ending)) ∧
    ∀ (e : Engine τ) (argument file : Path) (given : Option Path) (w : World τ),
      e.runner = runOn system → Engine.locate w.machine argument = .ok file →
      e.LookupAnswers file given w → e.scratch.Reliable → e.Tells file given w →
      ((∃ v w' t', (e.check argument given).runIn w .empty = (.ok v, w', t')) ↔
        ∀ l root tool scratch c, e.Prepared l file given w root tool scratch →
          (e.command l file root tool scratch).outcome (e.commandWorld l file given w) = .ok c →
          Tried (e.runWorld l file given w root tool scratch).machine c ∧
            (Absent system c (e.runWorld l file given w root tool scratch) ∨
              ∃ ending, Started system c (e.runWorld l file given w root tool scratch) ending)) := by
  have hrun : ∀ (c : Command) (w : World τ), (∃ r, (runOn system c).outcome w = .ok r) ↔
      Tried w.machine c ∧ (Absent system c w ∨ ∃ ending, Started system c w ending) := fun c w => by
    simp only [outcome_runOn_eq_ok_iff, exists_and_left, exists_cameOf_iff]
  refine ⟨fun _ _ _ => outcome_runOn_eq_ok_iff, hrun,
    fun e argument file given w hrunner hfile hlookup hscratch htells => ⟨?_, fun h => ?_⟩⟩
  · rintro ⟨v, w', t', hreturns⟩ l root tool scratch c hprepared hc
    have hanswers := Engine.commandAnswers_of_returns hfile hreturns l root tool scratch c
      hprepared hc
    rw [hrunner] at hanswers
    exact (hrun _ _).mp hanswers
  · refine Engine.exists_result hfile hlookup hscratch (fun l root tool scratch c hp hc => ?_) htells
    rw [hrunner]
    exact (hrun _ _).mpr (h l root tool scratch c hp hc)

/-! ## 6. A command that is started, and two that are not -/

open Engine (luaFile luaRoot luaWorld luaEngine shell unmarked)

/-- Our own system starts whatever it finds a program for, and nothing refuses to be stopped. -/
theorem exists_started_standard {l : Machine.Loaded} (hprogram : programOf w.machine c = .ok l)
    (hdeadline : Patient c) : ∃ ending, Started (standard (τ := τ)) c w ending := by
  have hyields : ∀ stopped code output, (endingOf c.timeout stopped code output).Yields := by
    intro stopped code output
    generalize c.timeout = deadline
    cases deadline with
    | none => trivial
    | some limit => cases stopped <;> trivial
  have hnone := patient_iff.mpr hdeadline
  refine ⟨(watch w.machine c l).1, ?_, hdeadline, hyields _ _ _⟩
  rw [standard, hprogram]
  dsimp only
  rw [hnone]
  rfl

/-- An engine that runs commands, and that finds nothing in their output. -/
def callingEngine : Engine Unit := luaEngine run []

/-- Its scratch directory. -/
def callingScratch : Path := .ofLocation (Scratch.numbered 0)

/-- The world in which it runs its command. -/
def callingWorld (entry : Entry) : World Unit :=
  callingEngine.runWorld Builtin.lua.language luaFile (some luaRoot) (luaWorld entry) luaRoot
    "/bin/luac" callingScratch

/-- The command, with a deadline. -/
def callBy (deadline : Binary64) : Command :=
  ⟨["/bin/luac", "/a.lua"], some luaRoot, none, some deadline⟩

theorem written_callBy (entry : Entry) :
    (callingEngine.command Builtin.lua.language luaFile luaRoot "/bin/luac" callingScratch).outcome
      (callingEngine.commandWorld Builtin.lua.language luaFile (some luaRoot) (luaWorld entry)) =
        .ok (callBy Settings.default.timeout) := rfl

theorem tried_callBy {entry : Entry} (deadline : Binary64) :
    Tried (callingWorld entry).machine (callBy deadline) where
  named := nofun
  directory := by
    intro d hd
    cases hd
    rfl
  environment := nofun
  arguments := by
    change ∀ a ∈ ["/bin/luac", "/a.lua"], '\x00' ∉ a.toList
    decide

theorem patient_default : Patient (callBy Settings.default.timeout) :=
  patient_iff.mp (by decide)

theorem started_shell :
    ∃ ending, Started standard (callBy Settings.default.timeout) (callingWorld shell) ending :=
  exists_started_standard (l := ⟨.shell, []⟩) rfl patient_default

theorem run_returns_iff_shell :
    callingEngine.runner = runOn standard ∧
    Engine.locate (luaWorld shell).machine luaFile = .ok luaFile ∧
    callingEngine.LookupAnswers luaFile (some luaRoot) (luaWorld shell) ∧
    callingEngine.scratch.Reliable ∧ callingEngine.Tells luaFile (some luaRoot) (luaWorld shell) ∧
    (∃ r, (runOn standard (callBy Settings.default.timeout)).outcome (callingWorld shell) = .ok r) ∧
    ∃ v w' t', (callingEngine.check luaFile (some luaRoot)).runIn (luaWorld shell) .empty =
      (.ok v, w', t') := by
  have hshell : shell ∈ [shell, unmarked] := List.mem_cons_self
  have hprepared : callingEngine.Prepared Builtin.lua.language luaFile (some luaRoot)
      (luaWorld shell) luaRoot "/bin/luac" callingScratch := Engine.prepared_lua hshell
  have htells : callingEngine.Tells luaFile (some luaRoot) (luaWorld shell) :=
    Engine.tells_lua hshell
  obtain ⟨-, hrun, hcheck⟩ := @run_returns_iff Unit standard
  refine ⟨rfl, rfl, hprepared.lookupAnswers, Scratch.reliable_standard, htells,
    (hrun _ _).mpr ⟨tried_callBy _, .inr started_shell⟩,
    (hcheck callingEngine luaFile luaFile _ _ rfl rfl hprepared.lookupAnswers
      Scratch.reliable_standard htells).mpr ?_⟩
  intro l root tool scratch c hp hc
  obtain ⟨rfl, rfl, rfl, rfl⟩ := hprepared.unique hp
  cases (written_callBy shell).symm.trans hc
  exact ⟨tried_callBy _, .inr started_shell⟩

/-- **Not every command that is worth trying gives a result**: the tool may be a file that the
system cannot start, which ends the check as well, and the deadline may be too far away. -/
theorem exists_run_fails :
    (∃ (c : Command) (w : World Unit) (f : Fault), Tried w.machine c ∧
      c.timeout = some Settings.default.timeout ∧ (run c).outcome w = .error f) ∧
    (∃ (c : Command) (w : World Unit) (f : Fault), Tried w.machine c ∧
      (∃ x, c.timeout = some x ∧ x.isPositive = true) ∧ (∃ l, programOf w.machine c = .ok l) ∧
      (run c).outcome w = .error f) ∧
    ∃ (e : Engine Unit) (file : Path) (given : Option Path) (w : World Unit) (f : Fault),
      e.runner = run ∧ Engine.locate w.machine file = .ok file ∧ e.LookupAnswers file given w ∧
      e.scratch.Reliable ∧ e.Tells file given w ∧
      ((e.check file given).runIn w .empty).1 = .error f := by
  have hunmarked : unmarked ∈ [shell, unmarked] := by decide
  have hfails : ∃ f, (run (callBy Settings.default.timeout)).outcome (callingWorld unmarked) =
      .error f := ⟨_, rfl⟩
  have hprepared : callingEngine.Prepared Builtin.lua.language luaFile (some luaRoot)
      (luaWorld unmarked) luaRoot "/bin/luac" callingScratch := Engine.prepared_lua hunmarked
  obtain ⟨f, hf⟩ := hfails
  refine ⟨⟨_, _, f, tried_callBy _, rfl, hf⟩,
    ⟨callBy (.infinity false), callingWorld shell, _, tried_callBy _, ⟨_, rfl, rfl⟩,
      ⟨⟨.shell, []⟩, rfl⟩, rfl⟩,
    ⟨callingEngine, luaFile, some luaRoot, luaWorld unmarked, f, rfl, rfl,
      hprepared.lookupAnswers, Scratch.reliable_standard, Engine.tells_lua hunmarked, ?_⟩⟩
  have hanswer : callingEngine.answer Builtin.lua.language luaFile (some luaRoot)
      (luaWorld unmarked) luaRoot "/bin/luac" callingScratch (callBy Settings.default.timeout) =
        .error f := hf
  rw [Engine.runIn_check_of_prepared rfl hprepared (written_callBy unmarked), hanswer]
  rfl

end SourceCheck.Execution

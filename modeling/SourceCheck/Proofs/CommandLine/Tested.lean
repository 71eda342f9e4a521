import SourceCheck.CommandLine.Run
import SourceCheck.Proofs.Hook.Answering
import SourceCheck.Proofs.Machine.Following

/-!
# The file that is tested and the file that is checked

The command `check` and the hook ask whether a path leads to a regular file, and go on only if it
does.  The check that follows reads the path once more, and it fills in the home directory, which
the test has not done.  So the two mean the same file unless the tested path starts with a tilde:
then the check may be about another file, or fail because there is no such home directory.

* `Path.TildeLed`: the paths that are changed when the home directory is filled in.
* `Engine.StaysWith`: checks that are about a given file and do not fail over their argument.
* `Tests`: the paths that a command line tests and goes on with.
* `checked_of_tested`: exactly when the check stays with the tested file.
-/

namespace SourceCheck

variable {τ : Type} {m : Machine} {p file argument : Path} {w : World τ} {t : Trace}

/-! ## 1. Paths with a tilde -/

/-- **A path that starts with a tilde**, where a home directory is filled in. -/
def Path.TildeLed (p : Path) : Prop :=
  p.anchor = .relative ∧ ∃ first rest, p.parts = first :: rest ∧ first.toList.head? = some '~'

theorem Machine.expandHome_of_not_tildeLed (h : ¬ p.TildeLed) : m.expandHome p = .ok p := by
  rw [expandHome]
  split
  · rename_i first rest hanchor hparts
    have hplain : first.toList.head? ≠ some '~' := fun hfirst =>
      h ⟨hanchor, first, rest, hparts, hfirst⟩
    rw [if_neg hplain]
  · rfl

theorem Machine.isFile?_iff :
    m.isFile? p = .ok true ↔
      ∃ l entry, m.find p true = .ok ⟨l, some entry⟩ ∧ entry.isFile = true := by
  rw [isFile?, holds?, entry?]
  cases m.find p true with
  | error f => cases hf : leadsNowhere f <;> simp [Except.map, hf]
  | ok place =>
    obtain ⟨l, e⟩ := place
    cases e with
    | none => simp [Except.map]
    | some e => simp [Except.map]

/-! ## 2. Checks that stay with a file -/

namespace Engine

open Traced

variable {e : Engine τ} {l : Language} {given : Option Path} {v : CheckResult}

/-- What a check does once it knows its file. -/
def checkLocated (e : Engine τ) (file : Path) (given : Option Path) : Traced τ CheckResult :=
  match e.registry.resolve file with
  | none => return .unsupported file
  | some l =>
    if e.settings.isDisabled l then return .disabled file l else e.checkAs l file given

theorem runIn_check_of_located (h : locate w.machine argument = .ok file) :
    (e.check argument given).runIn w t = (e.checkLocated file given).runIn w t := by
  rw [check, runIn_bind, runIn_ask, h]
  rfl

theorem Ending.file_eq (h : Ending l file v) : v.file = file := by
  cases h <;> rfl

/-- **A check says of its result that it is about the file** that it knows. -/
theorem gives_checkLocated : Gives (fun r => r.file = file) (e.checkLocated file given) := by
  rw [checkLocated]
  split
  · exact gives_pure rfl
  · split
    · exact gives_pure rfl
    · exact fun w t v hv => (gives_checkAs w t v hv).file_eq

/-- **A check that stays with a file.**  Whatever engine makes it and whatever root is given, it
does not fail over its argument: it goes on with the file, and its result is about the file. -/
def StaysWith (w : World τ) (argument file : Path) : Prop :=
  ∀ (e : Engine τ) (given : Option Path) (t : Trace),
    (e.check argument given).runIn w t = (e.checkLocated file given).runIn w t ∧
    ∀ r w' t', (e.check argument given).runIn w t = (.ok r, w', t') → r.file = file

/-- An engine that knows no language. -/
def unversed : Engine τ where
  settings := .default
  registry := .empty
  backend _ :=
    { detect := fun _ => pure false
      arguments := fun _ => pure []
      findings := fun _ => pure [] }
  runner c := pure ⟨c.arguments, 0, "", "", .completed⟩

/-- An engine that knows no language has its result at once, so it shows what was located. -/
theorem staysWith_iff : StaysWith w argument file ↔ locate w.machine argument = .ok file := by
  constructor
  · intro h
    obtain ⟨hrun, -⟩ := h unversed none .empty
    cases hlocated : locate w.machine argument with
    | error f =>
      rw [runIn_check_of_not_located hlocated] at hrun
      cases congrArg Prod.fst hrun
    | ok other =>
      rw [runIn_check_of_located hlocated] at hrun
      have hfst : (.ok (.unsupported other) : Except Fault CheckResult) = .ok (.unsupported file) :=
        congrArg Prod.fst hrun
      have hfile : other = file := congrArg CheckResult.file (Except.ok.inj hfst)
      rw [hfile]
  · intro h e given t
    refine ⟨runIn_check_of_located h, fun r w' t' hrun => ?_⟩
    rw [runIn_check_of_located h] at hrun
    exact gives_checkLocated w t r (congrArg Prod.fst hrun)

/-- **Where a path without a tilde has a resolved path, it is located there**; one with a tilde is
if it is so with the home directory filled in. -/
theorem locate_eq_ok_iff (h : m.resolve p = .ok file) :
    locate m p = .ok file ↔
      (p.TildeLed → ∃ q, m.expandHome p = .ok q ∧ m.resolve q = .ok file) := by
  rw [locate]
  constructor
  · intro hlocated _
    cases hq : m.expandHome p with
    | error f =>
      rw [hq] at hlocated
      cases hlocated
    | ok q =>
      rw [hq] at hlocated
      exact ⟨q, rfl, hlocated⟩
  · intro htilde
    by_cases hled : p.TildeLed
    · obtain ⟨q, hq, hfile⟩ := htilde hled
      rw [hq]
      exact hfile
    · rw [Machine.expandHome_of_not_tildeLed hled]
      exact h

end Engine

/-! ## 3. Paths that are tested -/

namespace CommandLine

open Traced

variable {s : Setting τ} {i : Invocation} {given : Option Path}

/-- **A path that a command line tests and goes on with**, and the root that it gives along: the
command `check` tests the path that its argument writes, the hook the file that its event
touches. -/
inductive Tests [Library] (m : Machine) (s : Setting τ) :
    Invocation → Path → Option Path → Prop
  | check (file : String) (h : m.isFile? (.ofString file) = .ok true) :
    Tests m s (.check file) (.ofString file) none
  | hook {event : String} {ev : HookEvent} {file : Path}
    (h : HookEvent.Asks m event s.stdin ev file) :
    Tests m s (.hook event) file (some (.ofString ev.directory))

theorem Tests.there [Library] (h : Tests m s i p given) : m.isFile? p = .ok true := by
  cases h with
  | check file h => exact h
  | hook h => exact h.there

/-- Making the engine reads the settings and leaves the world alone. -/
theorem world_engine [Library] (s : Setting τ) (w : World τ) (t : Trace) :
    ((engine s).runIn w t).2.1 = w := by
  rw [engine, runIn_bind, loadSettings, runIn_bind, runIn_ask]
  cases Settings.load w.machine none <;> rfl

/-- What a command line makes of the result of its check. -/
def afterCheck (s : Setting τ) : Invocation → CheckResult → Traced τ Outcome
  | .hook _, r =>
    match Hook.outcome r with
    | .ok o => return ⟨o.exitCode, "", if o.message == "" then "" else o.message ++ "\n"⟩
    | .error f => throw f
  | _, r =>
    match Report.lines r with
    | .ok lines => return ⟨r.exitCode, Console.lines s.terminal lines, ""⟩
    | .error f => throw f

/-- **A command line that tests a path goes on to check it**, and nothing has been done before. -/
theorem runIn_perform_of_tests [Library] (h : Tests w.machine s i p given) :
    (perform s i).runIn w t =
      (engine s >>= fun e => e.check p given >>= afterCheck s i).runIn w t := by
  cases h with
  | check text h =>
    rw [perform, check, runIn_bind, runIn_ask, h]
    dsimp only
    rw [if_pos rfl, checkFile, bind_assoc]
    rfl
  | @hook event ev file h =>
    have hanswer : Hook.answer (engine s) p (.ofString ev.directory) >>= (fun o => pure
        ⟨o.exitCode, "", if o.message == "" then "" else o.message ++ "\n"⟩) =
        (engine s >>= fun e => e.check p (some (.ofString ev.directory)) >>=
          afterCheck s (.hook event) : Traced τ Outcome) := by
      rw [Hook.answer, bind_assoc]
      refine bind_congr fun e => ?_
      rw [bind_assoc]
      refine bind_congr fun r => ?_
      rw [afterCheck]
      cases Hook.outcome r <;> rfl
    rw [perform, CommandLine.hook, ← hanswer, runIn_bind, runIn_bind, Hook.runIn_handle_of_asks h]

/-! ## 4. The file that is tested and the file that is checked -/

/-- **When a check stays with the tested file.**  A path that a command line has tested has a
resolved path, which is the place of the file that was found.  The command line goes on to make an
engine, which changes nothing, and to check the path; and the check stays with the resolved path
exactly if the tested path does not start with a tilde, or filling in the home directory leads to
the same file. -/
theorem checked_of_tested [Library] (w : World τ) (t : Trace) (h : Tests w.machine s i p given) :
    ∃ file, w.machine.resolve p = .ok file ∧
      (w.machine.Grounded → ∃ entry, entry.isFile = true ∧
        w.machine.find p true = .ok ⟨file.parts, some entry⟩) ∧
      (perform s i).runIn w t =
        (engine s >>= fun e => e.check p given >>= afterCheck s i).runIn w t ∧
      ((engine s).runIn w t).2.1 = w ∧
      (Engine.StaysWith w p file ↔
        (p.TildeLed → ∃ q, w.machine.expandHome p = .ok q ∧ w.machine.resolve q = .ok file)) := by
  obtain ⟨l, entry, hfind, hentry⟩ := Machine.isFile?_iff.mp h.there
  obtain ⟨file, hfile, hplace⟩ := Machine.resolve_of_find hfind
  refine ⟨file, hfile, fun hgrounded => ⟨entry, hentry, ?_⟩, runIn_perform_of_tests h,
    world_engine s w t, ?_⟩
  · rw [hplace hgrounded]
    exact hfind
  · rw [Engine.staysWith_iff]
    exact Engine.locate_eq_ok_iff hfile

/-- Standard input with an event. -/
def eventSetting (ev : HookEvent) : Setting Unit :=
  { stdin := Hook.payloadOf ev, terminal := false }

theorem tests_event [Library] {ev : HookEvent} {event : String}
    (h : HookEvent.Asks m event (Hook.payloadOf ev) ev p) :
    Tests m (eventSetting ev) (.hook event) p (some (.ofString ev.directory)) :=
  .hook h

theorem checked_of_tested_edit :
    Tests (Engine.luaWorld Engine.unmarked).machine (eventSetting Hook.edit) (.hook "PostToolUse")
      Engine.luaFile (some (.ofString "/")) ∧
    Engine.StaysWith (Engine.luaWorld Engine.unmarked) Engine.luaFile Engine.luaFile := by
  have htests : Tests (Engine.luaWorld Engine.unmarked).machine (eventSetting Hook.edit)
      (.hook "PostToolUse") Engine.luaFile (some (.ofString "/")) := tests_event Hook.asks_edit
  obtain ⟨file, hfile, -, -, -, hstays⟩ :=
    checked_of_tested (Engine.luaWorld Engine.unmarked) .empty htests
  have hlua : (Engine.luaWorld Engine.unmarked).machine.resolve Engine.luaFile =
      .ok Engine.luaFile := by decide
  cases hlua.symm.trans hfile
  refine ⟨htests, hstays.mpr fun hled => ?_⟩
  cases hled.1

/-- A directory whose name starts with a tilde and names no user, a directory `~` beside a home
directory, and files of one name in all of them. -/
def tildeWorld : World Unit :=
  ⟨{ files := ⟨[(["~ghost"], .directory 0o755), (["~ghost", "a.txt"], .file 0o644 []),
       (["~"], .directory 0o755), (["~", "a.txt"], .file 0o644 []),
       (["home"], .directory 0o755), (["home", "a.txt"], .file 0o644 [])]⟩
     environment := [("HOME", "/home")] }, ()⟩

/-- An edit of a file in a directory that is given with a tilde. -/
def ghostEdit : HookEvent := ⟨"Edit", "a.txt", "~ghost"⟩

/-- **A tested path may not be checked at all, and another file may be checked in its place.**
There is a path that both the command and the hook test, and every check of it fails; and there is
one whose check is about the file of the same name in the home directory. -/
theorem exists_tested_not_checked :
    ∃ (w : World Unit) (s : Setting Unit) (p q file other : Path),
      (Tests w.machine s (.check "~ghost/a.txt") p none ∧
        Tests w.machine s (.hook "PostToolUse") p (some (.ofString "~ghost")) ∧
        ∀ (e : Engine Unit) given t, (e.check p given).runIn w t = (.error .homeUnknown, w, t)) ∧
      Tests w.machine s (.check "~/a.txt") q none ∧ w.machine.resolve q = .ok file ∧
        other ≠ file ∧ Engine.StaysWith w q other := by
  have hghost : Path.ofString "~ghost/a.txt" = ⟨.relative, ["~ghost", "a.txt"]⟩ := by decide
  have htilde : Path.ofString "~/a.txt" = ⟨.relative, ["~", "a.txt"]⟩ := by decide
  have hnobody : Engine.locate tildeWorld.machine ⟨.relative, ["~ghost", "a.txt"]⟩ =
      .error .homeUnknown := by decide
  have hasks : HookEvent.Asks tildeWorld.machine "PostToolUse" (Hook.payloadOf ghostEdit) ghostEdit
      ⟨.relative, ["~ghost", "a.txt"]⟩ :=
    { described := Hook.describes_payloadOf ghostEdit
      name := rfl
      tool := by decide
      touched := ⟨⟨.relative, ["a.txt"]⟩, by decide, by decide⟩
      there := by decide }
  refine ⟨tildeWorld, eventSetting ghostEdit, ⟨.relative, ["~ghost", "a.txt"]⟩,
    ⟨.relative, ["~", "a.txt"]⟩, ⟨.root, ["~", "a.txt"]⟩, ⟨.root, ["home", "a.txt"]⟩,
    ⟨?_, ?_, ?_⟩, ?_, by decide, by decide, ?_⟩
  · rw [← hghost]
    exact .check _ (by rw [hghost]; decide)
  · exact tests_event hasks
  · exact fun e given t => Engine.runIn_check_of_not_located hnobody
  · rw [← htilde]
    exact .check _ (by rw [htilde]; decide)
  · rw [Engine.staysWith_iff]
    decide

end CommandLine

end SourceCheck

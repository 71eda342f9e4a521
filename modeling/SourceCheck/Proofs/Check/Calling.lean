import SourceCheck.Builtin.Language
import SourceCheck.Proofs.Check.Course

/-!
# The call of the tool

A check that has found a project root and a tool, and has a scratch directory, does one thing: it
has the command written and gives it to the runner.  What the runner says then decides how the check
ends.

* `Engine.Prepared.unique`: a check finds one root, one tool and one scratch directory.
* `Engine.LookupAnswers`, `CommandAnswers`, `Tells`: what a check relies on.
* `Engine.exists_result`: then it gives a result.
* `Engine.RunDecides`: what a run has to do with the result.
* `Engine.luaEngine`, `Engine.prepared_lua`: a small engine, and a check of it that finds its tool.
-/

namespace SourceCheck

/-- **Scratch directories that can be made and removed**, whatever happens in between. -/
structure Scratch.Reliable {τ : Type} (s : Scratch τ) : Prop where
  makes (w : World τ) : ∃ scratch, s.make.outcome w = .ok scratch
  removes (scratch : Path) (w : World τ) : (s.remove scratch).outcome w = .ok ()

theorem Scratch.reliable_standard {τ : Type} : (standard : Scratch τ).Reliable :=
  ⟨fun _ => ⟨_, rfl⟩, fun _ _ => rfl⟩

namespace Engine

variable {τ : Type} {e : Engine τ} {l : Language} {argument file root scratch : Path}
  {given : Option Path} {tool : String} {c : Command} {r : RunResult} {v : CheckResult}
  {w w' : World τ} {t t' : Trace}

/-! ## 1. Checks that have found their tool -/

/-- A check finds one language, one project root, one tool and one scratch directory. -/
theorem Prepared.unique {l' : Language} {root' scratch' : Path} {tool' : String}
    (h : e.Prepared l file given w root tool scratch)
    (h' : e.Prepared l' file given w root' tool' scratch') :
    l' = l ∧ root' = root ∧ tool' = tool ∧ scratch' = scratch := by
  obtain rfl : l = l' := Option.some.inj (h.resolved.symm.trans h'.resolved)
  obtain rfl : root = root' := Except.ok.inj (h.root_found.symm.trans h'.root_found)
  exact ⟨rfl, rfl, Option.some.inj (Except.ok.inj (h'.tool_found.symm.trans h.tool_found)),
    Except.ok.inj (h'.scratch_made.symm.trans h.scratch_made)⟩

theorem Cleared.answer_eq (h : e.Cleared l file given w root tool scratch c r) :
    e.answer l file given w root tool scratch c = .ok r := by
  rw [answer, h.removed]
  exact h.ran

/-! ## 2. What a check relies on -/

/-- **The machine answers when it is asked for the tool**, wherever the project root is. -/
def LookupAnswers (e : Engine τ) (file : Path) (given : Option Path) (w : World τ) : Prop :=
  ∀ l root, e.Takes l file → (e.detection l file given).outcome w = .ok root →
    ∃ found, (e.lookupWorld l file given w).machine.resolveTool l root = .ok found

/-- **The runner gives some result for the command of the check**, if the check comes so far. -/
def CommandAnswers (e : Engine τ) (file : Path) (given : Option Path) (w : World τ) : Prop :=
  ∀ l root tool scratch c, e.Prepared l file given w root tool scratch →
    (e.command l file root tool scratch).outcome (e.commandWorld l file given w) = .ok c →
    ∃ r, (e.runner c).outcome (e.runWorld l file given w root tool scratch) = .ok r

/-- A check that has found a tool was answered when it looked for one. -/
theorem Prepared.lookupAnswers (h : e.Prepared l file given w root tool scratch) :
    e.LookupAnswers file given w := by
  intro l' root' htakes hr
  obtain rfl : l = l' := Option.some.inj (h.resolved.symm.trans htakes.resolved)
  obtain rfl : root = root' := Except.ok.inj (h.root_found.symm.trans hr)
  exact ⟨_, h.tool_found⟩

/-- **Every failure of a backend has words.** -/
def Tells (e : Engine τ) (file : Path) (given : Option Path) (w : World τ) : Prop :=
  ∀ f t, e.Defect file given w f t → ∃ words, f.text = .ok words

/-- **A check gives a result** if the machine and the runner answer, the scratch directory is there
to be used, and the failures of the backend have words. -/
theorem exists_result (hfile : locate w.machine argument = .ok file)
    (hlookup : e.LookupAnswers file given w) (hscratch : e.scratch.Reliable)
    (hrunner : e.CommandAnswers file given w) (htells : e.Tells file given w) :
    ∃ v w' t', (e.check argument given).runIn w .empty = (.ok v, w', t') := by
  rcases hrun : (e.check argument given).runIn w .empty with ⟨_ | v, w', t'⟩
  · rename_i f
    cases breakdown_of_fails hfile hrun with
    | unanswered h hr hf =>
      obtain ⟨found, hfound⟩ := hlookup _ _ h hr
      cases hf.symm.trans hfound
    | unmade h hf =>
      obtain ⟨scratch, hmade⟩ := hscratch.makes (e.lookupWorld _ file given w)
      cases hf.symm.trans hmade
    | unremoved h hf hg => cases hg.symm.trans (hscratch.removes _ _)
    | failed h hc hf =>
      obtain ⟨r, hr⟩ := hrunner _ _ _ _ _ h hc
      rw [answer, hscratch.removes] at hf
      cases hf.symm.trans hr
    | untold h hg =>
      obtain ⟨words, hwords⟩ := htells _ _ h
      cases hg.symm.trans hwords
  · exact ⟨v, w', t', rfl⟩

/-- **A check that gives a result had its command answered**, if it came so far. -/
theorem commandAnswers_of_returns (hfile : locate w.machine argument = .ok file)
    (hrun : (e.check argument given).runIn w .empty = (.ok v, w', t')) :
    e.CommandAnswers file given w := by
  intro l root tool scratch c hprepared hc
  rw [runIn_check_of_prepared hfile hprepared hc] at hrun
  cases hanswer : e.answer l file given w root tool scratch c with
  | error f =>
    rw [hanswer] at hrun
    cases hrun
  | ok r =>
    rw [answer] at hanswer
    cases hremoved : (e.scratch.remove scratch).outcome
        (e.ranWorld l file given w root tool scratch c) with
    | error f =>
      rw [hremoved] at hanswer
      cases hanswer
    | ok _ =>
      rw [hremoved] at hanswer
      exact ⟨r, hanswer⟩

/-! ## 3. What a run has to do with the result -/

/-- **How a run decides the result**, by its status and by nothing else. -/
structure RunDecides (e : Engine τ) (l : Language) (file : Path) (r : RunResult) (v : CheckResult) :
    Prop where
  notFound : r.status = .notFound → v = .toolNotFound file l
  timedOut : r.status = .timedOut → v = .toolTimeout file l (e.timeoutDetail l)
  completed : r.status = .completed → v.status = .completed ∨ v.status = .parserDefect

theorem gives_afterRun_completed (hs : r.status = .completed) :
    Traced.Gives (fun v => v.status = .completed ∨ v.status = .parserDefect)
      (e.afterRun l file root r) := by
  rw [afterRun, hs]
  have hunreadable : ∀ f, Traced.Gives (fun v => v.status = .completed ∨ v.status = .parserDefect)
      (unreadable file l f : Traced τ CheckResult) := fun f =>
    Traced.gives_bind fun _ => Traced.gives_bind fun _ => Traced.gives_pure (.inr rfl)
  refine Traced.gives_bind fun read => ?_
  cases read with
  | error f => exact hunreadable f
  | ok findings =>
    dsimp only
    split
    · exact Traced.gives_pure (.inl rfl)
    · exact hunreadable _

/-- **The run of a check decides its result.** -/
theorem runDecides (hfile : locate w.machine argument = .ok file)
    (h : e.Ran l file given w root tool scratch c r)
    (hrun : (e.check argument given).runIn w t = (.ok v, w', t')) : e.RunDecides l file r v := by
  rw [runIn_check_of_prepared hfile h.toPrepared h.written, answer, h.ran] at hrun
  cases hremoved : (e.scratch.remove scratch).outcome
      (e.ranWorld l file given w root tool scratch c) with
  | error f =>
    rw [hremoved] at hrun
    cases hrun
  | ok _ => ?_
  rw [hremoved] at hrun
  dsimp only [Except.bind, answered] at hrun
  refine ⟨fun hs => ?_, fun hs => ?_, fun hs => ?_⟩
  · rw [afterRun, hs] at hrun
    cases hrun
    rfl
  · rw [afterRun, hs] at hrun
    cases hrun
    rfl
  · exact gives_afterRun_completed hs _ _ v (congrArg Prod.fst hrun)

/-! ## 4. One file with one command -/

/-- A file. -/
def luaFile : Path := ⟨.root, ["a.lua"]⟩

/-- The root of its project. -/
def luaRoot : Path := ⟨.root, []⟩

/-- A world with the file and the command of its language. -/
def luaWorld (command : Entry) : World Unit :=
  ⟨{ files := ⟨[(["a.lua"], .file 0o644 []), (["bin"], .directory 0o755),
       (["bin", "luac"], command)]⟩
     environment := [("PATH", "/bin")] }, ()⟩

/-- A shell. -/
def shell : Entry := .program .shell

/-- An executable file without a line that says how to start it. -/
def unmarked : Entry := .file 0o755 []

/-- An engine for that language alone, whose output parser always finds the same. -/
def luaEngine (runner : Runner Unit) (ds : List Diagnostic) : Engine Unit where
  settings := .default
  registry := ⟨[(".lua", Builtin.lua.language)], [Builtin.lua.language], [".lua"]⟩
  backend _ :=
    { detect := fun _ => pure false
      arguments := fun c => pure [c.file.text]
      findings := fun _ => pure (ds.map .diagnostic) }
  runner

theorem prepared_lua {runner : Runner Unit} {ds : List Diagnostic} {entry : Entry}
    (h : entry ∈ [shell, unmarked]) :
    (luaEngine runner ds).Prepared Builtin.lua.language luaFile (some luaRoot) (luaWorld entry)
      luaRoot "/bin/luac" (.ofLocation (Scratch.numbered 0)) where
  resolved := rfl
  enabled := rfl
  root_found := rfl
  tool_found := by
    have hworld : (luaEngine runner ds).lookupWorld Builtin.lua.language luaFile (some luaRoot)
        (luaWorld entry) = luaWorld entry := rfl
    rw [hworld]
    obtain rfl | rfl : entry = shell ∨ entry = unmarked := by simpa using h
    · rfl
    · rfl
  scratch_made := by
    obtain rfl | rfl : entry = shell ∨ entry = unmarked := by simpa using h
    · rfl
    · rfl

theorem reading_luaEngine (runner : Runner Unit) (ds : List Diagnostic) (l : Language)
    (o : ToolOutput) (w : World Unit) : (luaEngine runner ds).reading l o w = .ok ds := by
  have hfound : (((luaEngine runner ds).backend l).findings o).outcome w =
      .ok (ds.map .diagnostic) := rfl
  rw [reading, hfound]
  dsimp only
  rw [Finding.diagnostics?_eq_some_iff.mpr rfl]

/-- The failures of its backend have words. -/
theorem tells_lua {runner : Runner Unit} {ds : List Diagnostic} {entry : Entry}
    (h : entry ∈ [shell, unmarked]) :
    (luaEngine runner ds).Tells luaFile (some luaRoot) (luaWorld entry) := by
  have hprepared : (luaEngine runner ds).Prepared _ _ _ _ _ _ _ := prepared_lua h
  intro f t hdefect
  cases hdefect with
  | undetected htakes hf =>
    obtain rfl := Option.some.inj (hprepared.resolved.symm.trans htakes.resolved)
    cases hf.symm.trans hprepared.root_found
  | unwritten hunwritten => cases hunwritten.unwritten
  | unread hunread =>
    have hreading := hunread.unread
    rw [reading_luaEngine] at hreading
    cases hreading

end Engine

end SourceCheck

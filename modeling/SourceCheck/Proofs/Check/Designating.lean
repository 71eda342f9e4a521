import SourceCheck.Execution.Standard
import SourceCheck.Proofs.Check.Calling
import SourceCheck.Proofs.Machine.Legible
import SourceCheck.Proofs.Project.Tool

/-!
# The file that is started

A check looks for the tool where the program runs and has it started in the project root, so what it
hands over is a text that is read in two directories.  An absolute text designates one file in both.
A tool under the project root is always given by one, since the root is a resolved path.  A tool on
the search path is given by one only if its directory is; a tool from a relative directory is looked
up once more, from the project root, and there may be nothing, or another file.

* `Engine.prepared_of_called`: a command comes from a check that has found its tool.
* `Engine.root_of_detection`: the project root is absolute, and its text gives it back.
* `Engine.called_tool`: the file that a command designates.
* `Engine.exists_called_elsewhere`: a command that designates nothing.
-/

namespace SourceCheck

namespace Engine

open Traced

variable {τ : Type} {e : Engine τ} {l : Language} {argument file root scratch : Path}
  {given : Option Path} {tool : String} {c : Command} {w w' : World τ} {t : Trace}

/-! ## 1. Commands that are called -/

/-- After the run a check calls nobody. -/
theorem commands_afterRun (e : Engine τ) (l : Language) (file root : Path) (r : RunResult)
    (w : World τ) (t : Trace) :
    ((e.afterRun l file root r).runIn w t).2.2.commands = t.commands := by
  unfold afterRun
  cases r.status with
  | notFound => rfl
  | timedOut => rfl
  | completed =>
    dsimp only
    rw [runIn_readOutput]
    cases e.reading l ⟨r.stdout, r.stderr, file, root⟩ w with
    | ok ds => rfl
    | error f =>
      dsimp only
      rw [runIn_unreadable]
      cases f.text <;> rfl

/-- Once the runner has answered, the command it was given is the only one. -/
theorem commands_answered (e : Engine τ) (l : Language) (file root : Path) (w : World τ)
    (c : Command) (answer : Except Fault RunResult) :
    (e.answered l file root w (Trace.empty.withCommand c) answer).2.2.commands = [c] := by
  cases answer with
  | error f => rfl
  | ok r => exact commands_afterRun ..

theorem commands_defect (l : Language) (file : Path) (stage : String) (f : Fault) (w : World τ) :
    ((defect file l stage f).runIn w .empty).2.2.commands = [] := by
  rw [runIn_defect]
  cases f.text <;> rfl

section Called

variable {r : Except Fault CheckResult}

theorem located_of_called (hrun : (e.check argument given).runIn w .empty = (r, w', t))
    (hc : c ∈ t.commands) : ∃ file, locate w.machine argument = .ok file := by
  cases hfile : locate w.machine argument with
  | ok file => exact ⟨file, rfl⟩
  | error f =>
    rw [runIn_check_of_not_located hfile] at hrun
    cases hrun
    exact absurd hc List.not_mem_nil

theorem takes_of_called (hfile : locate w.machine argument = .ok file)
    (hrun : (e.check argument given).runIn w .empty = (r, w', t)) (hc : c ∈ t.commands) :
    ∃ l, e.Takes l file := by
  rw [runIn_check hfile] at hrun
  cases hl : e.registry.resolve file with
  | none =>
    rw [hl] at hrun
    cases hrun
    exact absurd hc List.not_mem_nil
  | some l =>
    rw [hl] at hrun
    dsimp only at hrun
    split at hrun
    · cases hrun
      exact absurd hc List.not_mem_nil
    · rename_i hon
      exact ⟨l, hl, Bool.eq_false_iff.mpr hon⟩

theorem detected_of_called (hfile : locate w.machine argument = .ok file) (h : e.Takes l file)
    (hrun : (e.check argument given).runIn w .empty = (r, w', t)) (hc : c ∈ t.commands) :
    ∃ root, (e.detection l file given).outcome w = .ok root := by
  rw [runIn_check_of_takes hfile h] at hrun
  cases hr : (e.detection l file given).outcome w with
  | ok root => exact ⟨root, rfl⟩
  | error f =>
    rw [hr] at hrun
    dsimp only at hrun
    have hcommands := commands_defect l file "project detection" f (e.lookupWorld l file given w)
    rw [hrun] at hcommands
    exact absurd hc (hcommands ▸ List.not_mem_nil)

/-- A command that cannot be written is given to nobody. -/
theorem commands_launched (e : Engine τ) (l : Language) (file : Path) (given : Option Path)
    (w : World τ) (root : Path) (tool : String) (scratch : Path) (written : Except Fault Command) :
    (e.launched l file given w root tool scratch .empty written).2.2.commands =
      match written with
      | .error _ => []
      | .ok c => [c] := by
  cases written with
  | ok c => exact commands_answered ..
  | error f =>
    exact commands_defect ..

/-- **A command comes from a check that has found its tool**, whatever the check comes to. -/
theorem prepared_of_called (hrun : (e.check argument given).runIn w .empty = (r, w', t))
    (hc : c ∈ t.commands) :
    ∃ l file root tool scratch, locate w.machine argument = .ok file ∧
      e.Prepared l file given w root tool scratch ∧
      (e.command l file root tool scratch).outcome (e.commandWorld l file given w) = .ok c := by
  obtain ⟨file, hfile⟩ := located_of_called hrun hc
  obtain ⟨l, htakes⟩ := takes_of_called hfile hrun hc
  obtain ⟨root, hr⟩ := detected_of_called hfile htakes hrun hc
  rw [runIn_check_of_detected hfile htakes hr] at hrun
  split at hrun
  · cases hrun
    exact absurd hc List.not_mem_nil
  · cases hrun
    exact absurd hc List.not_mem_nil
  · rename_i tool htool
    split at hrun
    · cases hrun
      exact absurd hc List.not_mem_nil
    · rename_i scratch hmade
      have hcommands := e.commands_launched l file given w root tool scratch
        ((e.command l file root tool scratch).outcome (e.commandWorld l file given w))
      rw [hrun] at hcommands
      rw [hcommands] at hc
      cases hwritten : (e.command l file root tool scratch).outcome
          (e.commandWorld l file given w) with
      | error f =>
        rw [hwritten] at hc
        exact absurd hc List.not_mem_nil
      | ok c' =>
        rw [hwritten] at hc
        exact ⟨l, file, root, tool, scratch, hfile, ⟨⟨htakes, hr, htool⟩, hmade⟩,
          List.mem_singleton.mp hc ▸ hwritten⟩

end Called

/-! ## 2. The project root -/

theorem mem_of_firstRoot {detect : Path → Action τ Bool} {fallback : Path} {places : List Path}
    (h : (Project.firstRoot detect fallback places).outcome w = .ok root) :
    root = fallback ∨ root ∈ places := by
  induction places generalizing w with
  | nil =>
    cases h
    exact .inl rfl
  | cons place rest ih =>
    rw [Project.firstRoot, Action.outcome_bind] at h
    cases hroot : (Project.isRoot detect place).outcome w with
    | error f =>
      rw [hroot] at h
      cases h
    | ok accepted =>
      rw [hroot] at h
      cases accepted with
      | true =>
        cases h
        exact .inr List.mem_cons_self
      | false => exact (ih h).imp_right (List.mem_cons_of_mem place)

/-- The root of the project of a file is one of the directories above it. -/
theorem root_of_findRoot {detect : Path → Action τ Bool} (hfile : file.Legible)
    (habsolute : file.isAbsolute = true)
    (h : (Project.findRoot detect file).outcome w = .ok root) :
    root.Legible ∧ root.isAbsolute = true := by
  have hparent : file.parent.Legible := hfile.of_subset (List.dropLast_subset _)
  rcases mem_of_firstRoot h with rfl | hmem
  · exact ⟨hparent, habsolute⟩
  · obtain ⟨hlegible, hsame⟩ := hparent.of_mem_upward hmem
    exact ⟨hlegible, hsame.trans habsolute⟩

/-- **The project root** is absolute, and its text gives it back. -/
theorem root_of_detection (hworking : Machine.Slashless w.machine.workingDirectory)
    (hgiven : ∀ p, given = some p → p.Legible) (hfile : file.Legible)
    (habsolute : file.isAbsolute = true) (h : (e.detection l file given).outcome w = .ok root) :
    root.Legible ∧ root.isAbsolute = true := by
  unfold detection rootFor at h
  cases given with
  | none => exact root_of_findRoot hfile habsolute h
  | some p =>
    dsimp only at h
    rw [Action.outcome_bind, Action.outcome_ask, Action.final_ask] at h
    cases hdirectory : w.machine.isDirectory? p with
    | error f =>
      rw [hdirectory] at h
      cases h
    | ok there =>
      rw [hdirectory] at h
      cases there with
      | false => exact root_of_findRoot hfile habsolute h
      | true =>
        have hresolved : w.machine.resolve p = .ok root :=
          (Action.outcome_ask (fun m => m.resolve p) w).symm.trans h
        exact ⟨Machine.legible_resolve hworking (hgiven p rfl) hresolved,
          Machine.isAbsolute_of_resolve hresolved⟩

/-- The file of a check is absolute, and its text gives it back. -/
theorem file_of_locate {m : Machine} (hworking : Machine.Slashless m.workingDirectory)
    (hargument : argument.Legible) (h : locate m argument = .ok file) :
    file.Legible ∧ file.isAbsolute = true := by
  rw [locate] at h
  split at h
  · rename_i p hp
    exact ⟨Machine.legible_resolve hworking (Machine.legible_expandHome hargument hp) h,
      Machine.isAbsolute_of_resolve h⟩
  · cases h

/-! ## 3. The file that is started -/

/-- **An absolute path leads to the same place** for a command as for the program. -/
theorem find_viewOf {m : Machine} {p : Path} (h : p.isAbsolute = true) (c : Command)
    (followLast : Bool) : (Execution.viewOf m c).find p followLast = m.find p followLast := by
  rw [Execution.viewOf]
  split
  · rfl
  · split
    · exact Machine.find_of_isAbsolute h _ followLast
    · rfl

/-- **A tool that is for a command what it is for the program**: whoever runs the command does not
search for it, and finds at the end of its path what the program finds there. -/
structure Alike (m : Machine) (c : Command) (tool : String) : Prop where
  unsearched (searchPath : String) : Machine.candidates searchPath tool = [tool]
  find : (Execution.viewOf m c).find (Path.ofString tool) true = m.find (Path.ofString tool) true

theorem alike_of_isAbsolute (h : (Path.ofString tool).isAbsolute = true) (m : Machine)
    (c : Command) : Alike m c tool :=
  ⟨Machine.candidates_of_isAbsolute h, find_viewOf h c true⟩

/-- **The file that a command designates.**  The argument and the given root are paths that were
read from texts, and no slash stands in a name of the working directory.  Then every command of a
check is the tool that was found, with its arguments, in the project root: the first place under the
root that holds an executable file, or, if none does, the hit of the search on the path.  From the
project root it designates the file that was found, if it stands under the root, if its text is
absolute, or if all directories on the path are. -/
theorem called_tool {r : Except Fault CheckResult}
    (hworking : Machine.Slashless w.machine.workingDirectory) (hargument : argument.Legible)
    (hgiven : ∀ p, given = some p → p.Legible)
    (hrun : (e.check argument given).runIn w .empty = (r, w', t)) (hc : c ∈ t.commands) :
    ∃ l file root tool scratch arguments m, m = (e.lookupWorld l file given w).machine ∧
      e.Prepared l file given w root tool scratch ∧ c.arguments = tool :: arguments ∧
      c.directory = some root ∧ m.isExecutable (Path.ofString tool) = true ∧
      (m.FoundUnder root l.localPaths tool ∧ Alike m c tool ∨ m.FoundOnPath l root tool) ∧
      ((Path.ofString tool).isAbsolute = true → Alike m c tool) ∧
      ('/' ∉ l.tool.toList →
        (∀ directory ∈ m.searchedDirectories, directory.toList.head? = some '/') →
        Alike m c tool) := by
  obtain ⟨l, file, root, tool, scratch, hfile, hprepared, hwritten⟩ := prepared_of_called hrun hc
  obtain ⟨configured, arguments, -, -, hcommand⟩ := (e.outcome_command_eq_ok_iff ..).mp hwritten
  obtain ⟨hlegible, habsolute⟩ := file_of_locate hworking hargument hfile
  obtain ⟨hroot, hrooted⟩ :=
    root_of_detection hworking hgiven hlegible habsolute hprepared.root_found
  have halike : (Path.ofString tool).isAbsolute = true →
      Alike (e.lookupWorld l file given w).machine c tool :=
    fun h => alike_of_isAbsolute h _ c
  refine ⟨l, file, root, tool, scratch, arguments, _, rfl, hprepared, by rw [hcommand],
    by rw [hcommand], ?_⟩
  rcases Machine.found_of_resolveTool hprepared.tool_found with hunder | hpath
  · have hsame := halike (hunder.isAbsolute hroot hrooted)
    exact ⟨hunder.isExecutable hroot, .inl ⟨hunder, hsame⟩, halike, fun _ _ => hsame⟩
  · refine ⟨hpath.2.isExecutable, .inr hpath, halike, fun hbare hdirectories => halike ?_⟩
    exact hpath.2.isAbsolute hbare hdirectories

/-- A world with a file in a project, and with the command of its language in a directory beside it.
-/
def besideWorld (searchPath : String) : World Unit :=
  ⟨{ files := ⟨[(["p"], .directory 0o755), (["p", "a.lua"], .file 0o644 []),
       (["bin"], .directory 0o755), (["bin", "luac"], shell)]⟩
     environment := [("PATH", searchPath)] }, ()⟩

/-- The file. -/
def besideFile : Path := ⟨.root, ["p", "a.lua"]⟩

/-- The root of its project. -/
def besideRoot : Path := ⟨.root, ["p"]⟩

/-- The command that checks the file. -/
def besideCommand (tool : String) : Command :=
  ⟨[tool, "/p/a.lua"], some besideRoot, none, some Settings.default.timeout⟩

/-- A runner for which every command is completed. -/
def contentRunner : Runner Unit := fun c => pure ⟨c.arguments, 0, "", "", .completed⟩

theorem called_tool_beside :
    Machine.Slashless (besideWorld "/bin").machine.workingDirectory ∧ besideFile.Legible ∧
    (∀ p, some besideRoot = some p → p.Legible) ∧
    ∃ r w' t, ((luaEngine contentRunner []).check besideFile (some besideRoot)).runIn
        (besideWorld "/bin") .empty = (r, w', t) ∧ besideCommand "/bin/luac" ∈ t.commands ∧
      ∃ m : Machine, m.isExecutable (Path.ofString "/bin/luac") = true ∧
        Alike m (besideCommand "/bin/luac") "/bin/luac" := by
  have hworking : Machine.Slashless (besideWorld "/bin").machine.workingDirectory := fun _ => nofun
  have hargument : besideFile.Legible := by decide
  have hgiven : ∀ p, some besideRoot = some p → p.Legible := by
    rintro p hp
    rw [← Option.some.inj hp]
    decide
  obtain ⟨r, w', t, hrun, hc⟩ : ∃ r w' t, ((luaEngine contentRunner []).check besideFile
      (some besideRoot)).runIn (besideWorld "/bin") .empty = (r, w', t) ∧
      besideCommand "/bin/luac" ∈ t.commands :=
    ⟨_, _, _, rfl, List.mem_singleton.mpr rfl⟩
  refine ⟨hworking, hargument, hgiven, r, w', t, hrun, hc, ?_⟩
  obtain ⟨l, file, root, tool, scratch, arguments, m, -, -, harguments, -, hexecutable, -, halike,
    -⟩ :=
    called_tool hworking hargument hgiven hrun hc
  obtain ⟨rfl, -⟩ := List.cons.inj harguments
  exact ⟨m, hexecutable, halike (by decide)⟩

/-- **A command that designates something else**: the tool is found in a directory that the path
names by a relative text, and from the project root that text leads nowhere. -/
theorem exists_called_elsewhere :
    ((luaEngine Execution.run []).check besideFile (some besideRoot)).runIn (besideWorld "bin")
        .empty =
      (.ok (.toolNotFound besideFile Builtin.lua.language), besideWorld "bin",
        Trace.empty.withCommand (besideCommand "bin/luac")) ∧
    (besideWorld "bin").machine.find (Path.ofString "bin/luac") true =
      .ok ⟨["bin", "luac"], some shell⟩ ∧
    (Execution.viewOf (besideWorld "bin").machine (besideCommand "bin/luac")).find
        (Path.ofString "bin/luac") true = .error (.system .missing "bin/luac") :=
  ⟨rfl, rfl, rfl⟩

end Engine

end SourceCheck

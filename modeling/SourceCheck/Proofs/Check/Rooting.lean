import SourceCheck.Proofs.Check.Designating
import SourceCheck.Proofs.Project.Search

/-!
# Checks that search for their root

A check that is given no root, or one that is no directory, searches for the root of the file's
project.  The search asks the machine for markers and the detector of the file's language, and what
one of them fails with is what the search fails with.  This is the end of the check.

* `Engine.Searches`: checks that search for their root.
* `Engine.runIn_check_of_unrooted`: a search that fails is the end of the check.
* `Engine.nearest_root`: the search and the end of a check whose search fails.
* `Engine.exists_asked_above_root`: directories above the root in which the detector is asked.
-/

namespace SourceCheck

namespace Engine

open Project (Arrives Fails Marked Passes Qualifies Searched findRoot markers noDetector noting
  searched)

variable {τ : Type} {e : Engine τ} {l : Language} {argument file : Path} {given : Option Path}
  {w : World τ} {t : Trace} {f : Fault}

/-! ## 1. Searches that fail -/

/-- **A check that searches for its root**: it is given none, or one that is no directory. -/
def Searches (m : Machine) (given : Option Path) : Prop :=
  ∀ p, given = some p → m.isDirectory? p = .ok false

/-- **The step that finds the root decides where a check goes**: it is the end of the check, or the
check goes on in the project. -/
theorem runIn_check_of_ends {r : Except Fault Path} {w₁ : World τ}
    (hfile : locate w.machine argument = .ok file) (h : e.Takes l file) :
    (e.detection l file given).Ends w r w₁ →
    (e.check argument given).runIn w t = match r with
      | .error f => (defect file l "project detection" f).runIn w₁ t
      | .ok root => (e.checkIn l file root).runIn w₁ t := by
  rintro ⟨rfl, rfl⟩
  exact runIn_check_of_takes hfile h

theorem ends_detection_of_searches (e : Engine τ) (l : Language) (file : Path)
    (h : Searches w.machine given) : (e.detection l file given).Ends w
      ((findRoot (e.backend l).detect file).outcome w)
      ((findRoot (e.backend l).detect file).final w) := by
  cases given with
  | none => exact ⟨rfl, rfl⟩
  | some p =>
    have hask := Action.ends_ask (fun m => m.isDirectory? p) w
    rw [h p rfl] at hask
    exact hask.bind ⟨rfl, rfl⟩

/-- **A search that fails is the end of the check**: the backend is to blame, and no tool is looked
for. -/
theorem runIn_check_of_unrooted (hfile : locate w.machine argument = .ok file) (h : e.Takes l file)
    (hgiven : Searches w.machine given)
    (hfailed : (findRoot (e.backend l).detect file).outcome w = .error f) :
    (e.check argument given).runIn w t = match f.text with
      | .ok words => (.ok (.backendDefect file l words),
          (findRoot (e.backend l).detect file).final w,
          t.withLogs [defectRecord "project detection" l words])
      | .error g => (.error g, (findRoot (e.backend l).detect file).final w, t) := by
  have hends := e.ends_detection_of_searches l file hgiven
  rw [hfailed] at hends
  rw [runIn_check_of_ends hfile h hends]
  exact runIn_defect ..

/-! ## 2. The nearest root -/

/-- **The root of a file is the nearest directory that qualifies.**

The search goes up from the file's own directory as the path is written, to the root of the file
system if the path is absolute.  It finds the first directory that holds a marker or that the
detector accepts, and the file's own if there is none.  The detector is asked in the directories up
to there, once in each and only where no marker is; if none qualifies, it is asked in all of them.

The search fails exactly where it comes to a directory at which the machine refuses to say whether a
marker is there, or which holds none and at which the detector fails; and it fails with what this
one fails with.  Then the check blames the backend in the words of the failure, if it has any, and
runs no tool. -/
theorem nearest_root (detect : Path → Action τ Bool) (file : Path) (w : World τ) :
    (∃ asked, Searched detect file w asked) ∧
    (∀ (m : Machine) (directory : Path),
      (∀ name ∈ markers, ∃ there, m.exists? (directory.child name) = .ok there) →
      (Marked m directory ↔ ∃ name ∈ markers, m.exists? (directory.child name) = .ok true)) ∧
    (file.parent.upward.head? = some file.parent ∧
      file.parent.upward.getLast? = some ⟨file.anchor, []⟩) ∧
    ∀ (e : Engine τ) (l : Language) (argument : Path) (given : Option Path) (t : Trace) (f : Fault),
      (e.backend l).detect = detect → locate w.machine argument = .ok file → e.Takes l file →
      Searches w.machine given →
      (∃ directory w', Arrives detect file w directory w' ∧ Fails detect w' directory f) →
      (e.check argument given).runIn w t = match f.text with
        | .ok words => (.ok (.backendDefect file l words), (findRoot detect file).final w,
            t.withLogs [defectRecord "project detection" l words])
        | .error g => (.error g, (findRoot detect file).final w, t) := by
  obtain ⟨asked, hsearched⟩ := searched detect file w
  refine ⟨⟨asked, hsearched⟩, fun m directory => Project.marked_iff,
    ⟨?_, file.parent.getLast?_upward⟩, ?_⟩
  · rw [Path.upward_eq]
    rfl
  · rintro e l argument given t f rfl hfile htakes hgiven hfails
    exact runIn_check_of_unrooted hfile htakes hgiven ((hsearched.raised f).mpr hfails)

/-- An engine whose detectors fail. -/
def detectorlessEngine : Engine Unit where
  settings := .default
  registry := (luaEngine contentRunner []).registry
  backend _ :=
    { detect := fun _ => throw (.raised "no project")
      arguments := fun c => pure [c.file.text]
      findings := fun _ => pure [] }
  runner := contentRunner

theorem nearest_root_lua :
    (∃ asked, Searched (fun _ => throw (.raised "no project")) besideFile (besideWorld "/bin")
      asked) ∧
    (Marked (besideWorld "/bin").machine besideRoot ↔ ∃ name ∈ markers,
      (besideWorld "/bin").machine.exists? (besideRoot.child name) = .ok true) ∧
    (detectorlessEngine.check besideFile none).runIn (besideWorld "/bin") .empty =
      (.ok (.backendDefect besideFile Builtin.lua.language "no project"), besideWorld "/bin",
        Trace.empty.withLogs
          [defectRecord "project detection" Builtin.lua.language "no project"]) := by
  obtain ⟨hsearched, hmarked, -, hfailed⟩ := nearest_root (fun _ => throw (.raised "no project"))
    besideFile (besideWorld "/bin")
  have hanswers : ∀ name ∈ markers,
      ∃ there, (besideWorld "/bin").machine.exists? (besideRoot.child name) = .ok there := by
    intro name hname
    have hno : ∀ name ∈ markers,
        (besideWorld "/bin").machine.exists? (besideRoot.child name) = .ok false := by
      decide +kernel
    exact ⟨false, hno name hname⟩
  refine ⟨hsearched, hmarked _ _ hanswers, ?_⟩
  have hunmarked : Project.Unmarked (besideWorld "/bin").machine besideRoot := by
    unfold Project.Unmarked
    decide +kernel
  exact hfailed detectorlessEngine Builtin.lua.language besideFile none .empty
    (.raised "no project") rfl rfl ⟨rfl, rfl⟩ (fun _ => nofun)
    ⟨besideRoot, besideWorld "/bin", ⟨[], [luaRoot], rfl, .start _⟩, .inr ⟨hunmarked, rfl⟩⟩

/-! ## 3. Where a search goes on, and where it stops -/

/-- A world with a file in a directory, and a program that works in another one. -/
def deepWorld : World Unit :=
  ⟨{ files := ⟨[(["usr"], .directory 0o755), (["w"], .directory 0o755)]⟩
     workingDirectory := ["w"] }, ()⟩

/-- A file with a path that depends on the working directory. -/
def nearFile : Path := ⟨.relative, ["a.lua"]⟩

/-- A detector that looks for a directory by its name. -/
def usrDetector (directory : Path) : Action Unit Bool :=
  Action.ask fun m => m.exists? (directory.child "usr")

/-- A world with a directory that may not be searched. -/
def closedWorld : World Unit := ⟨{ files := ⟨[(["closed"], .directory 0o600)]⟩ }, ()⟩

/-- A file there. -/
def closedFile : Path := ⟨.root, ["closed", "a.lua"]⟩

/-- **Where no directory qualifies, the detector is asked above the root**; the search from a
relative path does not come to the root of the file system, though it would qualify; and a search
can fail though no detector does. -/
theorem exists_asked_above_root :
    (findRoot (noting noDetector) besideFile).Ends ((besideWorld "/bin").beside [])
      (.ok besideRoot) ((besideWorld "/bin").beside [besideRoot, luaRoot]) ∧
    luaRoot ∈ besideRoot.upward ∧ luaRoot ≠ besideRoot ∧
    (findRoot usrDetector nearFile).outcome deepWorld = .ok ⟨.relative, []⟩ ∧
    (usrDetector luaRoot).outcome deepWorld = .ok true ∧
    (usrDetector ⟨.relative, []⟩).outcome deepWorld = .ok false ∧
    deepWorld.machine.resolve ⟨.relative, []⟩ = .ok ⟨.root, ["w"]⟩ ∧
    ∃ path, (findRoot noDetector closedFile).outcome closedWorld =
      .error (.system .forbidden path) := by
  refine ⟨⟨rfl, rfl⟩, ?_, ?_, rfl, rfl, rfl, rfl, _, rfl⟩
  · decide
  · decide

end Engine

end SourceCheck

import SourceCheck.Execution.Start
import SourceCheck.Project.Tool
import SourceCheck.Proofs.Path

/-!
# The tool that is found

A tool is found in one of two ways.  Under the project root the first of its places counts that
holds an executable file, and the answer is the text of that place.  On the search path the first
directory counts that holds one, and the answer is the directory's text with the tool's name behind
it; where the directory is given by a relative text, so is the tool.  An absolute text designates
the same file from everywhere, a relative one does not.

* `Machine.FoundUnder`, `FoundOnPath`: the two ways.
* `Machine.found_of_resolveTool`: a tool is found in one of them.
* `Machine.find_of_isAbsolute`, `candidates_of_isAbsolute`: what an absolute text designates.
-/

namespace SourceCheck.Machine

variable {m : Machine} {l : Language} {root p : Path} {places : List String} {name tool : String}

/-! ## 1. Under the project root -/

/-- **A place of an executable file.** -/
def Startable (m : Machine) (p : Path) : Prop := m.isFile? p = .ok true ∧ m.isExecutable p = true

/-- **The tool stands under the root**, in the first of some places that hold an executable file. -/
def FoundUnder (m : Machine) (root : Path) (places : List String) (tool : String) : Prop :=
  ∃ before place after, places = before ++ place :: after ∧ tool = (root.child place).text ∧
    m.Startable (root.child place) ∧ ∀ other ∈ before, ¬ m.Startable (root.child other)

/-- **Looking under the root** finds the tool there, or goes through all places in vain. -/
theorem localTool_cases {found : Option String} (h : m.localTool root places = .ok found) :
    (∃ tool, found = some tool ∧ m.FoundUnder root places tool) ∨
      (found = none ∧ ∀ place ∈ places, ¬ m.Startable (root.child place)) := by
  induction places with
  | nil =>
    cases h
    exact .inr ⟨rfl, fun _ => nofun⟩
  | cons place rest ih =>
    unfold localTool at h
    dsimp only at h
    split at h
    · cases h
    · rename_i there hthere
      split at h
      · rename_i hboth
        obtain ⟨rfl, hexecutable⟩ := Bool.and_eq_true_iff.mp hboth
        cases h
        exact .inl ⟨_, rfl, [], place, rest, rfl, rfl, ⟨hthere, hexecutable⟩, fun _ => nofun⟩
      · rename_i hmiss
        have hfirst : ¬ m.Startable (root.child place) := by
          rintro ⟨hfile, hexecutable⟩
          cases hthere.symm.trans hfile
          exact hmiss (Bool.and_eq_true_iff.mpr ⟨rfl, hexecutable⟩)
        rcases ih h with ⟨tool, rfl, before, hit, after, rfl, htool, hhit, hbefore⟩ | ⟨rfl, hall⟩
        · exact .inl ⟨tool, rfl, place :: before, hit, after, rfl, htool, hhit,
            List.forall_mem_cons.mpr ⟨hfirst, hbefore⟩⟩
        · exact .inr ⟨rfl, List.forall_mem_cons.mpr ⟨hfirst, hall⟩⟩

/-! ## 2. On the search path -/

/-- The directories that a machine looks through for a program. -/
def searchedDirectories (m : Machine) : List String :=
  let searchPath := (m.environmentValue? "PATH").getD defaultSearchPath
  if searchPath == "" then [] else searchDirectories searchPath

/-- **The hit of a search**: a name with a directory in it stands for itself, and another one is
found in the first directory that holds an executable file of that name. -/
inductive SearchHit (m : Machine) (name : String) : String → Prop
  | named (hslash : '/' ∈ name.toList) (h : m.isExecutable (Path.ofString name) = true) :
    SearchHit m name name
  | searched (before : List String) (directory : String) (after : List String)
    (hslash : '/' ∉ name.toList)
    (hdirectories : m.searchedDirectories = before ++ directory :: after)
    (h : m.isExecutable (Path.ofString (inDirectory directory name)) = true)
    (hbefore : ∀ other ∈ before,
      m.isExecutable (Path.ofString (inDirectory other name)) = false) :
    SearchHit m name (inDirectory directory name)

theorem searchHit_of_which (h : m.which name = some tool) : m.SearchHit name tool := by
  rw [which] at h
  split at h
  · rename_i hslash
    split at h
    · rename_i hexecutable
      cases h
      exact .named (List.contains_iff_mem.mp hslash) hexecutable
    · cases h
  · rename_i hslash
    have hbare : '/' ∉ name.toList := fun hmem => hslash (List.contains_iff_mem.mpr hmem)
    dsimp only at h
    split at h
    · cases h
    · rename_i hpath
      obtain ⟨hhit, mapped, behind, hmapped, hmisses⟩ := List.find?_eq_some_iff_append.mp h
      obtain ⟨before, rest, hdirectories, rfl, hrest⟩ := List.map_eq_append_iff.mp hmapped
      obtain ⟨directory, after, rfl, rfl, -⟩ := List.map_eq_cons_iff.mp hrest
      refine .searched before directory after hbare ?_ hhit fun other hother => ?_
      · rw [searchedDirectories]
        exact (if_neg hpath).trans hdirectories
      · have hmiss := hmisses _ (List.mem_map_of_mem hother)
        simpa using hmiss

theorem SearchHit.isExecutable (h : m.SearchHit name tool) :
    m.isExecutable (Path.ofString tool) = true := by
  cases h with
  | named hslash h => exact h
  | searched before directory after hslash hdirectories h hbefore => exact h

/-- A text that starts with a slash stays one when something is put behind it. -/
theorem head?_inDirectory {directory : String} (h : directory.toList.head? = some '/')
    (name : String) : (inDirectory directory name).toList.head? = some '/' := by
  have happend : ∀ rest : String, (directory ++ rest).toList.head? = some '/' := by
    intro rest
    rw [String.toList_append, List.head?_append, h]
    rfl
  have hne : ¬ (directory == "") = true := by
    intro hempty
    rw [beq_iff_eq.mp hempty] at h
    cases h
  rw [inDirectory, if_neg hne]
  split
  · exact happend name
  · rw [String.append_assoc]
    exact happend _

/-- **Where all directories are given by absolute texts**, so is the hit. -/
theorem SearchHit.isAbsolute (h : m.SearchHit name tool) (hbare : '/' ∉ name.toList)
    (hdirectories : ∀ directory ∈ m.searchedDirectories, directory.toList.head? = some '/') :
    (Path.ofString tool).isAbsolute = true := by
  cases h with
  | named hslash h => exact absurd hslash hbare
  | searched before directory after hslash heq h hbefore =>
    have hmem : directory ∈ m.searchedDirectories :=
      heq ▸ List.mem_append_right _ List.mem_cons_self
    exact Path.isAbsolute_ofString_iff.mpr (head?_inDirectory (hdirectories directory hmem) name)

/-! ## 3. In either way -/

/-- **The tool stands on the search path**, and nowhere under the root. -/
def FoundOnPath (m : Machine) (l : Language) (root : Path) (tool : String) : Prop :=
  (∀ place ∈ l.localPaths, ¬ m.Startable (root.child place)) ∧ m.SearchHit l.tool tool

/-- **A tool that is found** stands under the root, or on the search path. -/
theorem found_of_resolveTool (h : m.resolveTool l root = .ok (some tool)) :
    m.FoundUnder root l.localPaths tool ∨ m.FoundOnPath l root tool := by
  rw [resolveTool] at h
  split at h
  · cases h
  · rename_i found hlocal
    cases h
    rcases localTool_cases hlocal with ⟨other, hother, hunder⟩ | ⟨hnone, -⟩
    · cases hother
      exact .inl hunder
    · cases hnone
  · rename_i hlocal
    rcases localTool_cases hlocal with ⟨other, hother, -⟩ | ⟨-, hall⟩
    · cases hother
    · exact .inr ⟨hall, searchHit_of_which (Except.ok.inj h)⟩

/-- The text of a tool under a legible root gives its place back. -/
theorem FoundUnder.ofString_eq (h : m.FoundUnder root places tool) (hroot : root.Legible) :
    ∃ place ∈ places, Path.ofString tool = root.child place ∧ m.Startable (root.child place) := by
  obtain ⟨before, place, after, rfl, rfl, hhit, -⟩ := h
  exact ⟨place, List.mem_append_right _ List.mem_cons_self,
    Path.ofString_text (hroot.child place), hhit⟩

theorem FoundUnder.isAbsolute (h : m.FoundUnder root places tool) (hroot : root.Legible)
    (habsolute : root.isAbsolute = true) : (Path.ofString tool).isAbsolute = true := by
  obtain ⟨place, -, htext, -⟩ := h.ofString_eq hroot
  rw [htext]
  exact Path.isAbsolute_join habsolute

theorem FoundUnder.isExecutable (h : m.FoundUnder root places tool) (hroot : root.Legible) :
    m.isExecutable (Path.ofString tool) = true := by
  obtain ⟨place, -, htext, hhit⟩ := h.ofString_eq hroot
  rw [htext]
  exact hhit.2

/-! ## 4. What an absolute text designates -/

/-- **An absolute path leads to the same place** whatever the working directory is. -/
theorem find_of_isAbsolute (h : p.isAbsolute = true) (here : Location) (followLast : Bool) :
    Machine.find { m with workingDirectory := here } p followLast = m.find p followLast := by
  have hstart : Machine.startOf { m with workingDirectory := here } p = m.startOf p := by
    rw [startOf, startOf, if_pos h, if_pos h]
  rw [Machine.find, Machine.find, hstart]

/-- A program that is given by an absolute text is not searched for. -/
theorem candidates_of_isAbsolute (h : (Path.ofString tool).isAbsolute = true)
    (searchPath : String) : candidates searchPath tool = [tool] := by
  have hslash : '/' ∈ tool.toList := List.mem_of_head? (Path.isAbsolute_ofString_iff.mp h)
  rw [candidates, if_pos (List.contains_iff_mem.mpr hslash)]

end SourceCheck.Machine

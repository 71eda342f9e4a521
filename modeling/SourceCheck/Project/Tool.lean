import SourceCheck.Machine.Search
import SourceCheck.Language

/-!
# Finding the tool

A project's own copy of a tool comes before the one on the search path.

* `Machine.resolveTool`: the program that checks a language's files in a project.
-/

namespace SourceCheck.Machine

/-- The first of some places under a project root that holds an executable file. -/
def localTool (m : Machine) (root : Path) : List String → Except Fault (Option String)
  | [] => .ok none
  | place :: rest =>
    let candidate := root.child place
    match m.isFile? candidate with
    | .error f => .error f
    | .ok there =>
      if there && m.isExecutable candidate then .ok (some candidate.text)
      else localTool m root rest

/-- **The program that checks a language's files in a project**, if there is one. -/
def resolveTool (m : Machine) (l : Language) (root : Path) : Except Fault (Option String) :=
  match m.localTool root l.localPaths with
  | .error f => .error f
  | .ok (some tool) => .ok (some tool)
  | .ok none => .ok (m.which l.tool)

end SourceCheck.Machine

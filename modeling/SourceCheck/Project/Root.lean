import SourceCheck.Project.Markers
import SourceCheck.World

/-!
# The project root

The root of a file's project is the nearest directory, going up from the file's own, that holds a
marker or that the language's detector accepts.  Without one it is the file's own directory.

* `Project.findRoot`: the root of a file's project.
-/

namespace SourceCheck.Project

variable {τ : Type}

/-- **Names that mark a project root**, whatever the language. -/
def markers : List String := [
  ".git", ".hg", "package.json", "pyproject.toml", "setup.cfg", "go.mod", "Cargo.toml", "pom.xml",
  "build.gradle", "build.sbt", "composer.json", "mix.exs", "CMakeLists.txt", "build.zig"]

/-- Whether a directory is a project root.  The detector is asked only where no marker is. -/
def isRoot (detect : Path → Action τ Bool) (directory : Path) : Action τ Bool := do
  if ← Action.ask fun m => m.holdsAny directory markers then return true
  else detect directory

/-- The first of some directories that is a project root, or a fallback. -/
def firstRoot (detect : Path → Action τ Bool) (fallback : Path) : List Path → Action τ Path
  | [] => return fallback
  | directory :: rest => do
    if ← isRoot detect directory then return directory
    else firstRoot detect fallback rest

/-- **The root of a file's project.** -/
def findRoot (detect : Path → Action τ Bool) (file : Path) : Action τ Path :=
  firstRoot detect file.parent file.parent.upward

/-- A detector that accepts no directory. -/
def noDetector : Path → Action τ Bool := fun _ => return false

end SourceCheck.Project

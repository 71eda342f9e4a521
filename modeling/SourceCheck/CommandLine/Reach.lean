import SourceCheck.CommandLine.Run

/-!
# What a run can see

Before a command runs, the part of the file system that it may ask about is known: the file that is
checked, the directories above it, the settings file, and the places where tools are.

* `CommandLine.listedDirectories`: the directories whose entries a run asks about.
* `CommandLine.readFiles`: the files whose contents a run asks about.
-/

namespace SourceCheck.CommandLine

/-- The file that an invocation is about, and the directory that it is seen from. -/
def subject? (m : Machine) (stdin : String) : Invocation → Option Path
  | .check file => some ((Path.ofLocation m.workingDirectory).join (Path.ofString file))
  | .hook _ =>
    (HookEvent.ofPayload? stdin).bind fun e =>
      match e.target m with
      | .ok file => some ((Path.ofLocation m.workingDirectory).join file)
      | .error _ => none
  | _ => none

/-- **The directories whose entries a run asks about.** -/
def listedDirectories (m : Machine) (stdin : String) (i : Invocation) : List Path :=
  match subject? m stdin i with
  | some file => file.parent.upward
  | none => []

/-- The places on the search path where the tools of the languages may be. -/
def toolPlaces (m : Machine) (languages : List Language) : List Path :=
  let searchPath := (m.environmentValue? "PATH").getD Machine.defaultSearchPath
  (Machine.searchDirectories searchPath).flatMap fun d =>
    languages.map fun l => (Path.ofString d).child l.tool

/-- The places below some directories where projects keep their own tools. -/
def localPlaces (directories : List Path) (languages : List Language) : List Path :=
  directories.flatMap fun d => languages.flatMap fun l => l.localPaths.map d.child

/-- **The files whose contents a run asks about.** -/
def readFiles (m : Machine) (stdin : String) (i : Invocation) : List Path :=
  let languages := Builtin.registry.languages
  let settings := match Settings.location m none with
    | .ok file => [file]
    | .error _ => []
  settings ++ (subject? m stdin i).toList ++ toolPlaces m languages ++
    localPlaces (listedDirectories m stdin i) languages

end SourceCheck.CommandLine

import SourceCheck.Machine.Basic

/-!
# Looking a program up

A program given by a bare name is looked for in the directories of the search path, in order; the
first one that holds an executable file of that name wins, and the answer is the directory's text
followed by the name.  An empty directory text means the working directory and adds nothing.
-/

namespace SourceCheck.Machine

/-- The text of a name inside a directory. -/
def inDirectory (directory name : String) : String :=
  if directory == "" then name
  else if directory.toList.getLast? = some '/' then directory ++ name
  else directory ++ "/" ++ name

/-- The directories of a search path. -/
def searchDirectories (searchPath : String) : List String :=
  (Text.fields ':' searchPath.toList).map String.ofList

/-- Where programs are looked for when the environment does not say. -/
def defaultSearchPath : String := "/bin:/usr/bin"

/-- **Where a program is found.**  A name with a directory in it is not searched for. -/
def which (m : Machine) (name : String) : Option String :=
  if name.toList.contains '/' then
    if m.isExecutable (Path.ofString name) then some name else none
  else
    let searchPath := (m.environmentValue? "PATH").getD defaultSearchPath
    if searchPath == "" then none
    else ((searchDirectories searchPath).map (inDirectory · name)).find? fun p =>
      m.isExecutable (Path.ofString p)

end SourceCheck.Machine

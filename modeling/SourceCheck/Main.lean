import SourceCheck.CommandLine.Reach

/-!
# The program

A command runs on a copy of the part of the real file system that it can see, and what it changes
there is written back.  Tools that are scripts are run by the shell of this library, so nothing but
the settings file is ever touched.
-/

namespace SourceCheck.Main

/-- The variables of the environment that commands ask about. -/
def askedVariables : List String :=
  ["HOME", "PATH", Settings.locationVariable, "LANG", "LC_ALL", "TERM", "COLUMNS"]

/-- The text of a path as the real file system takes it. -/
def realText (l : Location) : String := (Path.ofLocation l).text

/-- The entry at a real place; the bytes of a file are read only if they are asked for. -/
def entryAt (l : Location) (withBytes : Bool) : IO (Option Entry) := do
  let place := System.mkFilePath [realText l]
  try
    match (← place.metadata).type with
    | .dir => return some (.directory FileTree.directoryMode)
    | .file =>
      let bytes ← if withBytes then IO.FS.readBinFile place else pure ByteArray.empty
      return some (.file FileTree.directoryMode bytes.toList)
    | _ => return none
  catch _ => return none

/-- Copies a real place and the directories above it. -/
def copyPlace (m : Machine) (l : Location) (withBytes : Bool) : IO Machine := do
  let mut files := m.files
  for n in List.range l.length do
    let here := l.take (n + 1)
    if let some e ← entryAt here (withBytes && n + 1 == l.length) then
      files := files.put here e
  return { m with files }

/-- Copies the entries of a real directory. -/
def copyDirectory (m : Machine) (l : Location) : IO Machine := do
  try
    let mut m := m
    for entry in ← (System.mkFilePath [realText l]).readDir do
      m ← copyPlace m (l ++ [entry.fileName]) false
    return m
  catch _ => return m

/-- A path as a place in the file tree. -/
def placeOf (m : Machine) (p : Path) : Location :=
  ((Path.ofLocation m.workingDirectory).join p).parts

/-- A machine without files in the real surroundings. -/
def surroundings : IO Machine := do
  let workingDirectory := (Path.ofString (← IO.currentDir).toString).parts
  let mut environment := []
  for name in askedVariables do
    if let some value ← IO.getEnv name then environment := environment ++ [(name, value)]
  return { files := ⟨[]⟩, workingDirectory, environment, users := [], fileLimit := none }

/-- The programs that scripts are made of. -/
def withPrograms (m : Machine) : Machine :=
  let programs := [("sh", Program.shell), ("sleep", .sleep), ("wc", .wordCount)]
  { m with files := programs.foldl (fun t p =>
      (t.put ["bin", p.1] (.program p.2)).put ["usr", "bin", p.1] (.program p.2)) m.files }

/-- A copy of what a run can see. -/
def copied (m : Machine) (stdin : String) (i : Invocation) : IO Machine := do
  let mut m := m
  for d in m.workingDirectory :: (CommandLine.listedDirectories m stdin i).map (placeOf m) do
    m ← copyPlace m d false
    m ← copyDirectory m d
  for f in CommandLine.readFiles m stdin i do
    m ← copyPlace m (placeOf m f) true
  return withPrograms m

/-- Writes the settings file back if a run changed it. -/
def writeBack (before after : Machine) : IO Unit := do
  if let .ok file := Settings.location before none then
    let l := placeOf before file
    match after.files.lookup l with
    | some (.file _ bytes) =>
      if before.files.lookup l != after.files.lookup l then
        IO.FS.createDirAll (System.mkFilePath [realText l.dropLast])
        IO.FS.writeBinFile (System.mkFilePath [realText l]) ⟨bytes.toArray⟩
    | _ => return ()

/-- A log record as a line. -/
def logLine (r : LogRecord) : String :=
  (match r.level with
    | .warning => "WARNING  "
    | .error => "ERROR    ") ++ r.text

/-- Runs a command, and gives the exit code. -/
def runCommand (i : Invocation) : IO UInt32 := do
  let stdin ← match i with
    | .hook _ => (← IO.getStdin).readToEnd
    | _ => pure ""
  let terminal ← (← IO.getStdout).isTty
  let before ← copied (← surroundings) stdin i
  let (r, world, trace) :=
    (CommandLine.run { stdin, terminal } i).runIn (⟨before, ()⟩ : World Unit) .empty
  writeBack before world.machine
  for record in trace.logs do IO.eprintln (logLine record)
  match r with
  | .ok o =>
    IO.print o.stdout
    IO.eprint o.stderr
    return o.exitCode.toUInt32
  | .error f =>
    IO.eprintln f.message
    return 1

end SourceCheck.Main

/-- The program: checks files, answers editors, and keeps the settings. -/
def main (arguments : List String) : IO UInt32 := do
  match SourceCheck.Invocation.ofArguments (← SourceCheck.Main.surroundings) arguments with
  | .ok i => SourceCheck.Main.runCommand i
  | .error problem =>
    IO.eprintln problem.message
    return 2

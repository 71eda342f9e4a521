import SourceCheck.Fault
import SourceCheck.Machine.Basic
import SourceCheck.Text.Similar

/-!
# Reading a command line

A command line is a command with its argument.  Flags may stand before the command, and among the
arguments behind it; none of them takes a value.  Two dashes end the flags.

If there is no such command, the command line is read once more from the command's name on, flags
in front included: what is wrong with a flag there is said first, and the first word left over is
taken for a misspelt command.

A file that is named must be one that may be read, if it is there.

* `Invocation.ofArguments`: what a command line asks for.
* `UsageError.message`: what is wrong with it.
-/

namespace SourceCheck

/-- **What a command line asks for.** -/
inductive Invocation
  | check (file : String)
  | hook (event : String)
  | enable (language : String)
  | disable (language : String)
  | status
  | help
  /-- How the program is used, and nothing else. -/
  | usage
  deriving DecidableEq, Repr

/-- **What can be wrong with a command line.** -/
inductive UsageProblem
  | missingCommand
  | noSuchCommand (name : String)
  /-- There is no such flag; some are similar. -/
  | noSuchOption (name : String) (similar : List String)
  /-- A flag has got a value. -/
  | unwantedValue (name : String)
  | missingArgument (name : String)
  /-- A file name holds the null character. -/
  | nullInPath
  /-- There is a file, but nobody may read it. -/
  | unreadablePath (name path : String)
  | extraArguments (values : List String)
  deriving DecidableEq, Repr

/-- **Why a command line is refused.** -/
structure UsageError where
  problem : UsageProblem
  /-- The word that may be a misspelt command, if there is one. -/
  misspelt : Option String
  deriving DecidableEq, Repr

namespace Invocation

/-- The commands, each with the name of its argument if it takes one. -/
def commands : List (String × Option String) := [
  ("check", some "file"), ("hook", some "event"), ("enable", some "language"),
  ("disable", some "language"), ("status", none), ("help", none)]

/-- The flag that asks how the program is used. -/
def helpFlag : String := "--help"

/-- The flags that stand before a command. -/
def leadingFlags : List String := ["--debug", helpFlag]

/-- The flags that stand behind a command. -/
def commandFlags : List String := [helpFlag]

end Invocation

/-! ## 1. Words for problems -/

namespace UsageProblem

/-- Texts with a separator between them. -/
def joined (separator : String) : List String → String
  | [] => ""
  | [s] => s
  | s :: rest => s ++ separator ++ joined separator rest

/-- The words for a problem without any advice. -/
def words : UsageProblem → String
  | missingCommand => "Missing command."
  | noSuchCommand name => "No such command " ++ Text.quoted name ++ "."
  | noSuchOption name _ => "No such option: " ++ name
  | unwantedValue name => "Option " ++ Text.quoted name ++ " does not take a value."
  | missingArgument name => "Missing argument '" ++ name ++ "'."
  | nullInPath => Fault.nullCharacter.message
  | unreadablePath name path =>
    "Invalid value for '" ++ name ++ "': Path " ++ Text.quoted path ++ " is not readable."
  | extraArguments values => "Got unexpected extra argument(s) (" ++ joined " " values ++ ")"

/-- The flags that may have been meant. -/
def possibleOptions : UsageProblem → String
  | noSuchOption _ (s :: similar) => " (Possible options: " ++ joined ", " (s :: similar) ++ ")"
  | _ => ""

end UsageProblem

namespace UsageError

/-- A text without full stops at its end. -/
def withoutStops (s : String) : String :=
  String.ofList (s.toList.reverse.dropWhile (· == '.')).reverse

/-- The commands that a word may mean. -/
def meant (word : String) : List String := Text.similarTo word (Invocation.commands.map (·.1))

/-- **What is said about a command line that is refused.** -/
def message (e : UsageError) : String :=
  let words := e.problem.words
  let words := match (e.misspelt.map meant).getD [] with
    | [] => words
    | names => withoutStops words ++ ". Did you mean " ++
        UsageProblem.joined ", " (names.map Text.quoted) ++ "?"
  words ++ e.problem.possibleOptions

end UsageError

/-! ## 2. Flags -/

namespace Invocation

/-- Whether an argument has the form of a flag. -/
def isFlag (argument : String) : Bool :=
  match argument.toList with
  | '-' :: _ :: _ => true
  | _ => false

/-- **The flag that an argument is.**  One that starts with two dashes is a word, up to an equals
sign; another one is a letter. -/
def flag (known : List String) (argument : String) : Except UsageProblem String :=
  let name := String.ofList (argument.toList.takeWhile (· != '='))
  if known.contains name then
    if name == argument then .ok name else .error (.unwantedValue name)
  else match argument.toList with
    | '-' :: '-' :: _ =>
      let similar := (Text.similarTo name known).mergeSort fun a b => decide (a ≤ b)
      .error (.noSuchOption name similar)
    | cs => .error (.noSuchOption (String.ofList (cs.take 2)) [])

/-- **What stands in front of a command**, as far as it can be read. -/
structure Leading where
  flags : List String
  /-- What is wrong with the flag where reading ended. -/
  problem : Option UsageProblem
  /-- The arguments behind. -/
  rest : List String
  deriving DecidableEq, Repr

/-- Reads what stands in front of a command. -/
def leading : List String → Leading
  | [] => ⟨[], none, []⟩
  | argument :: rest =>
    if argument == "--" then ⟨[], none, rest⟩
    else if isFlag argument then
      match flag leadingFlags argument with
      | .ok name => { leading rest with flags := name :: (leading rest).flags }
      | .error p => ⟨[], some p, rest⟩
    else ⟨[], none, argument :: rest⟩

/-- The flags and the values among the arguments of a command. -/
def arguments : List String → Except UsageProblem (List String × List String)
  | [] => .ok ([], [])
  | argument :: rest =>
    if argument == "--" then .ok ([], rest)
    else if isFlag argument then do
      let name ← flag commandFlags argument
      let (flags, values) ← arguments rest
      return (name :: flags, values)
    else do
      let (flags, values) ← arguments rest
      return (flags, argument :: values)

/-! ## 3. Commands -/

/-- The value of the one argument that a command takes. -/
def oneValue (name : String) : List String → Except UsageProblem String
  | [] => .error (.missingArgument name)
  | [v] => .ok v
  | _ :: extra => .error (.extraArguments extra)

/-- **What is wrong with a file name among the arguments.**  That nothing is there is no problem
yet. -/
def pathProblem? (m : Machine) (name path : String) : Option UsageProblem :=
  let p := Path.ofString path
  if p.hasNull then some .nullInPath
  else match m.entry? p with
    | .ok (some e) => if e.isReadable then none else some (.unreadablePath name path)
    | _ => none

/-- The value of the one argument that a command takes, a file name.  It is looked at before the
arguments are counted. -/
def onePath (m : Machine) (name : String) (values : List String) : Except UsageProblem String :=
  match values.head?.bind (pathProblem? m name) with
  | some p => .error p
  | none => oneValue name values

/-- A command that takes no argument. -/
def noValue (i : Invocation) : List String → Except UsageProblem Invocation
  | [] => .ok i
  | extra => .error (.extraArguments extra)

/-- Whether there is a command of a name. -/
def isCommand (name : String) : Bool := commands.any fun c => c.1 == name

/-- The command of a name with its argument. -/
def ofCommand (m : Machine) (name : String) (given : List String) :
    Except UsageProblem Invocation := do
  let (flags, values) ← arguments given
  if flags.contains helpFlag then return usage
  match name with
  | "check" => (onePath m "file" values).map check
  | "hook" => (oneValue "event" values).map hook
  | "enable" => (oneValue "language" values).map enable
  | "disable" => (oneValue "language" values).map disable
  | "status" => noValue status values
  | _ => noValue help values

/-- What a command line with an unknown command comes to. -/
def ofUnknown (name : String) (rest : List String) : Except UsageError Invocation :=
  let again := leading (name :: rest)
  if again.problem.isNone && again.flags.contains helpFlag then .ok usage
  else .error ⟨again.problem.getD (.noSuchCommand name), again.rest.head?⟩

/-- **What a command line asks for**, or what is wrong with it. -/
def ofArguments (m : Machine) (given : List String) : Except UsageError Invocation :=
  let l := leading given
  match l.problem with
  | some p => .error ⟨p, none⟩
  | none =>
    if given = [] || l.flags.contains helpFlag then .ok usage
    else match l.rest with
      | [] => .error ⟨.missingCommand, none⟩
      | name :: rest =>
        if isCommand name then (ofCommand m name rest).mapError fun p => ⟨p, none⟩
        else ofUnknown name rest

end Invocation

end SourceCheck

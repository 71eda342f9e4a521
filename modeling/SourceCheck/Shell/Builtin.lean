import SourceCheck.Shell.Directory
import SourceCheck.Shell.Escape
import SourceCheck.Shell.Format
import SourceCheck.Shell.Lookup
import SourceCheck.Shell.Mask
import SourceCheck.Shell.OptionWalk
import SourceCheck.Shell.Options
import SourceCheck.Shell.Signals
import SourceCheck.Shell.Test

/-!
# Commands of the shell itself

* `plainBuiltin`: the commands that need nothing but the shell's state.
* `leave`, `goesOn`: how loops end.
-/

namespace SourceCheck.Shell

/-! ## 1. Ends -/

/-- Counts down the levels of a loop that is left. -/
def leave : Flow → Flow
  | .breaking (n + 2) => .breaking (n + 1)
  | .continuing (n + 2) => .continuing (n + 1)
  | .breaking _ | .continuing _ => .next
  | f => f

/-- Whether a loop goes on after its body ended in some way. -/
def goesOn : Flow → Bool
  | .next | .continuing 1 | .continuing 0 => true
  | _ => false

/-- The number among the arguments of a command that takes one; without it there is none. -/
def numberAmong (arguments : List (List Char)) : Except (List Char) (Option Nat) :=
  match arguments with
  | [] => .ok none
  | word :: _ =>
    match Arithmetic.numberIn? 10 word with
    | some n => .ok (some n)
    | none => .error ("Illegal number: ".toList ++ word)

/-- A special command whose arguments are wrong ends the shell. -/
def specialFailure (command : String) (problem : List Char) (sh : State) : Flow × State :=
  (.failed, sh.failing 2 (command ++ ": ") problem)

/-- Leaves a loop; outside of loops nothing happens. -/
def leaving (command : String) (flow : Nat → Flow) (arguments : List (List Char)) (sh : State) :
    Flow × State :=
  match numberAmong arguments with
  | .error problem => specialFailure command problem sh
  | .ok (some 0) => specialFailure command ("Illegal number: ".toList ++ arguments.headD []) sh
  | .ok n =>
    (if sh.frame.loops == 0 then .next else flow (min sh.frame.loops (n.getD 1)), sh.withStatus 0)

/-- Ends the shell or a function; a shell that ends in a trap has the status from before it. -/
def ending (command : String) (flow : Flow) (arguments : List (List Char)) (sh : State) :
    Flow × State :=
  match numberAmong arguments with
  | .error problem => specialFailure command problem sh
  | .ok none =>
    (flow, if flow = .exit then sh.withStatus (sh.frame.beforeTrap.getD sh.frame.status) else sh)
  | .ok (some n) => (flow, sh.withStatus (n % 256))

/-- Drops arguments from the front. -/
def shiftArguments (arguments : List (List Char)) (sh : State) : Flow × State :=
  match numberAmong arguments with
  | .error problem => specialFailure "shift" problem sh
  | .ok given =>
    let n := given.getD 1
    if n ≤ sh.frame.arguments.length then
      (.next, withArguments (sh.frame.arguments.drop n) sh)
    else specialFailure "shift" "can't shift that many".toList sh

/-! ## 2. Printing and testing -/

/-- The shell prints what a format says; complaints do not wait until everything is printed. -/
def printFormat (arguments : List (List Char)) (sh : State) : State :=
  match flags "" arguments with
  | .error problem => sh.failing 2 "printf: " problem
  | .ok (_, []) => sh.failing 2 "printf: usage: printf format [arg ...]" []
  | .ok (_, format :: rest) =>
    let p := printf format rest
    let sh := p.complaints.foldl (fun sh c => sh.complain ("printf: ".toList ++ c)) sh
    (sh.print p.text).withStatus (if p.badFormat then 2 else if p.complaints.isEmpty then 0 else 1)

/-- The status of a condition. -/
def condition (command : String) (words : List (List Char)) (sh : State) : State :=
  match test sh.view words with
  | .ok b => sh.withStatus (if b then 0 else 1)
  | .error problem => sh.failing 2 (command ++ ": ") problem

/-- The time that the shell and its programs took: nothing that could be told. -/
def timesTaken : List Char := "0m0.000000s 0m0.000000s\n0m0.000000s 0m0.000000s\n".toList

/-! ## 3. Jobs and limits -/

/-- A job that should come to the front, where there is none. -/
def noJob (command : String) (arguments : List (List Char)) (sh : State) : State :=
  let isCurrent := fun (w : List Char) => w == ['%', '%'] || w == ['%', '+'] || w == ['%']
  match flags "" arguments with
  | .error problem => sh.failing 2 (command ++ ": ") problem
  | .ok (_, []) => sh.failing 2 (command ++ ": No current job") []
  | .ok (_, word :: _) =>
    if isCurrent word then sh.failing 2 (command ++ ": No current job") []
    else sh.failing 2 (command ++ ": No such job: ") word

/-- Lists jobs: those in the background are not shown. -/
def listJobs (arguments : List (List Char)) (sh : State) : State :=
  match flags "lp" arguments with
  | .error problem => sh.failing 2 "jobs: " problem
  | .ok _ => sh

/-- Shows a limit, none of which is set, or takes note of one. -/
def showLimit (arguments : List (List Char)) (sh : State) : State :=
  match flags "HSatfdscmlpnvwr" arguments with
  | .error problem => sh.failing 2 "ulimit: " problem
  | .ok (_, []) => sh.print "unlimited\n".toList
  | .ok (_, [word]) =>
    if word == "unlimited".toList || (Arithmetic.numberIn? 10 word).isSome then sh
    else sh.failing 2 "ulimit: bad number" []
  | .ok _ => sh.failing 2 "ulimit: too many arguments" []

/-! ## 4. All of them -/

/-- The commands that change a state whose status is zero. -/
def stateBuiltin? (name : String) (arguments : List (List Char)) : Option (State → State) :=
  match name with
  | ":" | "true" => some id
  | "false" => some (·.withStatus 1)
  | "echo" => some (·.print (echo arguments))
  | "printf" => some (printFormat arguments)
  | "test" => some (condition "test" arguments)
  | "[" =>
    some fun sh => if arguments.getLast? == some [']'] then condition "[" arguments.dropLast sh
      else sh.failing 2 "[: missing ]" []
  | "pwd" => some (printDirectory arguments)
  | "cd" | "chdir" => some (changeDirectory arguments)
  | "read" => some (readLine arguments)
  | "getopts" => some (nextOption arguments)
  | "umask" => some (changeMask arguments)
  | "hash" => some (locate arguments)
  | "alias" => some (setAliases arguments)
  | "unalias" => some (dropAliases arguments)
  | "type" => some (describeAll arguments)
  | "times" => some (·.print timesTaken)
  | "jobs" => some (listJobs arguments)
  | "fg" | "bg" => some (noJob name arguments)
  | "ulimit" => some (showLimit arguments)
  | _ => none

/-- The commands that may end something, run with a status of zero. -/
def endingBuiltin? (name : String) (arguments : List (List Char)) :
    Option (State → Flow × State) :=
  match name with
  | "set" =>
    some fun sh => if arguments.isEmpty then (.next, sh.print (allVariables sh))
      else setOptions arguments sh
  | "shift" => some (shiftArguments arguments)
  | "unset" => some (unsetAll arguments)
  | "export" => some (exportAll arguments)
  | "readonly" => some (fixAll arguments)
  | "local" => some (localAll arguments)
  | "trap" => some (setTraps arguments)
  | "break" => some (leaving name .breaking arguments)
  | "continue" => some (leaving name .continuing arguments)
  | _ => none

/-- **The commands that need nothing but the shell's state.** -/
def plainBuiltin (name : String) (arguments : List (List Char)) (sh : State) :
    Option (Flow × State) :=
  match name with
  | "exit" => some (ending name .exit arguments sh)
  | "return" => some (ending name .returning arguments sh)
  | _ =>
    match stateBuiltin? name arguments with
    | some f => some (.next, f (sh.withStatus 0))
    | none => (endingBuiltin? name arguments).map fun f => f (sh.withStatus 0)

/-- What comes of a command that could not print what it had to. -/
def afterPrinting (name : List Char) (sh : State) : State :=
  if sh.unprinted then
    let sh := { sh with unprinted := false }
    (sh.complain (name ++ ": ".toList ++ name ++ ": I/O error".toList)).withStatus
      (sh.frame.status ||| 1)
  else sh

end SourceCheck.Shell

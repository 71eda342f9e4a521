import SourceCheck.Shell.Flags

/-!
# Signals

A signal is ignored, runs a script of the shell that gets it, or ends that shell.

* `setTraps`: what happens when a signal comes.
* `sendingOf`: what `kill` is asked to do.
* `noted`: what is said about a program that a signal ended.
-/

namespace SourceCheck.Shell

/-- The names of the signals that have one, and the end of the shell. -/
def signalNames : List (String × Nat) := [
  ("EXIT", 0), ("HUP", 1), ("INT", 2), ("QUIT", 3), ("ILL", 4), ("TRAP", 5), ("ABRT", 6),
  ("BUS", 7), ("FPE", 8), ("KILL", 9), ("USR1", 10), ("SEGV", 11), ("USR2", 12), ("PIPE", 13),
  ("ALRM", 14), ("TERM", 15), ("CHLD", 17), ("CONT", 18), ("STOP", 19), ("TSTP", 20),
  ("TTIN", 21), ("TTOU", 22), ("URG", 23), ("XCPU", 24), ("XFSZ", 25), ("VTALRM", 26),
  ("PROF", 27), ("WINCH", 28), ("IO", 29), ("PWR", 30), ("SYS", 31), ("RTMIN", 34), ("RTMAX", 64)]

/-- The number behind the last signal. -/
def signalLimit : Nat := 65

/-- **The name of a signal**; some only have a number, some are counted from a neighbour. -/
def signalName (n : Nat) : String :=
  match signalNames.find? fun x => x.2 == n with
  | some x => x.1
  | none =>
    if 34 < n && n < 50 then "RTMIN+" ++ toString (n - 34)
    else if 50 ≤ n && n < 64 then "RTMAX-" ++ toString (64 - n)
    else toString n

/-- **The signal that a number or a name designates**, in any case, from some number on. -/
def signal? (least : Nat) (s : List Char) : Option Nat :=
  match Arithmetic.numberIn? 10 s with
  | some n => if n < signalLimit then some n else none
  | none =>
    let word := s.map Char.toUpper
    (List.range signalLimit).find? fun n => least ≤ n && (signalName n).toList == word

/-- Signals that do nothing unless they are asked for. -/
def isHarmless (signal : Nat) : Bool := [0, 17, 18, 23, 28].contains signal

/-- Signals that halt a process without ending it. -/
def isHalting (signal : Nat) : Bool := [19, 20, 21, 22].contains signal

/-! ## 1. Traps -/

/-- The traps as a script that sets them. -/
def listTraps (traps : List (Nat × List Char)) : List Char :=
  (List.range signalLimit).flatMap fun n =>
    match traps.find? fun t => t.1 == n with
    | some t => "trap -- ".toList ++ inQuotes t.2 ++ (" " ++ signalName n ++ "\n").toList
    | none => []

/-- Sets what one signal does; with `none` it does what it does by itself. -/
def setTrap (action : Option (List Char)) (signal : Nat) (sh : State) : State :=
  sh.withFrame fun f =>
    let others := f.traps.filter fun t => t.1 != signal
    { f with traps := match action with
      | some text => (signal, text) :: others
      | none => others }

/-- Sets what some signals do, up to the first that is none. -/
def setEachTrap (action : Option (List Char)) : List (List Char) → State → State
  | [], sh => sh
  | name :: names, sh =>
    match signal? 0 name with
    | some signal => setEachTrap action names (setTrap action signal sh)
    | none => (sh.say ("trap: ".toList ++ name ++ ": bad trap\n".toList)).withStatus 1

/-- **Sets what signals do**, or lists it. -/
def setTraps (arguments : List (List Char)) (sh : State) : Flow × State :=
  match flags "" arguments with
  | .error problem => (.failed, sh.failing 2 "trap: " problem)
  | .ok (_, []) => (.next, sh.print (listTraps sh.frame.traps))
  | .ok (_, [name]) => (.next, setEachTrap none [name] sh)
  | .ok (_, action :: names) =>
    (.next, if (Arithmetic.numberIn? 10 action).any (· < signalLimit) then
        setEachTrap none (action :: names) sh
      else setEachTrap (if action == ['-'] then none else some action) names sh)

/-! ## 2. Sending -/

/-- **What `kill` is asked to do.** -/
inductive Sending
  | send (signal : Nat) (targets : List (List Char))
  | list
  | name (signal : Nat)
  | refused (words : List Char)

/-- How `kill` is used. -/
def killUsage : List Char :=
  "Usage: kill [-s sigspec | -signum | -sigspec] [pid | job]... or\nkill -l [exitstatus]".toList

/-- What a number of a signal, or the status of what a signal ended, is asked about. -/
def namingOf (word : List Char) : Sending :=
  match Arithmetic.numberIn? 10 word with
  | none => .refused ("Illegal number: ".toList ++ word)
  | some n =>
    let signal := if 128 < n then n - 128 else n
    if 0 < signal && signal < signalLimit then .name signal
    else .refused ("invalid signal number or exit status: ".toList ++ word)

/-- What flags and targets ask for. -/
def sendingBehind (found : List (Char × List Char)) (targets : List (List Char)) : Sending :=
  let lists := found.any (·.1 == 'l')
  let named := (found.filter (·.1 == 's')).map fun f => (f.2, signal? 1 f.2)
  match named.find? (·.2.isNone), named.getLast?.bind (·.2) with
  | some bad, _ => .refused ("invalid signal number or name: ".toList ++ bad.1)
  | none, signal =>
    match lists, signal, targets with
    | true, none, [] => .list
    | true, none, word :: _ => namingOf word
    | true, some _, _ | false, _, [] => .refused killUsage
    | false, signal, targets => .send (signal.getD 15) targets

/-- **What the arguments of `kill` ask for.** -/
def sendingOf (arguments : List (List Char)) : Sending :=
  let asSignal := match arguments with
    | ('-' :: name) :: rest => (signal? 1 name).map fun n => (n, rest)
    | _ => none
  match asSignal, flags "ls:" arguments with
  | some (_, []), _ => .refused killUsage
  | some (signal, targets), _ => .send signal targets
  | none, .error problem => .refused problem
  | none, .ok (found, targets) => sendingBehind found targets

/-- The names of all signals. -/
def listSignals : List Char :=
  "0\n".toList ++ ((List.range signalLimit).drop 1).flatMap fun n => (signalName n ++ "\n").toList

/-! ## 3. Ends by signals -/

/-- The words for the end of a program by a signal; some signals pass without words. -/
def endingWords (signal : Nat) : String :=
  match signal with
  | 1 => "Hangup\n"
  | 3 => "Quit\n"
  | 4 => "Illegal instruction\n"
  | 5 => "Trace/breakpoint trap\n"
  | 6 => "Aborted\n"
  | 7 => "Bus error\n"
  | 8 => "Floating point exception\n"
  | 9 => "Killed\n"
  | 10 => "User defined signal 1\n"
  | 11 => "Segmentation fault\n"
  | 12 => "User defined signal 2\n"
  | 14 => "Alarm clock\n"
  | 15 => "Terminated\n"
  | 16 => "Stack fault\n"
  | 24 => "CPU time limit exceeded\n"
  | 25 => "File size limit exceeded\n"
  | 26 => "Virtual timer expired\n"
  | 27 => "Profiling timer expired\n"
  | 29 => "I/O possible\n"
  | 30 => "Power failure\n"
  | 31 => "Bad system call\n"
  | n => if 34 ≤ n then "Real-time signal " ++ toString (n - 34) ++ "\n" else ""

/-- The shell goes on behind a program that a signal ended. -/
def noted (signal : Nat) (sh : State) : State :=
  (sh.say (endingWords signal).toList).withStatus (128 + signal)

/-- Stops a background job with a signal. -/
def killJob (number signal : Nat) (sh : State) : State :=
  { sh with jobs := sh.jobs.map fun j =>
      if j.number == number && j.killed.isNone then { j with killed := some ⟨sh.clock, signal⟩ }
      else j }

end SourceCheck.Shell

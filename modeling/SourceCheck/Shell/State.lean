import SourceCheck.Machine.Basic
import SourceCheck.Shell.Arithmetic
import SourceCheck.Shell.Stream
import SourceCheck.Table

/-!
# A running shell

A running shell has a frame, which a subshell gets a copy of, and shares the machine, the clock, the
channels and what was printed.  The clock counts microseconds from the start of the first program.

* `Frame`: variables, arguments, streams and the like.
* `State`: a frame and what all shells of a run share.
* `Flow`: how a command ends.
-/

namespace SourceCheck.Shell

/-- The bytes of a text, one character each. -/
def bytesOf (s : String) : List Char :=
  (Text.Utf8.encode s.toList).map fun b => Char.ofNat b.toNat

/-- The bytes behind characters. -/
def toBytes (s : List Char) : List UInt8 := s.map fun c => c.toNat.toUInt8

/-- Characters for bytes. -/
def ofBytes (bs : List UInt8) : List Char := bs.map fun b => Char.ofNat b.toNat

/-- The text behind bytes. -/
def textOf (s : List Char) : String := String.ofList (Text.Utf8.decodeLossy (toBytes s))

/-- **How a command ends.** -/
inductive Flow
  | next
  | exit
  /-- Something is wrong that ends the shell unless a command stands in between. -/
  | failed
  | breaking (levels : Nat)
  | continuing (levels : Nat)
  | returning
  /-- A signal ended the shell. -/
  | killed (signal : Nat)
  /-- The command did not end in time. -/
  | stopped
  deriving DecidableEq, Repr

/-- **A variable as it was** before it got another value for a while. -/
structure Former where
  name : String
  value : Option (List Char)
  exported : Bool

/-- **How far the options among some words have been gone through.** -/
structure OptionPlace where
  /-- The number of the next word, the first one being 1. -/
  word : Nat
  /-- How many characters of the word before that one are done, if any are left. -/
  within : Option Nat

/-- **A function of a shell**, and the number of line feeds in the script that it stands in. -/
structure Routine where
  body : Script
  lineFeeds : Nat

/-- **What one shell has for itself.** -/
structure Frame where
  /-- The name under which the shell runs. -/
  name : List Char
  arguments : List (List Char)
  bindings : Table (List Char)
  /-- The variables that programs get to see. -/
  exported : List String
  /-- The variables that keep their value. -/
  fixed : List String
  functions : Table Routine
  aliases : Table (List Char)
  /-- Where programs were found. -/
  located : Table (List Char)
  /-- What the variables that are local to the current function were before; `none` outside of
  functions. -/
  hidden : Option (List Former)
  directory : Location
  /-- The directory as the script has named it. -/
  shown : Location
  /-- What the streams lead to, by number; those that are missing are closed. -/
  streams : List (Nat × Stream)
  /-- The permission bits that new files do not get. -/
  mask : Nat
  /-- The letters of the options that are set. -/
  options : List Char
  optionPlace : OptionPlace
  status : Nat
  /-- The status of the last script that was run for its output, within the current command. -/
  lastOutput : Option Nat
  /-- The status that the shell had before the trap that is being run. -/
  beforeTrap : Option Nat
  /-- The number of the last background job. -/
  lastJob : Option Nat
  /-- The numbers of the background jobs of this shell. -/
  started : List Nat
  /-- The background jobs of this shell that have been waited for, with their status, those first
  that were started first. -/
  ended : List (Nat × Nat)
  /-- Whether this is a subshell. -/
  inner : Bool
  /-- What signals do, by number; zero is the end of the shell. -/
  traps : List (Nat × List Char)
  /-- How the words of the current command end the shell, if they do. -/
  verdict : Flow
  /-- What messages name behind the line: the command that reads the current script. -/
  within : List Char
  /-- How many loops the current command is part of. -/
  loops : Nat
  /-- How many conditions the current command is part of. -/
  tested : Nat
  /-- How many functions have called each other. -/
  calls : Nat
  /-- How deep texts and programs have been run by each other. -/
  depth : Nat
  /-- The number of line feeds in the script. -/
  lineFeeds : Nat
  /-- The number of line feeds from the current command on. -/
  below : Nat
  /-- The line up to which the script has been read. -/
  reached : Nat

/-- **Something printed**, with its time. -/
structure Emission where
  time : Nat
  toErrors : Bool
  text : List Char
  deriving Repr

/-- A signal from outside that ends something, with its time. -/
structure Stroke where
  time : Nat
  signal : Nat
  deriving Repr

/-- **A background job** that has not been run yet. -/
structure Job where
  number : Nat
  script : Script
  frame : Frame
  start : Nat
  /-- What ends it from outside. -/
  killed : Option Stroke

/-- **A running shell.** -/
structure State where
  frame : Frame
  machine : Machine
  clock : Nat
  /-- When everything is stopped. -/
  deadline : Option Nat
  /-- What was printed, last first. -/
  emitted : List Emission
  channels : List (Nat × Channel)
  nextChannel : Nat
  /-- The channels whose writers are still there when the time is up. -/
  endless : List Nat
  /-- Whether the current command could not print what it had to. -/
  unprinted : Bool
  jobs : List Job
  nextJob : Nat
  /-- The signals that a shell got while it waited for a subshell, first first. -/
  pending : List Nat

namespace State

/-! ## 1. Frames -/

/-- The same shell with another frame. -/
def withFrame (sh : State) (f : Frame → Frame) : State := { sh with frame := f sh.frame }

/-- The same shell with another status. -/
def withStatus (sh : State) (n : Nat) : State := sh.withFrame fun f => { f with status := n }

/-- The machine as the shell sees it. -/
def view (sh : State) : Machine := { sh.machine with workingDirectory := sh.frame.directory }

/-- Whether an option is set. -/
def has (sh : State) (option : Char) : Bool := sh.frame.options.contains option

/-- Whether the time is up. -/
def isLate (sh : State) : Bool :=
  match sh.deadline with
  | some d => decide (d < sh.clock)
  | none => false

/-- Lets time pass. -/
def wait (sh : State) (microseconds : Nat) : State := { sh with clock := sh.clock + microseconds }

/-! ## 2. Channels -/

/-- **A new channel**, and its number. -/
def openChannel (sh : State) (c : Channel) : Nat × State :=
  (sh.nextChannel, { sh with channels := (sh.nextChannel, c) :: sh.channels
                             nextChannel := sh.nextChannel + 1 })

/-- The channel with a number. -/
def channel? (sh : State) (number : Nat) : Option Channel :=
  (sh.channels.find? fun c => c.1 == number).map (·.2)

/-- Changes a channel. -/
def changeChannel (sh : State) (number : Nat) (f : Channel → Channel) : State :=
  { sh with channels := sh.channels.map fun c => if c.1 == number then (number, f c.2) else c }

/-- Forgets a channel. -/
def dropChannel (sh : State) (number : Nat) : State :=
  { sh with channels := sh.channels.filter fun c => c.1 != number
            endless := sh.endless.filter (· != number) }

/-- Sends a stream elsewhere, or closes it. -/
def setStream (sh : State) (number : Nat) (stream : Option Stream) : State :=
  sh.withFrame fun f => { f with streams := Shell.setStream number stream f.streams }

/-- What a stream leads to. -/
def stream? (sh : State) (number : Nat) : Option Stream := streamAt? sh.frame.streams number

/-- The bytes of a file that is open. -/
def bytesAt (sh : State) (place : Location) : List UInt8 :=
  match sh.machine.files.lookup place with
  | some (.file _ bytes) => bytes
  | _ => []

/-- Writes into a file that is open. -/
def writeAt (sh : State) (place : Location) (position : Nat) (bytes : List UInt8) : State :=
  match sh.machine.files.lookup place with
  | some (.file mode old) => { sh with machine := { sh.machine with
      files := sh.machine.files.put place (.file mode (overwrite position bytes old)) } }
  | _ => sh

/-! ## 3. Printing -/

/-- **Writes to a stream**; nothing comes of it if the stream cannot be written. -/
def write? (sh : State) (stream : Option Stream) (text : List Char) : Option State :=
  match stream with
  | some .output => some { sh with emitted := ⟨sh.clock, false, text⟩ :: sh.emitted }
  | some .errors => some { sh with emitted := ⟨sh.clock, true, text⟩ :: sh.emitted }
  | some .nowhere => some sh
  | some (.channel k) =>
    match sh.channel? k with
    | some (.pipe ready waiting) =>
      some (sh.changeChannel k fun _ => (Channel.pipe ready waiting).receive ⟨sh.clock, text⟩)
    | some (.file place position opening) =>
      if !(Channel.file place position opening).isWritable then none
      else
        let start := if opening = .appending then (sh.bytesAt place).length else position
        some ((sh.writeAt place start (toBytes text)).changeChannel k fun _ =>
          .file place (start + text.length) opening)
    | none => none
  | none => none

/-- Prints to a stream; what cannot be printed is remembered. -/
def printTo (sh : State) (number : Nat) (text : List Char) : State :=
  if text.isEmpty then sh
  else (sh.write? (sh.stream? number) text).getD { sh with unprinted := true }

/-- Prints. -/
def print (sh : State) (text : List Char) : State := sh.printTo 1 text

/-- Says something on the error stream, if anybody listens. -/
def say (sh : State) (text : List Char) : State :=
  if text.isEmpty then sh else (sh.write? (sh.stream? 2) text).getD sh

/-- The line of a command that so many line feeds follow. -/
def lineOf (sh : State) (below : Nat) : Nat := sh.frame.lineFeeds + 1 - below

/-- Complains on the error stream about something in a line. -/
def complainAt (sh : State) (line : Nat) (message : List Char) : State :=
  sh.say (sh.frame.name ++ ": ".toList ++ (toString line).toList ++ ": ".toList ++ message ++
    ['\n'])

/-- **Complains** on the error stream, with the line of the current command. -/
def complain (sh : State) (message : List Char) : State :=
  sh.complainAt (sh.lineOf sh.frame.below) message

/-- Complains about a command and fails. -/
def failing (sh : State) (status : Nat) (message : String) (about : List Char) : State :=
  (sh.complain (message.toList ++ about)).withStatus status

/-- Complains about something in the current script and fails. -/
def failingWithin (sh : State) (status : Nat) (message : List Char) : State :=
  sh.failing status "" (sh.frame.within ++ message)

/-- A shell that the words of the current command have ended. -/
def refused (sh : State) : State :=
  (sh.withStatus 2).withFrame fun f => { f with verdict := .failed }

/-- Complains about a word that cannot be made out. -/
def refuse (sh : State) (message : List Char) : State := (sh.failingWithin 2 message).refused

/-- Complains about a word that makes no sense, where the reading of the script has come to. -/
def refuseReading (sh : State) (message : List Char) : State :=
  (sh.complainAt sh.frame.reached (sh.frame.within ++ message)).refused

/-! ## 4. Variables -/

/-- The number that stands for the shell itself. -/
def ownNumber : Nat := 4711

/-- Gives a variable a value, or forgets it. -/
def put (sh : State) (name : String) (value : Option (List Char)) : State :=
  sh.withFrame fun f => { f with bindings := match value with
    | some v => Table.put name v f.bindings
    | none => f.bindings.filter fun v => v.1 != name }

/-- Makes a variable visible to programs. -/
def expose (sh : State) (name : String) : State :=
  sh.withFrame fun f => { f with exported := name :: f.exported.filter (· != name) }

/-- The place from which options are gone through anew. -/
def firstOption : OptionPlace := ⟨1, none⟩

/-- What a new value of a variable means for the shell. -/
def heed (sh : State) (name : String) (value : List Char) : State :=
  match name with
  | "OPTIND" => sh.withFrame fun f => { f with
      optionPlace := ⟨max 1 ((Arithmetic.numberIn? 10 value).getD 1), none⟩ }
  | "PATH" => sh.withFrame fun f => { f with located := [] }
  | _ => sh

/-- **Sets a variable** that may be changed; else the words say why not. -/
def assign? (sh : State) (name : String) (value : List Char) : Except (List Char) State :=
  if sh.frame.fixed.contains name then .error (bytesOf name ++ ": is read only".toList)
  else if name == "OPTIND" && (Arithmetic.numberIn? 10 value).isNone then
    .error ("Illegal number: ".toList ++ value)
  else
    let sh := (sh.put name (some value)).heed name value
    .ok (if sh.has 'a' then sh.expose name else sh)

/-- Sets a variable that may be changed. -/
def assign (sh : State) (name : String) (value : List Char) : State :=
  match sh.assign? name value with
  | .ok sh => sh
  | .error problem => sh.refuse problem

/-- A variable as it is now. -/
def former (sh : State) (name : String) : Former :=
  ⟨name, Table.get? sh.frame.bindings name, sh.frame.exported.contains name⟩

/-- Makes a variable what it was. -/
def restore (sh : State) (v : Former) : State :=
  let sh := sh.put v.name v.value
  let sh := if v.exported then sh.expose v.name
    else sh.withFrame fun f => { f with exported := f.exported.filter (· != v.name) }
  match v.value with
  | some value => sh.heed v.name value
  | none => sh

/-- The letters of options in the order in which a shell shows them. -/
def optionOrder : List Char := "pubaCEVvxsnmiIfe".toList

/-- **The value of a parameter** other than all arguments at once. -/
def value? (sh : State) (name : String) : Option (List Char) :=
  match name with
  | "?" => some (toString sh.frame.status).toList
  | "#" => some (toString sh.frame.arguments.length).toList
  | "$" => some (toString ownNumber).toList
  | "!" => sh.frame.lastJob.map fun n => (toString n).toList
  | "-" => some (optionOrder.filter sh.frame.options.contains)
  | "0" => some sh.frame.name
  | name =>
    match Arithmetic.numberIn? 10 name.toList with
    | some (n + 1) => sh.frame.arguments[n]?
    | _ => Table.get? sh.frame.bindings name

/-- The environment of the programs that the shell starts. -/
def environment (sh : State) : List (String × List Char) :=
  sh.frame.bindings.filter fun v => sh.frame.exported.contains v.1

end State

end SourceCheck.Shell

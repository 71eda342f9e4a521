import SourceCheck.Machine.FileTree
import SourceCheck.Shell.Script

/-!
# Streams

A stream leads to one of the two streams of the run, to nowhere, or to a channel.  A channel is what
several holders of a stream share: a pipe with what was written and not yet read, or an open file
with the position in it.

* `Channel.unread`: what a channel still has to give.
* `Channel.advance`, `Channel.receive`: reading and writing.
* `overwrite`: bytes written over others.
-/

namespace SourceCheck.Shell

/-- **What a stream leads to.** -/
inductive Stream
  | output
  | errors
  | nowhere
  | channel (number : Nat)
  deriving DecidableEq, Repr

/-- **Something written**, with its time. -/
structure Written where
  time : Nat
  text : List Char
  deriving Repr

/-- **What the holders of a stream share.** -/
inductive Channel
  /-- What can be read at once, and what was written since, last first. -/
  | pipe (ready : List Char) (waiting : List Written)
  /-- An open file. -/
  | file (place : Location) (position : Nat) (opening : Opening)
  deriving Repr

/-! ## 1. Bytes in files -/

/-- **Bytes with others written over them** from a position on; a gap is filled with zeros. -/
def overwrite (position : Nat) (new old : List UInt8) : List UInt8 :=
  old.take position ++ List.replicate (position - old.length) 0 ++ new ++
    old.drop (position + new.length)

/-! ## 2. Pipes -/

/-- What was written, in the order of time. -/
def inOrder (waiting : List Written) : List Char :=
  (waiting.reverse.mergeSort fun a b => decide (a.time ≤ b.time)).flatMap (·.text)

namespace Channel

/-- Whether a channel can be read. -/
def isReadable : Channel → Bool
  | .pipe _ _ => true
  | .file _ _ opening => opening = .reading || opening = .updating

/-- Whether a channel can be written. -/
def isWritable : Channel → Bool
  | .pipe _ _ => true
  | .file _ _ opening => opening != .reading

/-- What a pipe still has to give. -/
def unread : Channel → List Char
  | .pipe ready waiting => ready ++ inOrder waiting
  | .file _ _ _ => []

/-- Whether somebody wrote into a pipe after some time. -/
def isWrittenAfter (time : Nat) : Channel → Bool
  | .pipe _ waiting => waiting.any fun w => decide (time < w.time)
  | .file _ _ _ => false

/-- A channel of which some characters were read. -/
def advance (count : Nat) : Channel → Channel
  | .pipe ready waiting => .pipe ((Channel.pipe ready waiting).unread.drop count) []
  | .file place position opening => .file place (position + count) opening

/-- A pipe into which something is written. -/
def receive (written : Written) : Channel → Channel
  | .pipe ready waiting => .pipe ready (written :: waiting)
  | .file place position opening => .file place position opening

end Channel

/-! ## 3. The streams of a shell -/

/-- Streams by number, with one of them leading elsewhere; with `none` it is closed. -/
def setStream (number : Nat) (stream : Option Stream) (streams : List (Nat × Stream)) :
    List (Nat × Stream) :=
  let others := streams.filter fun s => s.1 != number
  match stream with
  | some s => (number, s) :: others
  | none => others

/-- What a stream leads to; a closed one leads nowhere. -/
def streamAt? (streams : List (Nat × Stream)) (number : Nat) : Option Stream :=
  (streams.find? fun s => s.1 == number).map (·.2)

end SourceCheck.Shell

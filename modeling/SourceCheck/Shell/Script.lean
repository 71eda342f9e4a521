/-!
# Shell scripts

The parts of a script, as they are read.  A script is handled byte by byte: each character here
stands for one byte, so that output which is no text survives.

A word is a list of pieces.  A piece knows whether it stood between double quotes, for then what
comes of it is neither split into fields nor matched against file names.
-/

namespace SourceCheck.Shell

/-- **What a parameter goes through before it is put in.**  `orEmpty` says that an empty value
counts as a missing one. -/
inductive Alteration
  /-- Something else if the parameter is missing. -/
  | orElse (orEmpty : Bool)
  /-- The same, and the parameter gets that value. -/
  | assign (orEmpty : Bool)
  /-- Something else unless the parameter is missing. -/
  | instead (orEmpty : Bool)
  /-- The value without a matching start. -/
  | withoutStart (longest : Bool)
  /-- The value without a matching end. -/
  | withoutEnd (longest : Bool)
  /-- The number of characters of the value. -/
  | length
  /-- The value, or the end of the shell with a message if the parameter is missing. -/
  | orFail (orEmpty : Bool)
  deriving DecidableEq, Repr

/-- Whether the alteration goes by a pattern. -/
def Alteration.isTrimming : Alteration → Bool
  | .withoutStart _ | .withoutEnd _ => true
  | _ => false

/-- **What a redirection does.** -/
inductive Opening
  /-- A file is read. -/
  | reading
  /-- A file is written from its start. -/
  | writing
  /-- The same, even where files that are there are spared. -/
  | overwriting
  /-- A file is written at its end. -/
  | appending
  /-- A file is read and written. -/
  | updating
  /-- A stream goes where another one goes. -/
  | copying
  /-- The target itself is read. -/
  | hereText
  deriving DecidableEq, Repr

mutual

/-- **A piece of a word.** -/
inductive Piece
  | text (chars : List Char)
  | quotedText (chars : List Char)
  | parameter (name : String) (quoted : Bool)
  | altered (name : String) (how : Alteration) (argument : List Piece) (quoted : Bool)
  /-- The output of a script; one that is read on its own has its own count of line feeds. -/
  | output (script : Script) (lineFeeds : Option Nat) (quoted : Bool)
  | arithmetic (expression : List Piece) (quoted : Bool)
  /-- A dollar sign with braces that make no sense. -/
  | nonsense

/-- **A redirection** of one of the streams 0 to 9. -/
inductive Redirection
  | mk (stream : Nat) (opening : Opening) (target : List Piece)

/-- **A script.** -/
inductive Script
  | nothing
  /-- Text that is no script, with the line feeds behind it and what is wrong. -/
  | unreadable (below : Nat) (problem : List Char)
  /-- Assignments, a command with its arguments, redirections; `below` counts the line feeds behind
  the start, here and elsewhere. -/
  | simple (below : Nat) (assignments : List (String × List Piece)) (words : List (List Piece))
      (redirections : List Redirection)
  | negated (s : Script)
  | pipe (first second : Script)
  | both (first second : Script)
  | either (first second : Script)
  | sequence (first second : Script)
  | background (s : Script)
  | subshell (s : Script)
  | redirected (below : Nat) (s : Script) (redirections : List Redirection)
  | choice (condition yes no : Script)
  | loop (whileTrue : Bool) (condition body : Script)
  | each (below : Nat) (name : String) (words : List (List Piece)) (body : Script)
  | select (below : Nat) (word : List Piece) (arms : List (List (List Piece) × Script))
  | define (name : String) (body : Script)

end

/-- Whether a script makes sense. -/
def Script.isReadable : Script → Bool
  | .unreadable _ _ => false
  | _ => true

instance : Inhabited Script := ⟨.nothing⟩

instance : Inhabited Piece := ⟨.text []⟩

/-- Whether a script is one subshell. -/
def Script.isSubshell : Script → Bool
  | .subshell _ => true
  | _ => false

end SourceCheck.Shell

import SourceCheck.Json.Value

/-!
# Writing JSON

A layout says whether characters beyond ASCII are escaped and whether members and items stand on
lines of their own.  Control characters, the quote and the backslash are always escaped; the
characters `\x08 \x0c \n \r \t` have short escapes.  A number that is not finite is written
`NaN`, `Infinity` or `-Infinity`.
-/

namespace SourceCheck.Json

open Number (Binary64)

/-- **How a document is laid out.** -/
structure Layout where
  /-- Every character beyond ASCII, and the delete control, is written as an escape. -/
  asciiOnly : Bool
  /-- The indent of a level, if items stand on lines of their own. -/
  indent : Option Nat
  deriving Repr, DecidableEq

/-- One line, and all characters as they are. -/
def Layout.line : Layout := ⟨false, none⟩

/-- A file: two columns a level, ASCII only. -/
def Layout.file : Layout := ⟨true, some 2⟩

/-- An escape by code unit. -/
def unitEscape (n : Nat) : List Char := '\\' :: 'u' :: Text.hex 4 n

/-- An escape by code point: one code unit, or the two of a surrogate pair. -/
def codeEscape (n : Nat) : List Char :=
  if n < 0x10000 then unitEscape n
  else unitEscape (0xD800 + (n - 0x10000) / 1024) ++ unitEscape (0xDC00 + (n - 0x10000) % 1024)

/-- **A character inside a string.** -/
def escapeChar (asciiOnly : Bool) (c : Char) : List Char :=
  if c == '"' then ['\\', '"']
  else if c == '\\' then ['\\', '\\']
  else if c == '\x08' then ['\\', 'b']
  else if c == '\x0c' then ['\\', 'f']
  else if c == '\n' then ['\\', 'n']
  else if c == '\r' then ['\\', 'r']
  else if c == '\t' then ['\\', 't']
  else if c.toNat < 32 then unitEscape c.toNat
  else if asciiOnly && 126 < c.toNat then codeEscape c.toNat
  else [c]

/-- **A string with its quotes.** -/
def writeString (asciiOnly : Bool) (s : String) : List Char :=
  '"' :: s.toList.flatMap (escapeChar asciiOnly) ++ ['"']

/-- A number that may have a fraction. -/
def writeNumber : Binary64 → List Char
  | .nan => "NaN".toList
  | .infinity negative => (if negative then "-Infinity" else "Infinity").toList
  | x => x.text.toList

/-- What stands before an item at a given depth: a line of its own, or nothing. -/
def Layout.break (l : Layout) (depth : Nat) : List Char :=
  match l.indent with
  | some n => '\n' :: List.replicate (n * depth) ' '
  | none => []

/-- What separates two items at a given depth. -/
def Layout.separator (l : Layout) (depth : Nat) : List Char :=
  match l.indent with
  | some _ => ',' :: l.break depth
  | none => [',', ' ']

mutual

/-- **A document at a given depth.** -/
def write (l : Layout) (depth : Nat) : Json → List Char
  | null => "null".toList
  | bool b => (if b then "true" else "false").toList
  | int n => (toString n).toList
  | number x => writeNumber x
  | string s => writeString l.asciiOnly s
  | array [] => ['[', ']']
  | array (v :: vs) =>
    '[' :: l.break (depth + 1) ++ write l (depth + 1) v ++ writeItems l (depth + 1) vs ++
      l.break depth ++ [']']
  | object [] => ['\x7b', '\x7d']
  | object ((k, v) :: ms) =>
    '\x7b' :: l.break (depth + 1) ++ writeString l.asciiOnly k ++ ':' :: ' ' ::
      write l (depth + 1) v ++ writeMembers l (depth + 1) ms ++ l.break depth ++ ['\x7d']

/-- The items behind the first. -/
def writeItems (l : Layout) (depth : Nat) : List Json → List Char
  | [] => []
  | v :: vs => l.separator depth ++ write l depth v ++ writeItems l depth vs

/-- The members behind the first. -/
def writeMembers (l : Layout) (depth : Nat) : List (String × Json) → List Char
  | [] => []
  | (k, v) :: ms =>
    l.separator depth ++ writeString l.asciiOnly k ++ ':' :: ' ' :: write l depth v ++
      writeMembers l depth ms

end

mutual

/-- Whether every whole number in a document is short enough to be written. -/
def isWritable : Json → Bool
  | int n => Number.isWritable n
  | array vs => areWritable vs
  | object ms => membersWritable ms
  | _ => true

/-- The same for the items of an array. -/
def areWritable : List Json → Bool
  | [] => true
  | v :: vs => isWritable v && areWritable vs

/-- The same for the members of an object. -/
def membersWritable : List (String × Json) → Bool
  | [] => true
  | (_, v) :: ms => isWritable v && membersWritable ms

end

/-- **A document on one line**, with all characters as they are, unless a whole number in it is too
long. -/
def compact (v : Json) : Except Fault String :=
  if isWritable v then .ok (String.ofList (write Layout.line 0 v)) else .error .tooLongToWrite

/-- **A document as a file holds it.** -/
def pretty (v : Json) : String := String.ofList (write Layout.file 0 v)

end SourceCheck.Json

/-!
# Words and escapes

A backslash and a letter stand for a control character, a backslash and octal digits for a byte.

* `unescape`: a text with its escapes replaced.
* `echo`: words with blanks between them; escapes are understood.
-/

namespace SourceCheck.Shell

/-- A byte as a character. -/
def byteChar (n : Nat) : Char := Char.ofNat (n % 256)

/-- At most so many octal digits as a number, and the rest. -/
def octal : Nat → Nat → List Char → Nat × List Char
  | 0, acc, s => (acc, s)
  | n + 1, acc, c :: s =>
    if '0' ≤ c && c ≤ '7' then octal n (acc * 8 + (c.toNat - 48)) s else (acc, c :: s)
  | _ + 1, acc, [] => (acc, [])

/-- The character of a one-letter escape. -/
def letterEscape? : Char → Option Char
  | 'a' => some '\x07'
  | 'b' => some '\x08'
  | 'f' => some '\x0c'
  | 'n' => some '\n'
  | 'r' => some '\r'
  | 't' => some '\t'
  | 'v' => some '\x0b'
  | '\\' => some '\\'
  | _ => none

/-- A text with its escapes replaced, and whether printing goes on behind it. -/
def unescapeUpTo : Nat → List Char → List Char × Bool
  | 0, s => (s, true)
  | _ + 1, [] => ([], true)
  | n + 1, '\\' :: c :: s =>
    match letterEscape? c with
    | some d => let r := unescapeUpTo n s; (d :: r.1, r.2)
    | none =>
      if c == 'c' then ([], false)
      else if '0' ≤ c && c ≤ '7' then
        let (v, rest) := octal 3 0 (if c == '0' then s else c :: s)
        let r := unescapeUpTo n rest
        (byteChar v :: r.1, r.2)
      else let r := unescapeUpTo n s; ('\\' :: c :: r.1, r.2)
  | n + 1, c :: s => let r := unescapeUpTo n s; (c :: r.1, r.2)

/-- A text with its escapes replaced, and whether printing goes on behind it. -/
def unescape (s : List Char) : List Char × Bool := unescapeUpTo (s.length + 1) s

/-- Words with blanks between them. -/
def spaced : List (List Char) → List Char
  | [] => []
  | [w] => w
  | w :: ws => w ++ ' ' :: spaced ws

/-- **What `echo` prints.** -/
def echo (arguments : List (List Char)) : List Char :=
  let (bare, words) := match arguments with
    | ['-', 'n'] :: rest => (true, rest)
    | words => (false, words)
  let (text, goesOn) := unescape (spaced words)
  if goesOn && !bare then text ++ ['\n'] else text

end SourceCheck.Shell

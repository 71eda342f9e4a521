/-!
# Patterns for texts and file names

A star stands for any characters, a question mark for one, brackets for one out of a set.  A quoted
character stands for itself, and so does one behind a backslash that was not quoted.

* `Pattern.ofMarked`: the pattern that a text with marked quotes writes.
* `Pattern.accepts`: whether a text fits.
-/

namespace SourceCheck.Shell

/-- **One part of a pattern.** -/
inductive PatternPart
  | many
  | one
  | set (negated : Bool) (ranges : List (Char × Char))
  | exactly (c : Char)
  deriving DecidableEq, Repr

/-- **A pattern.** -/
abbrev Pattern := List PatternPart

namespace Pattern

/-- A text whose characters are marked as quoted or not. -/
abbrev Marked := List (Char × Bool)

/-- The characters of a class that has a name. -/
def classRanges? (name : String) : Option (List (Char × Char)) :=
  match name with
  | "alpha" => some [('A', 'Z'), ('a', 'z')]
  | "digit" => some [('0', '9')]
  | "alnum" => some [('0', '9'), ('A', 'Z'), ('a', 'z')]
  | "upper" => some [('A', 'Z')]
  | "lower" => some [('a', 'z')]
  | "space" => some [('\t', '\r'), (' ', ' ')]
  | "blank" => some [('\t', '\t'), (' ', ' ')]
  | "punct" => some [('!', '/'), (':', '@'), ('[', '\x60'), ('\x7b', '~')]
  | "print" => some [(' ', '~')]
  | "graph" => some [('!', '~')]
  | "cntrl" => some [('\x00', '\x1f'), ('\x7f', '\x7f')]
  | "xdigit" => some [('0', '9'), ('A', 'F'), ('a', 'f')]
  | _ => none

/-- The characters of a class between brackets and colons, and how long that is. -/
def namedClass? (s : Marked) : Option (List (Char × Char) × Nat) :=
  match s with
  | ('[', false) :: (':', false) :: rest =>
    let name := (rest.takeWhile fun x => x.1.isLower).map (·.1)
    match rest.drop name.length with
    | (':', false) :: (']', false) :: _ =>
      (classRanges? (String.ofList name)).map fun rs => (rs, name.length + 4)
    | _ => none
  | _ => none

/-- The ranges of a bracket expression up to its end, and the rest; the first argument counts the
characters of a class that are still to be passed over. -/
def rangesBehind : Nat → Marked → Option (List (Char × Char) × Marked)
  | _, [] => none
  | k + 1, _ :: rest => rangesBehind k rest
  | 0, (']', false) :: rest => some ([], rest)
  | 0, (a, _) :: ('-', false) :: (']', false) :: rest => some ([(a, a), ('-', '-')], rest)
  | 0, (a, _) :: ('-', false) :: (b, _) :: rest =>
    (rangesBehind 0 rest).map fun r => ((a, b) :: r.1, r.2)
  | 0, x :: rest =>
    match namedClass? (x :: rest) with
    | some (rs, length) => (rangesBehind (length - 1) rest).map fun r => (rs ++ r.1, r.2)
    | none => (rangesBehind 0 rest).map fun r => ((x.1, x.1) :: r.1, r.2)

/-- The ranges of a bracket expression up to its end, and the rest. -/
def ranges (s : Marked) : Option (List (Char × Char) × Marked) := rangesBehind 0 s

/-- A bracket expression behind its opening bracket, and the rest. -/
def bracket? (s : Marked) : Option (PatternPart × Marked) :=
  let negated := match s with
    | ('!', false) :: _ => true
    | _ => false
  let body := if negated then s.drop 1 else s
  match body with
  | (']', false) :: rest =>
    match ranges rest with
    | some (rs, rest) => some (.set negated ((']', ']') :: rs), rest)
    | none => none
  | body =>
    match ranges body with
    | some (rs, rest) => some (.set negated rs, rest)
    | none => none

/-- Reads a pattern with a bound on its parts. -/
def ofMarkedUpTo : Nat → Marked → Pattern
  | 0, _ => []
  | _ + 1, [] => []
  | n + 1, (c, true) :: rest => .exactly c :: ofMarkedUpTo n rest
  | n + 1, (c, false) :: rest =>
    if c == '*' then .many :: ofMarkedUpTo n rest
    else if c == '?' then .one :: ofMarkedUpTo n rest
    else if c == '[' then
      match bracket? rest with
      | some (part, rest) => part :: ofMarkedUpTo n rest
      | none => .exactly c :: ofMarkedUpTo n rest
    else match c, rest with
      | '\\', (d, false) :: rest => .exactly d :: ofMarkedUpTo n rest
      | c, rest => .exactly c :: ofMarkedUpTo n rest

/-- **The pattern that a text with marked quotes writes.** -/
def ofMarked (s : Marked) : Pattern := ofMarkedUpTo (s.length + 1) s

/-- Whether a character fits a part that stands for one character. -/
def fits (part : PatternPart) (c : Char) : Bool :=
  match part with
  | .many => false
  | .one => true
  | .set negated rs => rs.any (fun r => decide (r.1 ≤ c) && decide (c ≤ r.2)) != negated
  | .exactly d => c == d

/-- The ends of a text, from the whole down to nothing. -/
def endings : List Char → List (List Char)
  | [] => [[]]
  | c :: cs => (c :: cs) :: endings cs

/-- **Whether a text fits a pattern.** -/
def accepts : Pattern → List Char → Bool
  | [], s => s.isEmpty
  | .many :: ps, s => (endings s).any (accepts ps)
  | p :: ps, s =>
    match s with
    | [] => false
    | c :: cs => fits p c && accepts ps cs

/-- The splits of a text in two, the longer start first. -/
def splits (s : List Char) : List (List Char × List Char) :=
  ((List.range (s.length + 1)).map fun n => s.splitAt n).reverse

/-- A text without a start that fits, the longest or the shortest one. -/
def dropStart (p : Pattern) (longest : Bool) (s : List Char) : List Char :=
  let all := if longest then splits s else (splits s).reverse
  ((all.find? fun x => accepts p x.1).map (·.2)).getD s

/-- A text without an end that fits, the longest or the shortest one, if there is any. -/
def dropEnd? (p : Pattern) (longest : Bool) (s : List Char) : Option (List Char) :=
  let all := if longest then (splits s).reverse else splits s
  (all.find? fun x => accepts p x.2).map (·.1)

/-- A text without an end that fits, the longest or the shortest one. -/
def dropEnd (p : Pattern) (longest : Bool) (s : List Char) : List Char :=
  (dropEnd? p longest s).getD s

/-- Whether a marked text holds anything but plain characters. -/
def isPattern (s : Marked) : Bool :=
  s.any fun x => !x.2 && (x.1 == '*' || x.1 == '?' || x.1 == '[')

end Pattern

end SourceCheck.Shell

import SourceCheck.Fault
import SourceCheck.Text.Blank
import SourceCheck.Text.Digit

/-!
# Whole numbers in texts

A whole number is written as digits of any script with an optional sign in front, single
underscores between digits, and white space around it.  Of the control characters only tab, line
feed, vertical tab, form feed and carriage return count as white space here.  More than
`Fault.digitLimit` digits are not read, whatever follows them.

* `readNumber`: the number of a run of decimal digits that a pattern has already recognised.
* `readInteger`: the number that a whole text writes.
* `writeInteger`: the text of a number, which may not be longer either.
-/

namespace SourceCheck.Number

/-- **The number of a run of decimal digits**, unless there are too many. -/
def readNumber (digits : List Char) : Except Fault Nat :=
  if digits.length > Fault.digitLimit then .error (.tooManyDigits digits.length)
  else .ok (Text.decimalNumber digits)

/-- The character as far as whole numbers are concerned: a digit of any script as its ASCII
digit, other white space as a space. -/
def plainChar (c : Char) : Char :=
  if c.toNat < 127 then c
  else if Text.isBlank c then ' '
  else match Text.decimalValue? c with
    | some d => Nat.digitChar d
    | none => '?'

/-- White space around a whole number. -/
def isPadding (c : Char) : Bool := c == ' ' || (9 ≤ c.toNat && c.toNat ≤ 13)

/-- The digits behind the first one, with single underscores between them, and the rest. -/
def moreDigits : List Char → Option (List Char × List Char)
  | [] => some ([], [])
  | ['_'] => none
  | '_' :: c :: cs => if c.isDigit then (moreDigits cs).map fun r => (c :: r.1, r.2) else none
  | c :: cs =>
    if c.isDigit then (moreDigits cs).map fun r => (c :: r.1, r.2) else some ([], c :: cs)

/-- Digits with single underscores between them, and the rest. -/
def digitGroup : List Char → Option (List Char × List Char)
  | c :: cs => if c.isDigit then (moreDigits cs).map fun r => (c :: r.1, r.2) else none
  | [] => none

/-- A sign, if there is one, and the rest. -/
def sign : List Char → Bool × List Char
  | '-' :: cs => (true, cs)
  | '+' :: cs => (false, cs)
  | cs => (false, cs)

/-- **The whole number that a text writes.** -/
def readInteger (s : List Char) : Except Fault Int :=
  let (negative, body) := sign ((s.map plainChar).dropWhile isPadding)
  match digitGroup body with
  | none => .error (.notAnInteger (String.ofList s))
  | some (digits, rest) =>
    if digits.length > Fault.digitLimit then .error (.tooManyDigits digits.length)
    else if rest.all isPadding then
      let n : Int := Text.decimalNumber digits
      .ok (if negative then -n else n)
    else .error (.notAnInteger (String.ofList s))

/-- Whether a whole number is short enough to be written. -/
def isWritable (n : Int) : Bool :=
  decide ((Nat.toDigits 10 n.natAbs).length ≤ Fault.digitLimit)

/-- **The text of a whole number**, unless it has too many digits. -/
def writeInteger (n : Int) : Except Fault String :=
  if isWritable n then .ok (toString n) else .error .tooLongToWrite

end SourceCheck.Number

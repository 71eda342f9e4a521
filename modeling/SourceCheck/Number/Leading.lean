import SourceCheck.Number.Decimal

/-!
# Numerals at the start of a text

A text may go on behind a numeral.  Besides decimal numerals there are hexadecimal ones, `0x` with
hexadecimal digits, perhaps a point among them, and a power of two behind `p`.

* `leadingNumber`: the number at the start of a text.
-/

namespace SourceCheck.Number

/-- **A number read from the start of a text.** -/
structure Leading where
  number : Binary64
  rest : List Char
  /-- Whether the numeral lies outside of what can be told apart from its neighbours. -/
  outOfRange : Bool
  deriving Repr

/-- The value of a hexadecimal digit. -/
def hexDigit? (c : Char) : Option Nat :=
  if c.isDigit then some (c.toNat - 48)
  else if 'a' ≤ c && c ≤ 'f' then some (c.toNat - 87)
  else if 'A' ≤ c && c ≤ 'F' then some (c.toNat - 55)
  else none

/-- The number that hexadecimal digits write. -/
def hexNumber (s : List Char) : Nat := s.foldl (fun n c => n * 16 + (hexDigit? c).getD 0) 0

/-- The exponent behind one of some marks, and the rest; zero if there is no exponent. -/
def leadingExponent (marks : List Char) (s : List Char) : Int × List Char :=
  match s with
  | c :: cs =>
    let (negative, body) := sign cs
    let (digits, rest) := Text.run Char.isDigit body
    if marks.contains c && digits ≠ [] then
      let n : Int := Text.decimalNumber digits
      (if negative then -n else n, rest)
    else (0, s)
  | [] => (0, s)

/-- Digits before and behind a point, and the rest; one side at least has digits. -/
def leadingDigits (isDigit : Char → Bool) (s : List Char) :
    Option (List Char × List Char × List Char) :=
  let (whole, rest) := Text.run isDigit s
  let (fraction, behind) := match rest with
    | '.' :: behind => Text.run isDigit behind
    | rest => ([], rest)
  if whole = [] && fraction = [] then none else some (whole, fraction, behind)

/-- Whether a number stands for a quotient that it does not equal and that it cannot come close to:
one beyond the range, or one below the least normal number. -/
def isOutOfRange (x : Binary64) (num den : Nat) : Bool :=
  match x with
  | .infinity _ => true
  | .finite _ m e =>
    let r := Binary64.ratio m e
    m < Nat.pow 2 52 && e = Binary64.leastExponent && num * r.2 != r.1 * den
  | .nan => false

/-- A quotient times a power. -/
def timesPower (base : Nat) (exponent : Int) (num den : Nat) : Nat × Nat :=
  if 0 ≤ exponent then (num * Nat.pow base exponent.toNat, den)
  else (num, den * Nat.pow base (-exponent).toNat)

/-- An exponent that decides nothing more when it grows. -/
def boundedExponent (digits : Nat) (exponent : Int) : Int :=
  max (-2000 - digits) (min 2000 exponent)

/-- The number for some digits in a base with an exponent. -/
def leadingValue (negative : Bool) (digits : Nat) (base : Nat) (exponent : Int)
    (rest : List Char) : Leading :=
  let (num, den) := timesPower base exponent digits 1
  let x := Binary64.ofRatio negative num den
  ⟨x, rest, isOutOfRange x num den⟩

/-- The hexadecimal numeral behind `0x`. -/
def leadingHex? (negative : Bool) (s : List Char) : Option Leading := do
  let (whole, fraction, rest) ← leadingDigits (fun c => (hexDigit? c).isSome) s
  let (exponent, rest) := leadingExponent ['p', 'P'] rest
  let digits := whole ++ fraction
  let power := boundedExponent (4 * digits.length) (exponent - 4 * fraction.length)
  return leadingValue negative (hexNumber digits) 2 power rest

/-- The decimal numeral at the start of a text without a sign. -/
def leadingDecimal? (negative : Bool) (s : List Char) : Option Leading := do
  let (whole, fraction, rest) ← leadingDigits Char.isDigit s
  let (exponent, rest) := leadingExponent ['e', 'E'] rest
  let digits := whole ++ fraction
  let power := boundedExponent digits.length (exponent - fraction.length)
  return leadingValue negative (Text.decimalNumber digits) 10 power rest

/-- The word at the start of a text, in any case. -/
def leadingWord? (word : String) (s : List Char) : Option (List Char) :=
  let n := word.length
  if (s.take n).map Char.toLower == word.toList then some (s.drop n) else none

/-- The text behind `nan`, which may have a word between parentheses. -/
def behindNan (s : List Char) : List Char :=
  match s with
  | '(' :: cs =>
    match cs.dropWhile fun c => c.isAlphanum || c == '_' with
    | ')' :: rest => rest
    | _ => s
  | s => s

/-- The numeral at the start of a text without a sign. -/
def leadingMagnitude? (negative : Bool) (s : List Char) : Option Leading :=
  match leadingWord? "infinity" s, leadingWord? "inf" s, leadingWord? "nan" s with
  | some rest, _, _ | none, some rest, _ => some ⟨.infinity negative, rest, false⟩
  | none, none, some rest => some ⟨.nan, behindNan rest, false⟩
  | none, none, none =>
    match (leadingWord? "0x" s).bind (leadingHex? negative) with
    | some r => some r
    | none => leadingDecimal? negative s

/-- **The number at the start of a text**, behind white space and a sign. -/
def leadingNumber (s : List Char) : Option Leading :=
  let (negative, body) := sign (s.dropWhile isPadding)
  leadingMagnitude? negative body

end SourceCheck.Number

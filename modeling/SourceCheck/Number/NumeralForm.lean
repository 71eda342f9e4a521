import SourceCheck.Number.Shortest

/-!
# Numerals of a given precision

A finite number is written with so many digits behind the point, positionally or with an exponent;
with so many digits in all, whichever way is shorter; or with hexadecimal digits.  The exact value
is rounded, a tie going to the even digit.

* `NumeralForm.magnitude`: the numeral of a number without its sign.
* `Style`: the four ways.
-/

namespace SourceCheck.Number

/-- **A way to write a number.** -/
inductive Style
  /-- All digits before the point. -/
  | fixed
  /-- One digit before the point, and a power of ten. -/
  | scientific
  /-- The shorter of the two. -/
  | general
  /-- Hexadecimal digits, and a power of two. -/
  | hexadecimal
  deriving DecidableEq, Repr

/-- **How a number is written.** -/
structure NumeralForm where
  style : Style
  precision : Option Nat
  /-- Whether the point stays where no digit follows it, and zeros at the end stay too. -/
  full : Bool

namespace NumeralForm

/-- How many digits stand behind the point unless anything else is said. -/
def usualPrecision : Nat := 6

/-- Digits with a point in front of the last of them. -/
def pointed (full : Bool) (places : Nat) (digits : List Char) : List Char :=
  let digits := List.replicate (places + 1 - digits.length) '0' ++ digits
  let whole := digits.take (digits.length - places)
  let fraction := digits.drop (digits.length - places)
  whole ++ (if fraction.isEmpty && !full then [] else ['.']) ++ fraction

/-- An exponent of at least so many digits behind its mark. -/
def exponentText (mark : Char) (least : Nat) (exponent : Int) : List Char :=
  let size := Nat.toDigits 10 exponent.natAbs
  mark :: (if exponent < 0 then '-' else '+') :: List.replicate (least - size.length) '0' ++ size

/-- A quotient with so many places. -/
def fixed (full : Bool) (places num den : Nat) : List Char :=
  pointed full places (Nat.toDigits 10 (roundHalfEven (num * Nat.pow 10 places) den))

/-- The digits of a quotient, one and so many more, as a number, with the exponent of the first. -/
def significant (places num den : Nat) : Nat × Int :=
  if num = 0 then (0, 0)
  else
    let e := Number.magnitude num den - 1
    let p := powerOfTen (places - e)
    let n := roundHalfEven (num * p.1) (den * p.2)
    if n = Nat.pow 10 (places + 1) then (Nat.pow 10 places, e + 1) else (n, e)

/-- A quotient with an exponent. -/
def scientific (full : Bool) (places num den : Nat) : List Char :=
  let (n, e) := significant places num den
  pointed full places (Nat.toDigits 10 n) ++ exponentText 'e' 2 e

/-- A text without zeros at the end of its fraction. -/
def trimmed (s : List Char) : List Char :=
  if s.contains '.' then
    let bare := (s.reverse.dropWhile (· == '0')).reverse
    if bare.getLast? == some '.' then bare.dropLast else bare
  else s

/-- A quotient with so many digits in all, the shorter way. -/
def general (full : Bool) (digits num den : Nat) : List Char :=
  let digits := max 1 digits
  let (n, e) := significant (digits - 1) num den
  let kept := fun s => if full then s else trimmed s
  if -4 ≤ e && e < digits then kept (fixed full (digits - 1 - e).toNat num den)
  else kept (pointed full (digits - 1) (Nat.toDigits 10 n)) ++ exponentText 'e' 2 e

/-- A number of 52 bits behind the point with hexadecimal digits. -/
def hexadecimal (full : Bool) (places : Option Nat) (m : Nat) (e : Int) : List Char :=
  let exponent := if m = 0 then 0 else e + 52
  let digits := fun (places : Nat) (n : Nat) => pointed full places (Nat.toDigits 16 n)
  let body := match places with
    | none =>
      let s := trimmed (digits 13 m)
      if full && !s.contains '.' then s ++ ['.'] else s
    | some p =>
      if p < 13 then digits p (roundHalfEven m (Nat.pow 16 (13 - p)))
      else digits p (m * Nat.pow 16 (p - 13))
  '0' :: 'x' :: body ++ exponentText 'p' 1 exponent

/-- **The numeral of a number** without its sign. -/
def magnitude (f : NumeralForm) : Binary64 → List Char
  | .nan => "nan".toList
  | .infinity _ => "inf".toList
  | .finite _ m e =>
    let r := Binary64.ratio m e
    let places := f.precision.getD usualPrecision
    match f.style with
    | .fixed => fixed f.full places r.1 r.2
    | .scientific => scientific f.full places r.1 r.2
    | .general => general f.full places r.1 r.2
    | .hexadecimal => hexadecimal f.full f.precision m e

end NumeralForm

namespace Binary64

/-- Whether a number carries a minus sign. -/
def isNegative : Binary64 → Bool
  | .nan => false
  | .infinity negative => negative
  | .finite negative _ _ => negative

end Binary64

end SourceCheck.Number

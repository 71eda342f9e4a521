/-!
# Binary floating-point numbers of 64 bits

A finite number is `±significand · 2^exponent` with a significand below `2^53`.  Numbers are
stored in the one form that has the smallest exponent, at least -1074, that the significand
allows, so that two numbers are equal as values of the type exactly when sign, significand and
exponent are.

* `ofRatio`: the number nearest to a quotient, a tie going to the even significand.
* `ofDecimal`: the number nearest to a decimal numeral.
* `whole?`: the whole number that a number is.
* `truncate?`: the whole part.
-/

namespace SourceCheck.Number

/-- **A binary floating-point number of 64 bits.** -/
inductive Binary64
  | nan
  | infinity (negative : Bool)
  | finite (negative : Bool) (significand : Nat) (exponent : Int)
  deriving Repr, DecidableEq

/-- The whole number nearest to `num / den`; of two equally near ones the even one. -/
def roundHalfEven (num den : Nat) : Nat :=
  let q := num / den
  let r := num % den
  if 2 * r < den || (2 * r == den && q % 2 == 0) then q else q + 1

namespace Binary64

/-- The smallest exponent of a finite number. -/
def leastExponent : Int := -1074

/-- The largest exponent of a finite number. -/
def greatestExponent : Int := 971

/-- Zero. -/
def zero (negative : Bool) : Binary64 := finite negative 0 leastExponent

/-- `num / (den · 2^e)` as a quotient of natural numbers. -/
def scaled (num den : Nat) (e : Int) : Nat × Nat :=
  if 0 ≤ e then (num, den * Nat.pow 2 e.toNat) else (num * Nat.pow 2 (-e).toNat, den)

/-- **The number nearest to `±num / den`**; a tie goes to the even significand. -/
def ofRatio (negative : Bool) (num den : Nat) : Binary64 :=
  if num = 0 then zero negative
  else
    let low : Int := max ((num.log2 : Int) - (den.log2 : Int) - 53) leastExponent
    let first := scaled num den low
    let e := if first.1 / first.2 ≥ Nat.pow 2 53 then low + 1 else low
    let q := scaled num den e
    let m := roundHalfEven q.1 q.2
    let (m, e) := if m = Nat.pow 2 53 then (Nat.pow 2 52, e + 1) else (m, e)
    if e > greatestExponent then infinity negative else finite negative m e

/-- **The number nearest to `±digits · 10^exponent`.**  Numerals far outside the range are settled
by the count of their digits. -/
def ofDecimal (negative : Bool) (digits : Nat) (exponent : Int) : Binary64 :=
  if digits = 0 then zero negative
  else if exponent > 400 then infinity negative
  else if ((Nat.toDigits 10 digits).length : Int) + exponent < -400 then zero negative
  else if 0 ≤ exponent then ofRatio negative (digits * Nat.pow 10 exponent.toNat) 1
  else ofRatio negative digits (Nat.pow 10 (-exponent).toNat)

/-- The number nearest to a whole number. -/
def ofInt (n : Int) : Binary64 := ofRatio (n < 0) n.natAbs 1

/-- Whether the number is greater than zero. -/
def isPositive : Binary64 → Bool
  | infinity negative => !negative
  | finite negative m _ => !negative && m != 0
  | nan => false

/-- Whether the number is zero, of either sign. -/
def isZero : Binary64 → Bool
  | finite _ m _ => m == 0
  | _ => false

/-- The magnitude of a finite number as a quotient. -/
def ratio (m : Nat) (e : Int) : Nat × Nat :=
  if 0 ≤ e then (m * Nat.pow 2 e.toNat, 1) else (m, Nat.pow 2 (-e).toNat)

/-- **The whole number that a number is**, if it is one. -/
def whole? : Binary64 → Option Int
  | finite negative m e =>
    let r := ratio m e
    if r.1 % r.2 = 0 then
      let n : Int := (r.1 / r.2 : Nat)
      some (if negative then -n else n)
    else none
  | _ => none

/-- **The whole part of a finite number**, rounded towards zero. -/
def truncate? : Binary64 → Option Int
  | finite negative m e =>
    let r := ratio m e
    let n : Int := (r.1 / r.2 : Nat)
    some (if negative then -n else n)
  | _ => none

end Binary64

end SourceCheck.Number

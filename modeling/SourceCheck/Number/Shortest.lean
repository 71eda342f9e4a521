import SourceCheck.Number.Binary64

/-!
# The shortest numeral of a number

A finite number is written with the fewest digits that read back as the same number; of two such
numerals the nearer is taken, of two equally near ones the even one.  `shortest` finds the digits
in exact arithmetic: the numbers that round to `m · 2^e` form an interval whose ends belong to it
exactly when `m` is even, and for one, two, … digits the two neighbours of the value on that
decimal grid are tried.

`Binary64.text` lays the digits out: positional from `10^-4` up to below `10^16`, else with an
exponent of at least two digits.
-/

namespace SourceCheck.Number

/-- Whether `a / b ≤ c / d` for positive denominators. -/
def ratioLe (a b c d : Nat) : Bool := decide (a * d ≤ c * b)

/-- `10^k` as a quotient. -/
def powerOfTen (k : Int) : Nat × Nat :=
  if 0 ≤ k then (Nat.pow 10 k.toNat, 1) else (1, Nat.pow 10 (-k).toNat)

/-- Raises `k` until `num / den < 10^k`, at most `fuel` times. -/
def raiseMagnitude (num den : Nat) : Nat → Int → Int
  | 0, k => k
  | fuel + 1, k =>
    let p := powerOfTen k
    if ratioLe p.1 p.2 num den then raiseMagnitude num den fuel (k + 1) else k

/-- The `k` with `10^(k-1) ≤ num / den < 10^k`. -/
def magnitude (num den : Nat) : Int :=
  let binary : Int := (num.log2 : Int) - (den.log2 : Int)
  raiseMagnitude num den 6 (Int.fdiv (binary * 30103) 100000 - 1)

/-- **The interval of a finite number**: the quotients that round to it, in quarters of its last
place, and whether the ends belong to it. -/
structure RoundingInterval where
  /-- The lower end, in units of `2^(e-2)`. -/
  low : Nat
  /-- The number itself. -/
  value : Nat
  /-- The upper end. -/
  high : Nat
  /-- Whether the ends round to the number as well. -/
  closed : Bool

/-- The interval around `m · 2^e`; below a power of two the neighbours are closer. -/
def RoundingInterval.around (m : Nat) (e : Int) : RoundingInterval :=
  let narrow := m == Nat.pow 2 52 && decide (Binary64.leastExponent < e)
  { low := 4 * m - (if narrow then 1 else 2), value := 4 * m, high := 4 * m + 2,
    closed := m % 2 == 0 }

/-- The decimal with `n` digits that reads back as `m · 2^e`, if there is one: its digits as a
number on the grid `10^(k-n)`. -/
def onGrid (m : Nat) (e : Int) (k : Int) (n : Nat) : Option Nat :=
  let box := RoundingInterval.around m e
  let unit := Binary64.ratio 1 (e - 2)
  let grid := powerOfTen (k - n)
  -- the value in units of the grid is `top / bottom`
  let top := unit.1 * grid.2
  let bottom := unit.2 * grid.1
  let inside (q : Nat) : Bool :=
    if box.closed then decide (box.low * top ≤ q * bottom) && decide (q * bottom ≤ box.high * top)
    else decide (box.low * top < q * bottom) && decide (q * bottom < box.high * top)
  let below := box.value * top / bottom
  let above := below + 1
  match inside below, inside above with
  | true, true => some (roundHalfEven (box.value * top) bottom)
  | true, false => some below
  | false, true => some above
  | false, false => none

/-- Digits without their trailing zeros. -/
def dropZeros (digits : List Char) : List Char := (digits.reverse.dropWhile (· == '0')).reverse

/-- **The shortest digits of `m · 2^e`** and the place of the point: the number is
`0.d₁d₂… · 10^k`. -/
def shortest (m : Nat) (e : Int) : List Char × Int :=
  let r := Binary64.ratio m e
  let k := magnitude r.1 r.2
  match (List.range 17).findSome? fun i => (onGrid m e k (i + 1)).map fun q => (q, i + 1) with
  | some (q, n) =>
    let ds := Nat.toDigits 10 q
    (dropZeros ds, k - n + ds.length)
  | none => (Nat.toDigits 10 (r.1 / r.2), (Nat.toDigits 10 (r.1 / r.2)).length)

/-- The smallest decimal exponent that is written positionally. -/
def positionalFrom : Int := -4

/-- The first decimal exponent that is not written positionally any more. -/
def positionalBelow : Int := 16

/-- The fewest digits of a written exponent. -/
def exponentDigits : Nat := 2

/-- Digits laid out around the point at place `k`. -/
def positional (digits : List Char) (k : Int) : List Char :=
  if k ≤ 0 then '0' :: '.' :: List.replicate (-k).toNat '0' ++ digits
  else if (digits.length : Int) ≤ k then
    digits ++ List.replicate (k.toNat - digits.length) '0' ++ ['.', '0']
  else digits.take k.toNat ++ '.' :: digits.drop k.toNat

/-- Digits laid out with an exponent. -/
def scientific (digits : List Char) (exponent : Int) : List Char :=
  let body := match digits with
    | d :: [] => [d]
    | d :: ds => d :: '.' :: ds
    | [] => ['0']
  let size := Nat.toDigits 10 exponent.natAbs
  let size := List.replicate (exponentDigits - size.length) '0' ++ size
  body ++ 'e' :: (if exponent < 0 then '-' else '+') :: size

/-- **The numeral of a number.** -/
def Binary64.text : Binary64 → String
  | .nan => "nan"
  | .infinity negative => if negative then "-inf" else "inf"
  | .finite negative m e =>
    let body :=
      if m = 0 then ['0', '.', '0']
      else
        let (digits, k) := shortest m e
        if positionalFrom ≤ k - 1 && k - 1 < positionalBelow then positional digits k
        else scientific digits (k - 1)
    String.ofList (if negative then '-' :: body else body)

/-- **The numeral of a number with one decimal**: the exact value rounded, a tie going to the even
digit. -/
def Binary64.oneDecimal : Binary64 → String
  | .nan => "nan"
  | .infinity negative => if negative then "-inf" else "inf"
  | .finite negative m e =>
    let r := Binary64.ratio m e
    let tenths := roundHalfEven (10 * r.1) r.2
    (if negative then "-" else "") ++ toString (tenths / 10) ++ "." ++ toString (tenths % 10)

end SourceCheck.Number

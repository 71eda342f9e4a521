import SourceCheck.Number.Binary64
import SourceCheck.Number.Integer
import SourceCheck.Text.Scan

/-!
# Decimal numerals in texts

A numeral is an optional sign, ASCII digits with at most one point among them, and an optional
exponent; `inf`, `infinity` and `nan`, in any case, are numerals too.  White space around a numeral
does not count; the information separators are no white space here.

A text that is no numeral may become one without its underscores, provided that there is no white
space around it, that it neither starts nor ends with an underscore, and that no two of them stand
side by side.

* `readNumeral`: the number nearest to a numeral.
* `readDecimal`: the number nearest to what a whole text writes.
-/

namespace SourceCheck.Number

/-! ## 1. Numerals -/

/-- Numerals that are words, in lower case. -/
def numeralWords : List (String × (Bool → Binary64)) := [
  ("inf", Binary64.infinity), ("infinity", Binary64.infinity), ("nan", fun _ => Binary64.nan)]

/-- The digits before and behind the point, and the rest; one side at least has digits. -/
def significandDigits (s : List Char) : Option (List Char × List Char × List Char) :=
  let (whole, rest) := Text.run Char.isDigit s
  let (fraction, rest) := match rest with
    | '.' :: behind => Text.run Char.isDigit behind
    | rest => ([], rest)
  if whole = [] && fraction = [] then none else some (whole, fraction, rest)

/-- The exponent that the rest of a numeral writes; nothing at all stands for zero. -/
def exponentOf? : List Char → Option Int
  | [] => some 0
  | c :: cs =>
    if c == 'e' || c == 'E' then
      let (negative, body) := sign cs
      if body.isEmpty || body.any (!·.isDigit) then none
      else
        let n : Int := Text.decimalNumber body
        some (if negative then -n else n)
    else none

/-- The number that a numeral without a sign writes. -/
def magnitudeOf? (negative : Bool) (s : List Char) : Option Binary64 :=
  let word := String.ofList (s.map Char.toLower)
  match numeralWords.find? fun w => w.1 == word with
  | some w => some (w.2 negative)
  | none => do
    let (whole, fraction, rest) ← significandDigits s
    let exponent ← exponentOf? rest
    return Binary64.ofDecimal negative (Text.decimalNumber (whole ++ fraction))
      (exponent - fraction.length)

/-- **The number nearest to a numeral.** -/
def readNumeral (s : List Char) : Option Binary64 :=
  let (negative, body) := sign s
  magnitudeOf? negative body

/-! ## 2. Texts -/

/-- White space around a numeral. -/
def isNumeralPadding (c : Char) : Bool :=
  Text.isBlank c && !(28 ≤ c.toNat && c.toNat ≤ 31)

/-- Whether two underscores stand side by side. -/
def hasDoubleUnderscore : List Char → Bool
  | '_' :: '_' :: _ => true
  | _ :: cs => hasDoubleUnderscore cs
  | [] => false

/-- A text without its underscores, if they are where they may be. -/
def withoutUnderscores? (s : List Char) : Option (List Char) :=
  if s.head? = some '_' || s.getLast? = some '_' || hasDoubleUnderscore s then none
  else some (s.filter (· != '_'))

/-- **The number nearest to what a text writes**, if it writes one. -/
def readDecimal (s : List Char) : Option Binary64 :=
  match readNumeral (Text.trimOf isNumeralPadding s) with
  | some x => some x
  | none => (withoutUnderscores? s).bind readNumeral

end SourceCheck.Number

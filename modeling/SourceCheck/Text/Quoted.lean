import SourceCheck.Text.Runs
import SourceCheck.Text.PrintableTable

/-!
# Quoted texts in messages

A message shows a text between quotes: single ones, or double ones when the text holds a single
quote and no double quote.  Inside, the quote and the backslash are escaped, tab, line feed and
carriage return have short escapes, and every other character without a glyph is written by its
code point in hexadecimal (`\xNN`, `\uNNNN` or `\UNNNNNNNN`).
-/

namespace SourceCheck.Text

/-- Characters that show as themselves. -/
def isPrintable (c : Char) : Bool := !inRanges unprintableRanges c.toNat

/-- A number in hexadecimal with at least `width` digits. -/
def hex (width n : Nat) : List Char :=
  let ds := Nat.toDigits 16 n
  List.replicate (width - ds.length) '0' ++ ds

/-- The quote around a text. -/
def quoteMark (s : List Char) : Char :=
  if s.contains '\'' && !s.contains '"' then '"' else '\''

/-- A character as it stands between the quotes `q`. -/
def escapeQuoted (q c : Char) : List Char :=
  if c == q || c == '\\' then ['\\', c]
  else if c == '\t' then ['\\', 't']
  else if c == '\n' then ['\\', 'n']
  else if c == '\r' then ['\\', 'r']
  else if isPrintable c then [c]
  else if c.toNat ≤ 0xFF then '\\' :: 'x' :: hex 2 c.toNat
  else if c.toNat ≤ 0xFFFF then '\\' :: 'u' :: hex 4 c.toNat
  else '\\' :: 'U' :: hex 8 c.toNat

/-- **A text between quotes.** -/
def quoteChars (s : List Char) : List Char :=
  let q := quoteMark s
  q :: s.flatMap (escapeQuoted q) ++ [q]

/-- **A string between quotes.** -/
def quoted (s : String) : String := String.ofList (quoteChars s.toList)

end SourceCheck.Text

import SourceCheck.Diagnostic

/-!
# Positions in tool output

A position in tool output is a whole number, or a text of digits, counted from one or from zero;
`offset` says how far to shift it.  A value of any other kind stands for the first position.  A
text that looks like digits and yet writes no number (superscripts and circled digits do) is a
failure.

* `Position.ofValue`: the position that a value of a document gives.
* `Position.ofDigits`: the position that a run of decimal digits gives.
-/

namespace SourceCheck.Position

/-- A text without outer white space that is made of digits of some kind. -/
def looksLikeDigits (s : List Char) : Bool :=
  let t := Text.trim s
  t != [] && t.all Text.isDigitLike

/-- **The position that a value gives**, shifted by an offset. -/
def ofValue (offset : Int) : Json → Except Fault Position
  | .int n => .ok (ofInt (n + offset))
  | .string s =>
    if looksLikeDigits s.toList then
      (Number.readInteger s.toList).map fun n => ofInt (n + offset)
    else .ok first
  | _ => .ok first

/-- **The position that a run of decimal digits gives.** -/
def ofDigits (digits : List Char) : Except Fault Position := (Number.readNumber digits).map ofNat

/-- The position that a run of decimal digits gives, or the first one if there is none. -/
def ofDigits? : Option (List Char) → Except Fault Position
  | some digits => ofDigits digits
  | none => .ok first

end SourceCheck.Position

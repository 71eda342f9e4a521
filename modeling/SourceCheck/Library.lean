import SourceCheck.Json.Reader
import SourceCheck.Number.Decimal
import SourceCheck.Settings.Problem

/-!
# What others do for the program

Three things are left to libraries: reading the document of an event, taking a value of a settings
document for a truth value or for a number, and the words for what is wrong with a file.  All that
is known of them is that a value of the right kind stands for itself.

* `Library`: what the libraries do.
* `Library.standard`: lenient readings.  A truth value may be written as a number or a word, a
  number as a numeral.
-/

namespace SourceCheck

open Number (Binary64)

/-- **What the program takes from libraries.** -/
class Library where
  /-- The document that an event's text writes, if it writes one. -/
  eventDocument? : String → Option Json
  /-- The truth value that a value stands for. -/
  truthValue : Json → Except SettingsProblem Bool
  truthValue_bool (b : Bool) : truthValue (.bool b) = .ok b
  /-- The number that a value stands for. -/
  seconds : Json → Except SettingsProblem Binary64
  seconds_number (x : Binary64) : seconds (.number x) = .ok x
  /-- The words for bytes that are no text. -/
  undecodableWords : List UInt8 → String
  /-- The words for a text that is no document. -/
  malformedWords : List Char → String
  /-- The words for an object with problems. -/
  invalidWords : List SettingsProblem → Json.Members → String

namespace Library

/-! ## 1. Lenient readings -/

/-- Words for off. -/
def noWords : List String := ["0", "off", "f", "false", "n", "no"]

/-- Words for on. -/
def yesWords : List String := ["1", "on", "t", "true", "y", "yes"]

/-- One, as a floating-point number. -/
def one : Binary64 := .finite false (Nat.pow 2 52) (-52)

/-- Whether a whole number fits into 64 bits with a sign. -/
def isWord (n : Int) : Bool := -Int.pow 2 63 ≤ n && n < Int.pow 2 63

/-- **The truth value that a number stands for**; whole numbers of 64 bits are taken for badly
written truth values, other numbers for no truth values at all. -/
def switchOfInt (n : Int) : Except SettingsProblem Bool :=
  if n == 0 then .ok false
  else if n == 1 then .ok true
  else .error (if isWord n then .switchUnreadable else .switchNotBoolean)

/-- **The truth value that a value stands for.** -/
def lenientTruthValue : Json → Except SettingsProblem Bool
  | .bool b => .ok b
  | .int n => switchOfInt n
  | .number x =>
    match x.whole? with
    | some n => if n = -Int.pow 2 63 then .error .switchNotBoolean else switchOfInt n
    | none => .error .switchNotBoolean
  | .string s =>
    let word := String.ofList (s.toList.map Char.toLower)
    if noWords.contains word then .ok false
    else if yesWords.contains word then .ok true
    else .error .switchUnreadable
  | _ => .error .switchNotBoolean

/-- The number that a value stands for. -/
def lenientSeconds : Json → Except SettingsProblem Binary64
  | .bool b => .ok (if b then one else .zero false)
  | .int n =>
    match Binary64.ofInt n with
    | .infinity _ => .error .timeoutNotNumber
    | x => .ok x
  | .number x => .ok x
  | .string s =>
    match Number.readDecimal s.toList with
    | some x => .ok x
    | none => .error .timeoutUnreadable
  | _ => .error .timeoutNotNumber

/-! ## 2. The library of the program -/

/-- A problem with the key that it is about. -/
def problemLine (p : SettingsProblem) : String :=
  match p.key? with
  | some key => key ++ ": " ++ p.message
  | none => p.message

/-- **Lenient readings, and short words.** -/
instance standard : Library where
  eventDocument? payload := (Json.read .event payload).toOption
  truthValue := lenientTruthValue
  truthValue_bool _ := rfl
  seconds := lenientSeconds
  seconds_number _ := rfl
  undecodableWords _ := "not in UTF-8"
  malformedWords _ := "not a JSON document"
  invalidWords ps _ := "\n".intercalate (ps.map problemLine)

end Library

end SourceCheck

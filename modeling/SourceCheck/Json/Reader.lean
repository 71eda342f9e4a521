import SourceCheck.Json.Value
import SourceCheck.Text.Scan

/-!
# Reading JSON

The grammar is JSON's, with `NaN`, `Infinity` and `-Infinity` as further numbers.  White space is
space, tab, line feed and carriage return; control characters inside strings are refused; digits
are the ASCII ones.  A dialect limits the digits of a number and the nesting, and says what becomes
of half a surrogate pair that stands alone.

Not every text is followed to its end.  Half a surrogate pair is no character, so that no string
holds it; and a text that is malformed so deep that telling it may need more levels than are left
may come to one end or the other.

* `read`: the document that a whole text writes.
* `Dialect.file`: what files and tool output are read with.
* `Dialect.event`: what an event on standard input is read with.
-/

namespace SourceCheck.Json

open Number (Binary64)

/-- **What becomes of half a surrogate pair** that is escaped alone. -/
inductive HalfPair
  | malformed
  /-- It is read as the replacement character. -/
  | replaced
  /-- The text is not followed any further. -/
  | unfollowed
  deriving Repr, DecidableEq

/-- **How strictly a text is read.** -/
structure Dialect where
  /-- The most digits of a whole number. -/
  digitLimit : Option Nat
  /-- Whether that limit is one for the characters in front of the point of any number, a minus sign
  among them. -/
  limitsCharacters : Bool
  /-- The deepest nesting of arrays and objects. -/
  depthLimit : Option Nat
  /-- Whether arrays and objects with nothing in them count for the nesting. -/
  countsEmpty : Bool
  /-- How many levels must be left where a text turns out to be malformed. -/
  reserve : Nat
  halfPair : HalfPair
  deriving Repr, DecidableEq

/-- Files and tool output: nesting as deep as can be followed. -/
def Dialect.file (depth : Depth) (halfPair : HalfPair) : Dialect :=
  ⟨some Fault.digitLimit, false, some depth.levels, true, depth.reserve, halfPair⟩

/-- Events: at most two hundred levels, and no half surrogate pairs. -/
def Dialect.event : Dialect := ⟨some Fault.digitLimit, true, some 200, false, 0, .malformed⟩

/-- **Why a text is no document.** -/
inductive ReadError
  | malformed
  | tooManyDigits (count : Nat)
  /-- An array or an object at a level that is too deep. -/
  | tooDeep (isObject : Bool)
  /-- It is not followed what becomes of the text. -/
  | unfollowed
  deriving Repr, DecidableEq

/-- What a reading step gives: a value and the rest of the text. -/
abbrev Step (α : Type) := Except ReadError (α × List Char)

/-- White space between the tokens of a document. -/
def isSpace (c : Char) : Bool := c == ' ' || c == '\t' || c == '\n' || c == '\r'

/-- The text behind leading white space. -/
def skip (s : List Char) : List Char := s.dropWhile isSpace

/-! ## 1. Strings -/

/-- The value of a hexadecimal digit. -/
def hexValue? (c : Char) : Option Nat :=
  if '0' ≤ c && c ≤ '9' then some (c.toNat - 48)
  else if 'a' ≤ c && c ≤ 'f' then some (c.toNat - 87)
  else if 'A' ≤ c && c ≤ 'F' then some (c.toNat - 55)
  else none

/-- The number that four hexadecimal digits write. -/
def hexNumber? (a b c d : Char) : Option Nat := do
  let a ← hexValue? a
  let b ← hexValue? b
  let c ← hexValue? c
  let d ← hexValue? d
  return ((a * 16 + b) * 16 + c) * 16 + d

/-- The first half of a surrogate pair. -/
def isHighSurrogate (n : Nat) : Bool := 0xD800 ≤ n && n ≤ 0xDBFF

/-- The second half of a surrogate pair. -/
def isLowSurrogate (n : Nat) : Bool := 0xDC00 ≤ n && n ≤ 0xDFFF

/-- The character of a surrogate pair. -/
def pairChar (high low : Nat) : Char :=
  Char.ofNat (0x10000 + (high - 0xD800) * 1024 + (low - 0xDC00))

/-- The character behind a backslash. -/
def shortEscape? : Char → Option Char
  | '"' => some '"'
  | '\\' => some '\\'
  | '/' => some '/'
  | 'b' => some '\x08'
  | 'f' => some '\x0c'
  | 'n' => some '\n'
  | 'r' => some '\r'
  | 't' => some '\t'
  | _ => none

/-- Puts a unit in front of those that were read. -/
def consUnit (u : Option Char) : Step (List (Option Char)) → Step (List (Option Char))
  | .ok (us, rest) => .ok (u :: us, rest)
  | .error e => .error e

/-- **The units of a string** behind its opening quote: its characters, and none for half a
surrogate pair that stands alone. -/
def stringUnits : List Char → Step (List (Option Char))
  | [] => .error .malformed
  | '"' :: cs => .ok ([], cs)
  | '\\' :: 'u' :: a :: b :: c :: e :: cs =>
    match hexNumber? a b c e with
    | none => .error .malformed
    | some n =>
      if isHighSurrogate n then
        match cs with
        | '\\' :: 'u' :: a₂ :: b₂ :: c₂ :: e₂ :: cs₂ =>
          match hexNumber? a₂ b₂ c₂ e₂ with
          | none => .error .malformed
          | some n₂ =>
            if isLowSurrogate n₂ then consUnit (pairChar n n₂) (stringUnits cs₂)
            else consUnit none (stringUnits ('\\' :: 'u' :: a₂ :: b₂ :: c₂ :: e₂ :: cs₂))
        | cs => consUnit none (stringUnits cs)
      else if isLowSurrogate n then consUnit none (stringUnits cs)
      else consUnit (Char.ofNat n) (stringUnits cs)
  | '\\' :: c :: cs =>
    match shortEscape? c with
    | some e => consUnit e (stringUnits cs)
    | none => .error .malformed
  | c :: cs => if c.toNat < 32 then .error .malformed else consUnit c (stringUnits cs)

/-- The text of some units. -/
def Dialect.textOf (d : Dialect) (us : List (Option Char)) : Except ReadError (List Char) :=
  if us.all Option.isSome then .ok (us.filterMap id)
  else match d.halfPair with
    | .malformed => .error .malformed
    | .replaced => .ok (us.map fun u => u.getD '\uFFFD')
    | .unfollowed => .error .unfollowed

/-- **The rest of a string** behind its opening quote. -/
def stringBody (d : Dialect) (s : List Char) : Step (List Char) :=
  match stringUnits s with
  | .error e => .error e
  | .ok (us, rest) => (d.textOf us).map fun cs => (cs, rest)

/-! ## 2. Numbers -/

/-- The whole part of a number: a zero, or digits that do not start with one. -/
def wholePart : List Char → Option (List Char × List Char)
  | '0' :: cs => some (['0'], cs)
  | cs => if cs.takeWhile Char.isDigit = [] then none else some (Text.run Char.isDigit cs)

/-- The digits of a fraction, if there is one, and the rest. -/
def fractionPart : List Char → List Char × List Char
  | '.' :: cs =>
    if cs.takeWhile Char.isDigit = [] then ([], '.' :: cs) else Text.run Char.isDigit cs
  | cs => ([], cs)

/-- The exponent, if there is one, and the rest. -/
def exponentPart : List Char → Option Int × List Char
  | c :: cs =>
    if c == 'e' || c == 'E' then
      let (negative, body) := Number.sign cs
      let (digits, rest) := Text.run Char.isDigit body
      if digits = [] then (none, c :: cs)
      else
        let n : Int := Text.decimalNumber digits
        (some (if negative then -n else n), rest)
    else (none, c :: cs)
  | [] => (none, [])

/-- Whether a number is too long to be read. -/
def Dialect.refuses (d : Dialect) (negative isInt : Bool) (count : Nat) : Bool :=
  match d.digitLimit with
  | some limit =>
    if d.limitsCharacters then decide (limit < count + if negative then 1 else 0)
    else isInt && decide (limit < count)
  | none => false

/-- **A number** with its sign already read. -/
def numberBody (d : Dialect) (negative : Bool) (s : List Char) : Step Json :=
  match wholePart s with
  | none => .error .malformed
  | some (whole, rest) =>
    let (fraction, rest) := fractionPart rest
    let (exponent, rest) := exponentPart rest
    let isInt := fraction = [] && exponent.isNone
    if d.refuses negative isInt whole.length then .error (.tooManyDigits whole.length)
    else if isInt then
      let n : Int := Text.decimalNumber whole
      .ok (.int (if negative then -n else n), rest)
    else
      let digits := Text.decimalNumber (whole ++ fraction)
      .ok (.number (Binary64.ofDecimal negative digits (exponent.getD 0 - fraction.length)), rest)

/-- A value that is written as a fixed word. -/
def words : List (String × Json) := [
  ("null", .null), ("true", .bool true), ("false", .bool false), ("NaN", .number .nan),
  ("Infinity", .number (.infinity false)), ("-Infinity", .number (.infinity true))]

/-- A fixed word or a number. -/
def scalar (d : Dialect) (s : List Char) : Step Json :=
  match words.findSome? fun w => (Text.afterWord w.1 s).map fun r => (w.2, r) with
  | some r => .ok r
  | none =>
    match s with
    | '-' :: cs => numberBody d true cs
    | cs => numberBody d false cs

/-! ## 3. Documents -/

/-- Whether a further level of nesting is allowed inside `depth` levels. -/
def Dialect.allows (d : Dialect) (depth : Nat) : Bool :=
  match d.depthLimit with
  | some limit => decide (depth < limit)
  | none => true

/-- Whether enough levels are left inside `depth` of them to tell that a text is malformed. -/
def Dialect.hasRoom (d : Dialect) (depth : Nat) : Bool :=
  match d.depthLimit with
  | some limit => decide (depth + d.reserve ≤ limit)
  | none => true

/-- What a step inside `depth` levels comes to, with the room that is left there. -/
def Dialect.inside (d : Dialect) (depth : Nat) (st : Step Json) : Step Json :=
  match st with
  | .error .malformed => if d.hasRoom depth then .error .malformed else .error .unfollowed
  | st => st

mutual

/-- **A value** inside `depth` levels of nesting. -/
def value (d : Dialect) : Nat → Nat → List Char → Step Json
  | 0, _, _ => .error .malformed
  | fuel + 1, depth, s =>
    match s with
    | '"' :: cs =>
      match stringBody d cs with
      | .ok (text, rest) => .ok (.string (String.ofList text), rest)
      | .error e => .error e
    | '[' :: cs =>
      if d.countsEmpty && !d.allows depth then .error (.tooDeep false)
      else match skip cs with
      | ']' :: rest => .ok (.array [], rest)
      | rest =>
        if d.allows depth then d.inside (depth + 1) (items d fuel (depth + 1) [] rest)
        else .error (.tooDeep false)
    | '\x7b' :: cs =>
      if d.countsEmpty && !d.allows depth then .error (.tooDeep true)
      else match skip cs with
      | '\x7d' :: rest => .ok (.object [], rest)
      | rest =>
        if d.allows depth then d.inside (depth + 1) (members d fuel (depth + 1) [] rest)
        else .error (.tooDeep true)
    | s => scalar d s

/-- The items of an array behind those already read, up to the closing bracket. -/
def items (d : Dialect) : Nat → Nat → List Json → List Char → Step Json
  | 0, _, _, _ => .error .malformed
  | fuel + 1, depth, done, s =>
    match value d fuel depth s with
    | .error e => .error e
    | .ok (v, rest) =>
      match skip rest with
      | ',' :: rest => items d fuel depth (v :: done) (skip rest)
      | ']' :: rest => .ok (.array (v :: done).reverse, rest)
      | _ => .error .malformed

/-- The members of an object behind those already read, up to the closing brace. -/
def members (d : Dialect) : Nat → Nat → Members → List Char → Step Json
  | 0, _, _, _ => .error .malformed
  | fuel + 1, depth, done, s =>
    match s with
    | '"' :: cs =>
      match stringBody d cs with
      | .error e => .error e
      | .ok (key, rest) =>
        match skip rest with
        | ':' :: rest =>
          match value d fuel depth (skip rest) with
          | .error e => .error e
          | .ok (v, rest) =>
            let done := Table.put (String.ofList key) v done
            match skip rest with
            | ',' :: rest => members d fuel depth done (skip rest)
            | '\x7d' :: rest => .ok (.object done, rest)
            | _ => .error .malformed
        | _ => .error .malformed
    | _ => .error .malformed

end

/-- **The document that a whole text writes.** -/
def readChars (d : Dialect) (s : List Char) : Except ReadError Json :=
  match value d (2 * s.length + 2) 0 (skip s) with
  | .error e => .error e
  | .ok (v, rest) => if skip rest = [] then .ok v else .error .malformed

/-- **The document that a whole string writes.** -/
def read (d : Dialect) (s : String) : Except ReadError Json := readChars d s.toList

end SourceCheck.Json

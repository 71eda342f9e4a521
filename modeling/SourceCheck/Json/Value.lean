import SourceCheck.Number.Integer
import SourceCheck.Number.Shortest
import SourceCheck.Table

/-!
# JSON documents

A number with a fraction or an exponent is a binary floating-point number, any other a whole
number of any size; the two are different values.  An object keeps its members in order; writing a
key again replaces the value at the place of the first.

* `Json.member?`: the value of a key.
* `Json.inspect`: how a value is shown inside a message.
* `Depth`: how deep documents are followed.
-/

namespace SourceCheck

open Number (Binary64)

/-- **A JSON document.** -/
inductive Json
  | null
  | bool (b : Bool)
  | int (n : Int)
  | number (x : Binary64)
  | string (s : String)
  | array (items : List Json)
  | object (members : List (String × Json))
  deriving Repr, Inhabited

/-- **How deep nested documents are followed**, which depends on how much room the program has left
to call itself; always as deep as the documents that it writes. -/
structure Depth where
  levels : Nat
  /-- How many levels must be left where a text turns out to be malformed, or where a value is put
  into words. -/
  reserve : Nat
  enough : 8 + reserve ≤ levels
  deriving Repr, DecidableEq

/-- As deep as a program follows documents that has not called itself yet. -/
def Depth.usual : Depth := ⟨985, 0, by decide⟩

namespace Json

/-! ## 1. Objects -/

/-- Members of an object, in order. -/
abbrev Members := Table Json

/-- **The value of a key**, if the document is an object that has it. -/
def member? (key : String) : Json → Option Json
  | object ms => Table.get? ms key
  | _ => none

/-! ## 2. Kinds and spellings in messages -/

/-- The name of a value's kind in messages. -/
def kindName : Json → String
  | null => "NoneType"
  | bool _ => "bool"
  | int _ => "int"
  | number _ => "float"
  | string _ => "str"
  | array _ => "list"
  | object _ => "dict"

/-- Texts with a separator between them. -/
def join (separator : String) : List String → String
  | [] => ""
  | [s] => s
  | s :: rest => s ++ separator ++ join separator rest

mutual

/-- **How a value is shown inside a message.** -/
def inspect : Json → String
  | null => "None"
  | bool true => "True"
  | bool false => "False"
  | int n => toString n
  | number x => x.text
  | string s => Text.quoted s
  | array items => "[" ++ join ", " (inspectItems items) ++ "]"
  | object members => "\x7b" ++ join ", " (inspectMembers members) ++ "\x7d"

/-- The items of an array inside a message. -/
def inspectItems : List Json → List String
  | [] => []
  | v :: vs => inspect v :: inspectItems vs

/-- The members of an object inside a message. -/
def inspectMembers : List (String × Json) → List String
  | [] => []
  | (k, v) :: ms => (Text.quoted k ++ ": " ++ inspect v) :: inspectMembers ms

end

/-- A value as a plain text: a string is itself, anything else is shown as in a message. -/
def display : Json → String
  | string s => s
  | v => inspect v

mutual

/-- How deep the arrays and objects of a value are nested. -/
def levels : Json → Nat
  | array items => itemLevels items + 1
  | object members => memberLevels members + 1
  | _ => 0

/-- How deep those of some items are nested. -/
def itemLevels : List Json → Nat
  | [] => 0
  | v :: vs => max (levels v) (itemLevels vs)

/-- How deep those of some members are nested. -/
def memberLevels : List (String × Json) → Nat
  | [] => 0
  | (_, v) :: ms => max (levels v) (memberLevels ms)

end

/-! ## 3. Numbers in documents -/

/-- **The whole number that a value stands for.**  A truth value counts as one or zero, a text is
read, a floating-point number loses its fraction. -/
def toInteger : Json → Except Fault Int
  | bool b => .ok (if b then 1 else 0)
  | int n => .ok n
  | string s => Number.readInteger s.toList
  | number x =>
    match x.truncate? with
    | some n => .ok n
    | none => .error (.noWholePart (x != .nan))
  | v => .error (.notANumber v.kindName)

end Json

end SourceCheck

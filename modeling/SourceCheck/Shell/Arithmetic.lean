/-!
# Arithmetic in scripts

Expressions on whole numbers with the usual operators.  A name stands for the number that its
variable holds, and an assignment changes what it holds for the rest of the expression and beyond.

* `Arithmetic.evaluate`: the value of an expression.
-/

namespace SourceCheck.Shell.Arithmetic

/-- **A token of an expression.** -/
inductive Token
  | number (n : Int)
  | name (s : String)
  | operator (s : String)
  deriving DecidableEq, Repr

/-- **What can be wrong with an expression.** -/
inductive Problem
  | divisionByZero
  | expectingOperand
  | expectingEnd
  | expectingColon
  | expectingParenthesis
  /-- The value of a variable is no number. -/
  | illegalNumber (value : List Char)
  /-- A variable cannot be set. -/
  | refused (words : List Char)
  deriving DecidableEq, Repr

/-- The words for a problem with an expression. -/
def Problem.words (expression : List Char) : Problem → List Char
  | .divisionByZero => within "division by zero"
  | .expectingOperand => within "expecting primary"
  | .expectingEnd => within "expecting EOF"
  | .expectingColon => within "expecting ':'"
  | .expectingParenthesis => within "expecting ')'"
  | .illegalNumber v => "Illegal number: ".toList ++ v
  | .refused words => words
where
  /-- What was expected, and the expression. -/
  within (what : String) : List Char :=
    ("arithmetic expression: " ++ what ++ ": \"").toList ++ expression ++ ['"']

/-- The operators, longer ones first. -/
def operators : List String := [
  "<<=", ">>=", "<<", ">>", "<=", ">=", "==", "!=", "&&", "||", "+=", "-=", "*=", "/=", "%=", "&=",
  "|=", "^=", "+", "-", "*", "/", "%", "<", ">", "!", "~", "&",
  "|", "^", "?", ":", "(", ")", "="]

/-- The value of a digit in some base. -/
def digitValue? (base : Nat) (c : Char) : Option Nat :=
  let v := if c.isDigit then c.toNat - 48
    else if 'a' ≤ c && c ≤ 'z' then c.toNat - 87
    else if 'A' ≤ c && c ≤ 'Z' then c.toNat - 55
    else base
  if v < base then some v else none

/-- The number that digits in some base write. -/
def numberIn? (base : Nat) (s : List Char) : Option Nat :=
  if s.isEmpty then none
  else s.foldl (fun n c => do return (← n) * base + (← digitValue? base c)) (some 0)

/-- The number that a text writes; a leading zero makes it octal, `0x` hexadecimal. -/
def literal? : List Char → Option Nat
  | '0' :: 'x' :: s => numberIn? 16 s
  | '0' :: 'X' :: s => numberIn? 16 s
  | ['0'] => some 0
  | '0' :: s => numberIn? 8 s
  | s => numberIn? 10 s

/-- The number that a text with an optional sign writes; nothing at all counts as zero. -/
def value? (s : List Char) : Option Int :=
  match s with
  | [] => some 0
  | '-' :: s => (literal? s).map fun n => -(n : Int)
  | '+' :: s => (literal? s).map fun n => (n : Int)
  | s => (literal? s).map fun n => (n : Int)

/-- The text behind a word at the start of a text. -/
def behind? : List Char → List Char → Option (List Char)
  | [], s => some s
  | c :: cs, d :: s => if c == d then behind? cs s else none
  | _ :: _, [] => none

/-- A token that no expression has. -/
def stray : Token := .operator ""

/-- The tokens of a text, with a bound on their number; what is no token ends the expression
early. -/
def tokensUpTo : Nat → List Char → List Token
  | 0, _ => []
  | n + 1, s =>
    match s with
    | [] => []
    | c :: r =>
      if c == ' ' || c == '\t' || c == '\n' then tokensUpTo n r
      else if c.isDigit then
        let digits := s.takeWhile Char.isAlphanum
        let rest := tokensUpTo n (s.dropWhile Char.isAlphanum)
        match literal? digits with
        | some v => .number (min v 9223372036854775807) :: rest
        | none => .number 0 :: stray :: rest
      else if c.isAlpha || c == '_' then
        let isPart := fun (d : Char) => d.isAlphanum || d == '_'
        .name (String.ofList (s.takeWhile isPart)) :: tokensUpTo n (s.dropWhile isPart)
      else
        match operators.findSome? fun op => (behind? op.toList s).map fun rest => (op, rest) with
        | some (op, rest) => .operator op :: tokensUpTo n rest
        | none => [stray]

/-- The binary operators from the loosest to the tightest. -/
def levels : List (List String) := [
  ["||"], ["&&"], ["|"], ["^"], ["&"], ["==", "!="], ["<", "<=", ">", ">="], ["<<", ">>"],
  ["+", "-"], ["*", "/", "%"]]

/-- A truth value as a number. -/
def truth (b : Bool) : Int := if b then 1 else 0

/-- A number in the range of 64 bits, where numbers wrap around. -/
def wrapped (n : Int) : Int := Int.bmod n (Nat.pow 2 64)

/-- What an operator on bits gives. -/
def onBits (f : Int64 → Int64 → Int64) (a b : Int) : Int :=
  (f (Int64.ofInt a) (Int64.ofInt b)).toInt

/-- What a binary operator gives; `none` is a division by zero. -/
def apply (op : String) (a b : Int) : Option Int :=
  match op with
  | "||" => some (truth (a != 0 || b != 0))
  | "&&" => some (truth (a != 0 && b != 0))
  | "|" => some (onBits (· ||| ·) a b)
  | "^" => some (onBits (· ^^^ ·) a b)
  | "&" => some (onBits (· &&& ·) a b)
  | "==" => some (truth (a == b))
  | "!=" => some (truth (a != b))
  | "<" => some (truth (decide (a < b)))
  | "<=" => some (truth (decide (a ≤ b)))
  | ">" => some (truth (decide (b < a)))
  | ">=" => some (truth (decide (b ≤ a)))
  | "<<" => some (onBits (· <<< ·) a b)
  | ">>" => some (onBits (· >>> ·) a b)
  | "+" => some (wrapped (a + b))
  | "-" => some (wrapped (a - b))
  | "*" => some (wrapped (a * b))
  | "/" => if b == 0 then none else some (wrapped (Int.tdiv a b))
  | "%" => if b == 0 then none else some (Int.tmod a b)
  | _ => some 0

/-- What an operator gives; where the value does not matter, nothing is wrong. -/
def applied (live : Bool) (op : String) (a b : Int) : Except Problem Int :=
  match apply op a b with
  | some v => .ok v
  | none => if live then .error .divisionByZero else .ok 0

/-- Whether the second operand still matters behind the first one. -/
def matters (op : String) (first : Int) : Bool :=
  match op with
  | "&&" => first != 0
  | "||" => first == 0
  | _ => true

/-- **Where names have their numbers.** -/
structure Store (σ : Type) where
  look : σ → String → Except Problem Int
  assign : σ → String → Int → Except Problem σ

/-- What a part of an expression comes to: its value, the tokens behind it, and the names as they
are then. -/
abbrev Reached (σ : Type) := Int × List Token × σ

/-- The same with another value. -/
def withValue {σ : Type} (f : Int → Int) (r : Reached σ) : Reached σ := (f r.1, r.2)

/-- The operator inside an assignment operator, the empty one for a plain assignment. -/
def assignment? (op : String) : Option String :=
  match op.toList.reverse with
  | '=' :: rest =>
    if ["", "<<", ">>", "+", "-", "*", "/", "%", "&", "|", "^"].contains
        (String.ofList rest.reverse) then some (String.ofList rest.reverse)
    else none
  | _ => none

mutual

/-- An assignment, or what binds tighter.  Only what is `live` is looked at closely and done. -/
def whole {σ : Type} (store : Store σ) :
    Nat → Bool → List Token → σ → Except Problem (Reached σ)
  | 0, _, _, _ => .error .expectingOperand
  | n + 1, live, ts, names =>
    match ts with
    | .name x :: .operator op :: rest =>
      match assignment? op with
      | none => ternary store n live ts names
      | some inner => do
        let (v, rest, names) ← whole store n live rest names
        if !live then return (v, rest, names)
        let v ← if inner == "" then .ok v else applied true inner (← store.look names x) v
        return (v, rest, ← store.assign names x v)
    | ts => ternary store n live ts names

/-- A condition with its two outcomes, or what binds tighter. -/
def ternary {σ : Type} (store : Store σ) :
    Nat → Bool → List Token → σ → Except Problem (Reached σ)
  | 0, _, _, _ => .error .expectingOperand
  | n + 1, live, ts, names => do
    let (condition, rest, names) ← binary store n live levels ts names
    match rest with
    | .operator "?" :: rest => do
      let (yes, rest, names) ← whole store n (live && condition != 0) rest names
      match rest with
      | .operator ":" :: rest => do
        let (no, rest, names) ← ternary store n (live && condition == 0) rest names
        return (if condition != 0 then yes else no, rest, names)
      | _ => .error .expectingColon
    | rest => return (condition, rest, names)

/-- Operands joined by the operators of the given levels. -/
def binary {σ : Type} (store : Store σ) :
    Nat → Bool → List (List String) → List Token → σ → Except Problem (Reached σ)
  | 0, _, _, _, _ => .error .expectingOperand
  | n + 1, live, [], ts, names => operand store n live ts names
  | n + 1, live, ops :: tighter, ts, names => do
    let (first, rest, names) ← binary store n live tighter ts names
    more store n live ops tighter first rest names

/-- The operands behind the first one. -/
def more {σ : Type} (store : Store σ) :
    Nat → Bool → List String → List (List String) → Int → List Token → σ →
      Except Problem (Reached σ)
  | 0, _, _, _, _, _, _ => .error .expectingOperand
  | n + 1, live, ops, tighter, first, ts, names =>
    match ts with
    | .operator op :: rest =>
      if ops.contains op then do
        let (second, rest, names) ← binary store n (live && matters op first) tighter rest names
        more store n live ops tighter (← applied live op first second) rest names
      else return (first, ts, names)
    | ts => return (first, ts, names)

/-- An operand. -/
def operand {σ : Type} (store : Store σ) :
    Nat → Bool → List Token → σ → Except Problem (Reached σ)
  | 0, _, _, _ => .error .expectingOperand
  | n + 1, live, ts, names =>
    match ts with
    | .number v :: rest => .ok (v, rest, names)
    | .name s :: rest =>
      if live then (store.look names s).map fun v => (v, rest, names) else .ok (0, rest, names)
    | .operator "-" :: rest =>
      (operand store n live rest names).map (withValue fun v => wrapped (-v))
    | .operator "+" :: rest => operand store n live rest names
    | .operator "!" :: rest =>
      (operand store n live rest names).map (withValue fun v => truth (v == 0))
    | .operator "~" :: rest =>
      (operand store n live rest names).map (withValue fun v => -v - 1)
    | .operator "(" :: rest => do
      match ← whole store n live rest names with
      | (v, .operator ")" :: rest, names) => return (v, rest, names)
      | _ => .error .expectingParenthesis
    | _ => .error .expectingOperand

end

/-- **The value of an expression**, and the names as they are behind it. -/
def evaluate {σ : Type} (store : Store σ) (names : σ) (s : List Char) :
    Except Problem (Int × σ) :=
  let ts := tokensUpTo (s.length + 1) s
  do
    match ← whole store (16 * (ts.length + 4)) true ts names with
    | (v, [], names) => return (v, names)
    | _ => .error .expectingEnd

end SourceCheck.Shell.Arithmetic

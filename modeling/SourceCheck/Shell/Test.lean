import SourceCheck.Shell.Arithmetic
import SourceCheck.Shell.State

/-!
# Conditions

The conditions that `test` and `[` know: questions about texts, numbers and files, and their
combinations.

* `test`: the truth of a condition, or what is wrong with it.
-/

namespace SourceCheck.Shell

/-- A machine's answer that counts as no if there is none. -/
def certain (r : Except Fault Bool) : Bool :=
  match r with
  | .ok b => b
  | .error _ => false

/-- A question about one text. -/
def unaryTest? (m : Machine) (op : String) (s : List Char) : Option Bool :=
  let path := Path.ofString (textOf s)
  let named := !s.isEmpty
  match op with
  | "-n" => some (!s.isEmpty)
  | "-z" => some s.isEmpty
  | "-e" => some (named && certain (m.exists? path))
  | "-f" => some (named && certain (m.isFile? path))
  | "-d" => some (named && certain (m.isDirectory? path))
  | "-x" => some (named && (m.isExecutable path || certain (m.isDirectory? path)))
  | "-r" => some (named && certain (m.holds? path fun
      | .file mode _ => mode.testBit 8
      | _ => true))
  | "-w" => some (named && certain (m.holds? path fun
      | .file mode _ => mode.testBit 7
      | _ => true))
  | "-s" => some (named && certain (m.holds? path fun
      | .file _ bytes => !bytes.isEmpty
      | _ => true))
  | "-L" | "-h" => some (named && match m.find path false with
      | .ok ⟨_, some (.link _)⟩ => true
      | _ => false)
  | "-O" | "-G" => some (named && certain (m.exists? path))
  | "-c" => some (named && certain (m.holds? path fun e => e = .nullDevice))
  | "-t" | "-b" | "-p" | "-S" | "-u" | "-g" | "-k" => some false
  | _ => none

/-- Whether two paths lead to the same place. -/
def samePlace (m : Machine) (a b : List Char) : Bool :=
  match m.find (Path.ofString (textOf a)) true, m.find (Path.ofString (textOf b)) true with
  | .ok ⟨l, some _⟩, .ok ⟨l', some _⟩ => l == l' && !a.isEmpty && !b.isEmpty
  | _, _ => false

/-- A number in a condition: decimal digits with a sign, perhaps between blanks. -/
def testNumber (s : List Char) : Except (List Char) Int :=
  let isGap := fun (c : Char) => c == ' ' || c == '\t' || c == '\n'
  let bare := ((s.dropWhile isGap).reverse.dropWhile isGap).reverse
  let value := match bare with
    | '-' :: ds => (Arithmetic.numberIn? 10 ds).map fun n => -(n : Int)
    | '+' :: ds => (Arithmetic.numberIn? 10 ds).map Int.ofNat
    | ds => (Arithmetic.numberIn? 10 ds).map Int.ofNat
  match value with
  | some n => .ok n
  | none => .error ("Illegal number: ".toList ++ s)

/-- A comparison of two numbers. -/
def compareNumbers (a b : List Char) (p : Int → Int → Bool) :
    Option (Except (List Char) Bool) :=
  some (do return p (← testNumber a) (← testNumber b))

/-- A question about two texts.  No file is newer than another: all are as old as the run. -/
def binaryTest? (m : Machine) (a : List Char) (op : String) (b : List Char) :
    Option (Except (List Char) Bool) :=
  match op with
  | "=" => some (.ok (a == b))
  | "!=" => some (.ok (a != b))
  | "<" => some (.ok (decide (String.ofList a < String.ofList b)))
  | ">" => some (.ok (decide (String.ofList b < String.ofList a)))
  | "-ef" => some (.ok (samePlace m a b))
  | "-nt" | "-ot" => some (.ok false)
  | "-eq" => compareNumbers a b fun x y => x == y
  | "-ne" => compareNumbers a b fun x y => x != y
  | "-lt" => compareNumbers a b fun x y => decide (x < y)
  | "-le" => compareNumbers a b fun x y => decide (x ≤ y)
  | "-gt" => compareNumbers a b fun x y => decide (y < x)
  | "-ge" => compareNumbers a b fun x y => decide (y ≤ x)
  | _ => none

/-- The words before and behind the first one of a kind. -/
def splitAtWord (word : List Char) :
    List (List Char) → Option (List (List Char) × List (List Char))
  | [] => none
  | w :: ws =>
    if w == word then some ([], ws)
    else (splitAtWord word ws).map fun r => (w :: r.1, r.2)

/-- The truth of a condition with a bound on its depth. -/
def testUpTo (m : Machine) : Nat → List (List Char) → Except (List Char) Bool
  | 0, _ => .error []
  | _ + 1, [] => .ok false
  | _ + 1, [s] => .ok (!s.isEmpty)
  | n + 1, words =>
    let whole : Option (Except (List Char) Bool) := match words with
      | [a, op, b] => binaryTest? m a (textOf op) b
      | [['-', 't'], a] => some ((testNumber a).map fun _ => false)
      | [op, a] => (unaryTest? m (textOf op) a).map .ok
      | _ => none
    match whole with
    | some r => r
    | none =>
      match splitAtWord ['-', 'o'] words with
      | some (a, b) => do
        let x ← testUpTo m n a
        let y ← testUpTo m n b
        return x || y
      | none =>
        match splitAtWord ['-', 'a'] words with
        | some (a, b) => do
          let x ← testUpTo m n a
          let y ← testUpTo m n b
          return x && y
        | none =>
          match words with
          | ['!'] :: rest => (testUpTo m n rest).map (!·)
          | ['('] :: rest => testUpTo m n rest.dropLast
          | [w, op] =>
            if (binaryTest? m w (textOf op) w).isSome then
              .error (op ++ ": argument expected".toList)
            else .error (w ++ ": unexpected operator".toList)
          | w :: _ => .error (w ++ ": unexpected operator".toList)
          | [] => .ok false

/-- **The truth of a condition.** -/
def test (m : Machine) (words : List (List Char)) : Except (List Char) Bool :=
  testUpTo m (words.length + 1) words

end SourceCheck.Shell

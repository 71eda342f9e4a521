import SourceCheck.Number.Leading
import SourceCheck.Number.NumeralForm
import SourceCheck.Shell.Arithmetic
import SourceCheck.Shell.Escape

/-!
# Formats

A format is text with directives, each of which takes an argument and says how it is shown.  The
format is used again and again until all arguments are printed.

* `PrintPlace`: how a value fills its place.
* `printf`: what comes of a format and its arguments, and what is wrong with them.
-/

namespace SourceCheck.Shell

/-! ## 1. Places -/

/-- **How a value fills its place.** -/
structure PrintPlace where
  flags : List Char
  width : Nat
  precision : Option Nat
  deriving Repr

/-- Whether a flag is set. -/
def PrintPlace.has (p : PrintPlace) (flag : Char) : Bool := p.flags.contains flag

/-- A text in its place. -/
def PrintPlace.fill (p : PrintPlace) (s : List Char) : List Char :=
  let gap := List.replicate (p.width - s.length) ' '
  if p.has '-' then s ++ gap else gap ++ s

/-- A mark and digits in their place; zeros may stand between them. -/
def PrintPlace.fillMarked (p : PrintPlace) (zeros : Bool) (mark digits : List Char) : List Char :=
  if zeros && p.has '0' && !p.has '-' then
    mark ++ List.replicate (p.width - digits.length - mark.length) '0' ++ digits
  else p.fill (mark ++ digits)

/-- The mark in front of a number that may be negative. -/
def PrintPlace.sign (p : PrintPlace) (negative : Bool) : List Char :=
  if negative then ['-'] else if p.has '+' then ['+'] else if p.has ' ' then [' '] else []

/-- The digits of a whole number, as many as the precision asks for. -/
def PrintPlace.digits (p : PrintPlace) (base n : Nat) : List Char :=
  let ds := if n == 0 && p.precision == some 0 then [] else Nat.toDigits base n
  List.replicate (p.precision.getD 0 - ds.length) '0' ++ ds

/-- A whole number in its place. -/
def PrintPlace.fillSigned (p : PrintPlace) (n : Int) : List Char :=
  p.fillMarked p.precision.isNone (p.sign (n < 0)) (p.digits 10 n.natAbs)

/-- A whole number without a sign in some base. -/
def PrintPlace.fillUnsigned (p : PrintPlace) (base : Nat) (mark : List Char) (n : Nat) :
    List Char :=
  let ds := p.digits base n
  let ds := if p.has '#' && base == 8 && ds.head? != some '0' then '0' :: ds else ds
  p.fillMarked p.precision.isNone (if p.has '#' && n != 0 then mark else []) ds

/-- A number with a fraction in its place. -/
def PrintPlace.fillNumber (p : PrintPlace) (style : Number.Style) (x : Number.Binary64) :
    List Char :=
  let form : Number.NumeralForm := ⟨style, p.precision, p.has '#'⟩
  let finite := match x with
    | .finite _ _ _ => true
    | _ => false
  let body := form.magnitude x
  let (mark, body) := match style, finite with
    | .hexadecimal, true => (body.take 2, body.drop 2)
    | _, _ => ([], body)
  p.fillMarked finite (p.sign x.isNegative ++ mark) body

/-! ## 2. Arguments -/

/-- What is wrong with a number among the arguments. -/
inductive NumberTrouble
  | missing
  | incomplete
  | outOfRange
  deriving DecidableEq, Repr

/-- The words for what is wrong with a number. -/
def NumberTrouble.words : NumberTrouble → String
  | .missing => "expected numeric value"
  | .incomplete => "not completely converted"
  | .outOfRange => "Numerical result out of range"

/-- The code of a character behind a quote. -/
def quotedCode? : List Char → Option Nat
  | '"' :: s | '\'' :: s => some ((s.head?.map Char.toNat).getD 0)
  | _ => none

/-- The digits at the start of a text with their base, and the rest; a leading zero makes them
octal, `0x` hexadecimal. -/
def leadingDigits (s : List Char) : Nat × List Char × List Char :=
  let isHex := fun c => (Arithmetic.digitValue? 16 c).isSome
  match s with
  | '0' :: x :: r =>
    if (x == 'x' || x == 'X') && (r.head?.any isHex) then (16, r.takeWhile isHex, r.dropWhile isHex)
    else
      let isOctal := fun c => (Arithmetic.digitValue? 8 c).isSome
      (8, s.takeWhile isOctal, s.dropWhile isOctal)
  | s => (10, s.takeWhile Char.isDigit, s.dropWhile Char.isDigit)

/-- What is wrong with an argument of which some text is left. -/
def troubleOf (argument rest : List Char) (outOfRange : Bool) : Option NumberTrouble :=
  if !rest.isEmpty then some (if rest.length == argument.length then .missing else .incomplete)
  else if outOfRange then some .outOfRange
  else none

/-- **The whole number at the start of an argument** within some range, and what is wrong with the
argument. -/
def wholeArgument (least greatest : Int) (s : List Char) : Int × Option NumberTrouble :=
  match quotedCode? s with
  | some n => (n, none)
  | none =>
    let (negative, body) := Number.sign (s.dropWhile Number.isPadding)
    let (base, digits, rest) := leadingDigits body
    match Arithmetic.numberIn? base digits with
    | none => (0, troubleOf s s false)
    | some n =>
      let n : Int := if negative then -n else n
      let beyond := n < least || greatest < n
      (if n < least then least else if greatest < n then greatest else n, troubleOf s rest beyond)

/-- A whole number of 64 bits among the arguments. -/
def signedArgument : List Char → Int × Option NumberTrouble :=
  wholeArgument (-9223372036854775808) 9223372036854775807

/-- A whole number of 64 bits without a sign among the arguments; a negative one counts down from
the end of the range. -/
def unsignedArgument (s : List Char) : Nat × Option NumberTrouble :=
  let last : Int := Int.pow 2 64 - 1
  match wholeArgument (-Int.pow 2 64) last s with
  | (n, some .outOfRange) => (if n < 0 then last.toNat else n.toNat, some .outOfRange)
  | (n, trouble) => ((n % Int.pow 2 64).toNat, trouble)

/-- **The number at the start of an argument**, and what is wrong with the argument. -/
def numberArgument (s : List Char) : Number.Binary64 × Option NumberTrouble :=
  match quotedCode? s with
  | some n => (Number.Binary64.ofInt n, none)
  | none =>
    match Number.leadingNumber s with
    | some r => (r.number, troubleOf s r.rest r.outOfRange)
    | none => (Number.Binary64.zero false, troubleOf s s false)

/-- What is said about an argument. -/
def complaintsAbout (argument : List Char) (trouble : Option NumberTrouble) : List (List Char) :=
  (trouble.map fun t => argument ++ ": ".toList ++ t.words.toList).toList

/-! ## 3. Directives -/

/-- **A measure in a directive**: a number, unless there is none. -/
structure Measure where
  value : Option Int
  /-- The arguments left over. -/
  left : List (List Char)
  /-- The rest of the format. -/
  rest : List Char
  complaints : List (List Char)

/-- A width or a precision; a star takes the number from the arguments. -/
def measure (s : List Char) (args : List (List Char)) : Measure :=
  match s with
  | '*' :: s =>
    let argument := args.headD []
    let (n, trouble) := signedArgument argument
    ⟨some n, args.tail, s, complaintsAbout argument trouble⟩
  | s =>
    let n := (Arithmetic.numberIn? 10 (s.takeWhile Char.isDigit)).map Int.ofNat
    ⟨n, args, s.dropWhile Char.isDigit, []⟩

/-- The place that a directive describes, and where it goes on. -/
def place (s : List Char) (args : List (List Char)) : PrintPlace × Measure :=
  let isFlag := fun c => "-0+ #".toList.contains c
  let flags := s.takeWhile isFlag
  let width := measure (s.dropWhile isFlag) args
  let flags := if width.value.any (· < 0) then '-' :: flags else flags
  let size := (width.value.getD 0).natAbs
  match width.rest with
  | '.' :: r =>
    let precision := measure r width.left
    let n := precision.value.getD 0
    (⟨flags, size, if n < 0 then none else some n.toNat⟩,
      { precision with complaints := width.complaints ++ precision.complaints })
  | _ => (⟨flags, size, none⟩, width)

/-- **What a printing step leaves.** -/
structure Printed where
  text : List Char
  /-- The arguments left over. -/
  left : List (List Char)
  /-- Whether an argument was asked for. -/
  asked : Bool
  /-- What is wrong with arguments and format. -/
  complaints : List (List Char)
  /-- Whether printing goes on. -/
  goesOn : Bool
  /-- Whether the format itself is wrong. -/
  badFormat : Bool

/-- Nothing more to print. -/
def Printed.done (left : List (List Char)) : Printed := ⟨[], left, false, [], true, false⟩

/-- A format that cannot be used. -/
def Printed.bad (complaint : List Char) : Printed := ⟨[], [], true, [complaint], false, true⟩

/-- Some text in front. -/
def Printed.behind (r : Printed) (text : List Char) : Printed := { r with text := text ++ r.text }

/-- **One value by its conversion letter**, with what is wrong with the argument and whether
printing goes on; `none` if there is no such conversion. -/
def convert? (letter : Char) (p : PrintPlace) (argument : List Char) :
    Option (List Char × Option NumberTrouble × Bool) :=
  let signed := fun (write : Int → List Char) =>
    let (n, trouble) := signedArgument argument
    some (write n, trouble, true)
  let unsigned := fun (write : Nat → List Char) =>
    let (n, trouble) := unsignedArgument argument
    some (write n, trouble, true)
  let number := fun (style : Number.Style) (upper : Bool) =>
    let (x, trouble) := numberArgument argument
    let shown := p.fillNumber style x
    some (if upper then shown.map Char.toUpper else shown, trouble, true)
  match letter with
  | 's' => some (p.fill (match p.precision with
      | some k => argument.take k
      | none => argument), none, true)
  | 'b' =>
    let (t, on) := unescape argument
    some (p.fill (match p.precision with
      | some k => t.take k
      | none => t), none, on)
  | 'c' => some (p.fill [argument.headD '\x00'], none, true)
  | 'd' | 'i' => signed p.fillSigned
  | 'u' => unsigned (p.fillUnsigned 10 [])
  | 'o' => unsigned (p.fillUnsigned 8 [])
  | 'x' => unsigned (p.fillUnsigned 16 ['0', 'x'])
  | 'X' => unsigned fun n => (p.fillUnsigned 16 ['0', 'X'] n).map Char.toUpper
  | 'f' => number .fixed false
  | 'F' => number .fixed true
  | 'e' => number .scientific false
  | 'E' => number .scientific true
  | 'g' => number .general false
  | 'G' => number .general true
  | 'a' => number .hexadecimal false
  | 'A' => number .hexadecimal true
  | _ => none

/-- The character of a one-letter escape in a format. -/
def formatEscape? (c : Char) : Option Char :=
  if c == 'e' then some '\x1b' else if c == '"' then some '"' else letterEscape? c

/-! ## 4. Whole formats -/

/-- Goes through a format once. -/
def formatOnce : Nat → List Char → List (List Char) → Printed
  | 0, _, args => .done args
  | _ + 1, [], args => .done args
  | n + 1, '%' :: '%' :: s, args => (formatOnce n s args).behind ['%']
  | n + 1, '%' :: s, args =>
    let (p, m) := place s args
    let args := m.left
    match m.rest with
    | [] => .bad "missing format character".toList
    | letter :: rest =>
      match convert? letter p (args.headD []) with
      | none =>
        .bad ('%' :: s.take (s.length - rest.length) ++ ": invalid directive".toList)
      | some (shown, trouble, on) =>
        let complaints := m.complaints ++ complaintsAbout (args.headD []) trouble
        if on then
          let r := formatOnce n rest args.tail
          { r.behind shown with asked := true, complaints := complaints ++ r.complaints }
        else ⟨shown, [], true, complaints, false, false⟩
  | n + 1, '\\' :: c :: s, args =>
    match formatEscape? c with
    | some d => (formatOnce n s args).behind [d]
    | none =>
      if '0' ≤ c && c ≤ '7' then
        let (v, rest) := octal 3 0 (c :: s)
        (formatOnce n rest args).behind [byteChar v]
      else (formatOnce n s args).behind ['\\', c]
  | n + 1, c :: s, args => (formatOnce n s args).behind [c]

/-- Goes through a format until no argument is left. -/
def formatAll : Nat → List Char → List (List Char) → Printed
  | 0, _, _ => .done []
  | n + 1, format, args =>
    let r := formatOnce (format.length + 1) format args
    if r.left.isEmpty || !r.asked || !r.goesOn then r
    else
      let more := formatAll n format r.left
      { more.behind r.text with complaints := r.complaints ++ more.complaints }

/-- **What `printf` prints**, and what it complains about. -/
def printf (format : List Char) (arguments : List (List Char)) : Printed :=
  formatAll (arguments.length + 1) format arguments

end SourceCheck.Shell

import SourceCheck.Shell.Flags

/-!
# The mask of new files

The mask holds the permission bits that new files do not get.  It is written as an octal number, or
as clauses such as `u=rwx,g+r` about the bits that they do get.

* `permitted?`: the bits that some clauses leave.
* `changeMask`: the command that shows or changes the mask.
-/

namespace SourceCheck.Shell

/-- The places of the bits of the owner, the group and the others. -/
def partyShifts : List (Char × Nat) := [('u', 6), ('g', 3), ('o', 0)]

/-- The bits of a permission for one party; the letter of a party stands for what that party has
already. -/
def permissionBits (bits : Nat) (c : Char) : Option Nat :=
  match c with
  | 'r' => some 4
  | 'w' => some 2
  | 'x' => some 1
  | 'X' => some (if bits &&& 0o111 = 0 then 0 else 1)
  | 's' | 't' => some 0
  | c => (partyShifts.find? fun p => p.1 == c).map fun p => (bits >>> p.2) &&& 7

/-- Bits changed by an operator for some parties. -/
def applyClause (parties : List Nat) (operator : Char) (given bits : Nat) : Nat :=
  parties.foldl (fun bits shift =>
    let part := given <<< shift
    match operator with
    | '+' => bits ||| part
    | '-' => bits - (bits &&& part)
    | _ => (bits - (bits &&& (7 <<< shift))) ||| part) bits

/-- The bits behind the operators of a clause, with a bound on their number. -/
def clauseUpTo (parties : List Nat) : Nat → List Char → Nat → Option Nat
  | 0, _, bits => some bits
  | _ + 1, [], bits => some bits
  | n + 1, operator :: s, bits =>
    if !"+-=".toList.contains operator then none
    else do
      let letters := s.takeWhile fun c => !"+-=".toList.contains c
      let parts ← letters.mapM (permissionBits bits)
      let given := parts.foldl (· ||| ·) 0
      clauseUpTo parties n (s.drop letters.length) (applyClause parties operator given bits)

/-- The bits behind a clause. -/
def clause? (s : List Char) (bits : Nat) : Option Nat :=
  let who := s.takeWhile "ugoa".toList.contains
  let named := partyShifts.filter fun p => who.isEmpty || who.contains 'a' || who.contains p.1
  let rest := s.drop who.length
  if rest.isEmpty then none else clauseUpTo (named.map (·.2)) (rest.length + 1) rest bits

/-- **The bits that some clauses leave.** -/
def permitted? (s : List Char) (bits : Nat) : Option Nat :=
  (Text.fields ',' s).foldlM (fun bits clause => clause? clause bits) bits

/-- Bits as clauses. -/
def showPermitted (bits : Nat) : List Char :=
  let party := fun (p : Char × Nat) =>
    let b := bits >>> p.2
    [p.1, '='] ++ (if b.testBit 2 then ['r'] else []) ++ (if b.testBit 1 then ['w'] else []) ++
      (if b.testBit 0 then ['x'] else [])
  ((partyShifts.map party).intersperse [',']).flatten

/-- A mask as a number. -/
def showMask (mask : Nat) : List Char :=
  let ds := Nat.toDigits 8 mask
  List.replicate (4 - ds.length) '0' ++ ds

/-- Shows or changes the mask. -/
def changeMask (arguments : List (List Char)) (sh : State) : State :=
  match flags "S" arguments with
  | .error problem => sh.failing 2 "umask: " problem
  | .ok (found, []) =>
    sh.print ((if found.isEmpty then showMask sh.frame.mask
      else showPermitted (0o777 - sh.frame.mask)) ++ ['\n'])
  | .ok (_, word :: _) =>
    if word.head?.any Char.isDigit then
      match Arithmetic.numberIn? 8 word with
      | some n => sh.withFrame fun f => { f with mask := n % 0o1000 }
      | none => sh.failing 2 "umask: Illegal number: " word
    else if word.isEmpty then sh
    else match permitted? word (0o777 - sh.frame.mask) with
      | some bits => sh.withFrame fun f => { f with mask := 0o777 - bits }
      | none => sh.failing 2 "umask: Illegal mode: " word

end SourceCheck.Shell

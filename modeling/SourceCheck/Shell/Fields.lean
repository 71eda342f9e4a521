import SourceCheck.Shell.Pattern
import SourceCheck.Shell.State

/-!
# From words to fields

What comes of a word is a list of atoms: characters that remember whether they were quoted and
whether they may separate fields, marks for empty quotes, and boundaries between arguments.  Atoms
are split into fields, and a field with pattern characters becomes the names that fit it.

* `fieldsOf`: the fields of some atoms.
* `names`: the file names that fit a field.
-/

namespace SourceCheck.Shell

/-- **What comes of a word, character by character.** -/
inductive Atom
  /-- A character; `splits` says that it may separate fields. -/
  | char (c : Char) (quoted splits : Bool)
  /-- There is a field here even if it is empty. -/
  | mark
  /-- One argument ends and the next one starts. -/
  | boundary
  deriving DecidableEq, Repr

namespace Atom

/-- Characters that stay together as they are. -/
def quoted (s : List Char) : List Atom := s.map fun c => char c true false

/-- Characters of a word itself. -/
def plain (s : List Char) : List Atom := s.map fun c => char c false false

/-- A value that was put in. -/
def value (inQuotes : Bool) (s : List Char) : List Atom :=
  if inQuotes then mark :: quoted s else s.map fun c => char c false true

/-- All arguments, one field each if they stand between quotes. -/
def arguments (inQuotes : Bool) : List (List Char) → List Atom
  | [] => []
  | [a] => value inQuotes a
  | a :: as => value inQuotes a ++ boundary :: arguments inQuotes as

/-- What comes of a word that stands in place of a value: between quotes it stays together, else
what was not quoted in it may be split. -/
def standIn (inQuotes : Bool) (atoms : List Atom) : List Atom :=
  let atoms := atoms.map fun
    | char c quoted _ => char c (quoted || inQuotes) (!quoted && !inQuotes)
    | a => a
  if inQuotes then mark :: atoms else atoms

end Atom

/-- White space between fields. -/
def isFieldBlank (c : Char) : Bool := c == ' ' || c == '\t' || c == '\n'

/-- **Where the splitting of a word has come to.** -/
inductive Splitting
  /-- No field is started; `spent` says that white space has just ended one, so that a separator of
  another kind belongs to that white space. -/
  | between (spent : Bool)
  /-- A field is started, last character first. -/
  | inside (field : Pattern.Marked)

/-- The field that ends now, if one is started. -/
def Splitting.field : Splitting → List Pattern.Marked
  | .between _ => []
  | .inside field => [field.reverse]

/-- The splitting behind white space. -/
def Splitting.behindGap : Splitting → Splitting
  | .between spent => .between spent
  | .inside _ => .between true

/-- The characters of the field that is started, last first. -/
def Splitting.started : Splitting → Pattern.Marked
  | .between _ => []
  | .inside field => field

/-- The fields of some atoms from some point on. -/
def fieldsFrom (separators : List Char) (s : Splitting) : List Atom → List Pattern.Marked
  | [] => s.field
  | .boundary :: rest => s.field ++ fieldsFrom separators s.behindGap rest
  | .mark :: rest => fieldsFrom separators (.inside s.started) rest
  | .char c quoted splits :: rest =>
    if !(splits && separators.contains c) then
      fieldsFrom separators (.inside ((c, quoted) :: s.started)) rest
    else if isFieldBlank c then s.field ++ fieldsFrom separators s.behindGap rest
    else match s with
      | .between true => fieldsFrom separators (.between false) rest
      | .between false => [] :: fieldsFrom separators (.between false) rest
      | .inside field => field.reverse :: fieldsFrom separators (.between false) rest

/-- **The fields of some atoms.**  White space separates fields wherever it stands; any other
separator ends a field of its own, together with the white space around it. -/
def fieldsOf (separators : List Char) (atoms : List Atom) : List Pattern.Marked :=
  fieldsFrom separators (.between false) atoms

/-- The atoms as one field that is not split. -/
def oneField (atoms : List Atom) : Pattern.Marked :=
  atoms.filterMap fun
    | .char c quoted _ => some (c, quoted)
    | .mark => none
    | .boundary => some (' ', true)

/-- The characters of a field. -/
def plainText (field : Pattern.Marked) : List Char := field.map (·.1)

/-! ## Lists of arguments -/

/-- How a list of arguments loses an end that fits: the shortest one is looked for from the last
argument on, the longest one in the first argument only.  What stands behind it is lost as well. -/
def withoutEnds (p : Pattern) (longest : Bool) (arguments : List (List Char)) : List (List Char) :=
  let cut := fun (before : List (List Char)) (a : List Char) =>
    (Pattern.dropEnd? p longest a).map fun kept => before ++ [kept]
  if longest then ((arguments.head?).bind (cut [])).getD arguments
  else
    let places := (List.range arguments.length).reverse
    (places.findSome? fun i => cut (arguments.take i) (arguments[i]?.getD [])).getD arguments

/-- How a list of arguments loses a start that fits: only the first argument is looked at, but the
longest start is everything if it is the whole of that. -/
def withoutStarts (p : Pattern) (longest : Bool) (arguments : List (List Char)) :
    List (List Char) :=
  match arguments with
  | a :: rest =>
    if longest && p.accepts a then [[]] else Pattern.dropStart p longest a :: rest
  | [] => []

/-! ## File names -/

/-- The names in a directory. -/
def childrenOf (t : FileTree) (l : Location) : List String :=
  t.entries.filterMap fun e => if e.1 ≠ [] && e.1.dropLast == l then e.1.getLast? else none

/-- The components of a field. -/
def components : Pattern.Marked → List Pattern.Marked
  | [] => [[]]
  | x :: xs =>
    if x.1 == '/' then [] :: components xs
    else match components xs with
      | f :: fs => (x :: f) :: fs
      | [] => [[x]]

/-- The names in a directory that fit a component; a name with a dot in front has to be asked
for. -/
def fitting (m : Machine) (directory : List Char) (component : Pattern.Marked) :
    List (List Char) :=
  match m.find (Path.ofString (textOf (if directory.isEmpty then ['.'] else directory))) true with
  | .ok ⟨l, some (.directory _)⟩ =>
    let asksDot := component.head?.map (·.1) == some '.'
    ((childrenOf m.files l).map bytesOf).filter fun n =>
      (n.head? != some '.' || asksDot) && Pattern.accepts (Pattern.ofMarked component) n
  | _ => []

/-- The paths that fit some components behind a start. -/
def pathsFrom (m : Machine) (start : List Char) : List Pattern.Marked → List (List Char)
  | [] => [start]
  | component :: rest =>
    let next := fun (n : List Char) =>
      pathsFrom m (if rest.isEmpty then start ++ n else start ++ n ++ ['/']) rest
    if Pattern.isPattern component then (fitting m start component).flatMap next
    else next (plainText component)

/-- Whether one text comes before another. -/
def textLe (a b : List Char) : Bool := decide (String.ofList a ≤ String.ofList b)

/-- **The file names that fit a field**, or its own text. -/
def names (m : Machine) (field : Pattern.Marked) : List (List Char) :=
  if Pattern.isPattern field then
    let found := (pathsFrom m [] (components field)).filter fun p =>
      match m.exists? (Path.ofString (textOf p)) with
      | .ok b => b
      | .error _ => false
    if found.isEmpty then [plainText field] else found.mergeSort textLe
  else [plainText field]

end SourceCheck.Shell

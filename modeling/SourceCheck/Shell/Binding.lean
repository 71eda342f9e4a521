import SourceCheck.Shell.Fields
import SourceCheck.Shell.Flags
import SourceCheck.Shell.Opening
import SourceCheck.Shell.Token

/-!
# Reading and setting variables

The commands that name variables: a word `name=value` sets one, and some of the commands mark it
besides.  A fixed variable is not set again, and a word without a proper name is refused.

* `readLine`: a line goes into variables.
* `define`: `name=value` words.
* `localAll`, `unsetAll`: variables that a function keeps for itself, and variables that end.
-/

namespace SourceCheck.Shell

/-- The separators of fields. -/
def separators (sh : State) : List Char :=
  (Table.get? sh.frame.bindings "IFS").getD [' ', '\t', '\n']

/-- White space around a number. -/
def isNumberPadding (c : Char) : Bool := c == ' ' || (9 ≤ c.toNat && c.toNat ≤ 13)

/-- The value of a variable as a number. -/
def numberOf (sh : State) (name : String) : Except Arithmetic.Problem Int :=
  let value := (sh.value? name).getD []
  let bare := ((value.dropWhile isNumberPadding).reverse.dropWhile isNumberPadding).reverse
  match Arithmetic.value? bare with
  | some n =>
    if -9223372036854775808 ≤ n && n ≤ 9223372036854775807 then .ok n
    else .error (.illegalNumber value)
  | none => .error (.illegalNumber value)

/-- **The variables of a shell as numbers.** -/
def numbers : Arithmetic.Store State where
  look := numberOf
  assign sh name v := (sh.assign? name (toString v).toList).mapError .refused

/-- Sets a variable that a word names. -/
def setNamed (word value : List Char) (sh : State) : Except (List Char) State :=
  if isName word then sh.assign? (textOf word) value
  else .error (word ++ ": bad variable name".toList)

/-! ## 1. Reading a line -/

/-- **A line that was read.** -/
structure Line where
  /-- Its characters; those behind a backslash count as quoted. -/
  text : Pattern.Marked
  /-- How much was read. -/
  length : Nat
  /-- Whether a line feed ended it. -/
  complete : Bool

/-- A line with more in front of it. -/
def Line.behind (l : Line) (text : Pattern.Marked) (length : Nat) : Line :=
  ⟨text ++ l.text, length + l.length, l.complete⟩

/-- The first line of a text; unless it is `raw`, a backslash quotes what follows it, and lines are
joined where it stands at an end. -/
def firstLine (raw : Bool) : List Char → Line
  | [] => ⟨[], 0, false⟩
  | '\n' :: _ => ⟨[], 1, true⟩
  | '\x00' :: s => (firstLine raw s).behind [] 1
  | '\\' :: s =>
    if raw then (firstLine raw s).behind [('\\', false)] 1
    else match s with
      | '\n' :: s => (firstLine raw s).behind [] 2
      | c :: s => (firstLine raw s).behind [(c, true)] 2
      | [] => ⟨[], 1, false⟩
  | c :: s => (firstLine raw s).behind [(c, false)] 1

/-- Whether a character separates fields, and whether it is white space besides. -/
def isSeparator (separators : List Char) (x : Char × Bool) : Bool :=
  !x.2 && separators.contains x.1

/-- Whether a character is white space that separates fields. -/
def isGap (separators : List Char) (x : Char × Bool) : Bool :=
  isSeparator separators x && isFieldBlank x.1

/-- What is left behind a field and the separator that ends it. -/
def behindField (separators : List Char) (s : Pattern.Marked) : Pattern.Marked :=
  let rest := (s.dropWhile fun x => !isSeparator separators x).dropWhile (isGap separators)
  match rest with
  | x :: more => if isSeparator separators x then more.dropWhile (isGap separators) else rest
  | [] => []

/-- How much of a text is left without the white space at its end; quoted characters do not count
as text there.  The first number is the length so far, the second one where white space began. -/
def lengthWithoutGap (separators : List Char) : Nat → Option Nat → Pattern.Marked → Nat
  | n, gap, [] => gap.getD n
  | n, gap, x :: s =>
    lengthWithoutGap separators (n + 1)
      (if x.2 then gap else if isGap separators x then some (gap.getD n) else none) s

/-- The fields of a line for some names: the last name gets what is left, and a separator at the end
of it counts only if it is not the only one. -/
def readFields (separators : List Char) : List (List Char) → Pattern.Marked →
    List (List Char × List Char)
  | [], _ => []
  | name :: names, s =>
    let s := s.dropWhile (isGap separators)
    let field := s.takeWhile fun x => !isSeparator separators x
    let rest := behindField separators s
    if names.isEmpty && !rest.isEmpty then
      [(name, (s.take (lengthWithoutGap separators 0 none s)).map (·.1))]
    else (name, field.map (·.1)) :: readFields separators names rest

/-- Sets several variables in order, up to the first that cannot be set. -/
def setNamedAll (command : String) : List (List Char × List Char) → State → State
  | [], sh => sh
  | (name, value) :: rest, sh =>
    match setNamed name value sh with
    | .ok sh => setNamedAll command rest sh
    | .error problem => sh.failing 2 (command ++ ": ") problem

/-- **Reads a line** into variables. -/
def readLine (arguments : List (List Char)) (sh : State) : State :=
  match flags "p:r" arguments with
  | .error problem => sh.failing 2 "read: " problem
  | .ok (_, []) => sh.failing 2 "read: arg count" []
  | .ok (found, names) =>
    let line := firstLine (found.any (·.1 == 'r')) ((sh.unread? 0).getD [])
    let sh := if line.complete then sh else sh.awaitEnd 0
    let sh := (sh.advance 0 line.length).withStatus (if line.complete then 0 else 1)
    setNamedAll "read" (readFields (separators sh) names line.text) sh

/-! ## 2. Words that define variables -/

/-- Splits `name=value`. -/
def definition (word : List Char) : List Char × Option (List Char) :=
  match word.dropWhile (· != '=') with
  | _ :: value => (word.takeWhile (· != '='), some value)
  | [] => (word, none)

/-- Goes through `name=value` words; a word that cannot be followed ends the shell. -/
def define (command : String) (mark : String → State → State) :
    List (List Char) → State → Flow × State
  | [], sh => (.next, sh)
  | word :: rest, sh =>
    let (name, value) := definition word
    let defined := match value with
      | some v => setNamed name v sh
      | none => if isName name then .ok sh else .error (name ++ ": bad variable name".toList)
    match defined with
    | .ok sh => define command mark rest (mark (textOf name) sh)
    | .error problem => (.failed, sh.failing 2 (command ++ ": ") problem)

/-- Goes through words that define variables, or lists the marked ones. -/
def defineOrList (command : String) (marked : State → List String) (mark : String → State → State)
    (arguments : List (List Char)) (sh : State) : Flow × State :=
  match flags "p" arguments with
  | .error problem => (.failed, sh.failing 2 (command ++ ": ") problem)
  | .ok ([], word :: words) => define command mark (word :: words) sh
  | .ok _ => (.next, sh.print (listVariables (command ++ " ") (marked sh) sh.frame.bindings))

/-- Makes variables visible to programs. -/
def exportAll : List (List Char) → State → Flow × State :=
  defineOrList "export" (·.frame.exported) fun name sh => sh.expose name

/-- Fixes the value of a variable. -/
def fix (name : String) (sh : State) : State :=
  sh.withFrame fun f => { f with fixed := name :: f.fixed.filter (· != name) }

/-- Fixes the values of variables. -/
def fixAll : List (List Char) → State → Flow × State :=
  defineOrList "readonly" (·.frame.fixed) fix

/-- Keeps what a variable was before a function. -/
def keepLocal (sh : State) (word : List Char) : State :=
  let name := textOf (definition word).1
  sh.withFrame fun f => { f with hidden := f.hidden.map (sh.former name :: ·) }

/-- Makes variables local to the current function. -/
def localAll (arguments : List (List Char)) (sh : State) : Flow × State :=
  if sh.frame.hidden.isNone then (.failed, sh.failing 2 "local: not in a function" [])
  else define "local" (fun _ sh => sh) arguments ((arguments.foldl keepLocal sh).withStatus 0)

/-- Forgets functions or variables. -/
def unsetEach (functions : Bool) : List (List Char) → State → Flow × State
  | [], sh => (.next, sh)
  | word :: rest, sh =>
    let name := textOf word
    if functions then
      unsetEach functions rest (sh.withFrame fun f =>
        { f with functions := f.functions.filter (·.1 != name) })
    else if !isName word then
      (.failed, sh.failing 2 "unset: " (word ++ ": bad variable name".toList))
    else if sh.frame.fixed.contains name then
      (.failed, sh.failing 2 "unset: " (word ++ ": is read only".toList))
    else
      let sh := (sh.put name none).withFrame fun f =>
        { f with exported := f.exported.filter (· != name) }
      unsetEach functions rest sh

/-- **Forgets** variables, or functions where that is asked for. -/
def unsetAll (arguments : List (List Char)) (sh : State) : Flow × State :=
  match flags "vf" arguments with
  | .error problem => (.failed, sh.failing 2 "unset: " problem)
  | .ok (found, words) => unsetEach (found.getLast?.any (·.1 == 'f')) words sh

/-- All variables with their values. -/
def allVariables (sh : State) : List Char :=
  listVariables "" (Table.keys sh.frame.bindings) sh.frame.bindings

end SourceCheck.Shell

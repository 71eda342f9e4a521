import SourceCheck.Shell.Flags

/-!
# Flags of programs

A program takes flags anywhere among its arguments, up to `--`.  A flag is a letter or a long name,
which may be cut short as long as no other name starts alike.

* `ProgramFlags.read`: the flags and the other arguments of a program.
-/

namespace SourceCheck.Shell

/-- **The flags that a program knows.** -/
structure ProgramFlags where
  /-- The letters, written as for `flag?`. -/
  letters : List Char
  /-- The long names, with the letter that each stands for. -/
  names : List (String × Char)

/-- **What is wrong with a flag.** -/
inductive FlagProblem
  | unknownLetter (c : Char)
  | unknownName (text : List Char)
  | ambiguous (text : List Char) (names : List String)
  | unwanted (name : String)
  | missing (name : String)
  | missingLetter (c : Char)
  deriving Repr

/-- The words for what is wrong with a flag. -/
def FlagProblem.words : FlagProblem → List Char
  | .unknownLetter c => "invalid option -- '".toList ++ [c, '\'']
  | .unknownName text => "unrecognized option '--".toList ++ text ++ ['\'']
  | .ambiguous text names =>
    "option '--".toList ++ text ++ "' is ambiguous; possibilities:".toList ++
      names.flatMap fun n => (" '--" ++ n ++ "'").toList
  | .unwanted name => ("option '--" ++ name ++ "' doesn't allow an argument").toList
  | .missing name => ("option '--" ++ name ++ "' requires an argument").toList
  | .missingLetter c => "option requires an argument -- '".toList ++ [c, '\'']

namespace ProgramFlags

/-- A flag with the text that belongs to it. -/
abbrev Flag := Char × List Char

/-- The flag that a long name stands for. -/
def named (p : ProgramFlags) (text : List Char) : Except FlagProblem (String × Char) :=
  match p.names.find? fun n => n.1.toList == text with
  | some n => .ok n
  | none =>
    match p.names.filter fun n => text.isPrefixOf n.1.toList with
    | [n] => .ok n
    | [] => .error (.unknownName text)
    | several => .error (.ambiguous text (several.map (·.1)))

/-- A flag with a long name, and the words left over. -/
def long (p : ProgramFlags) (text : List Char) (rest : List (List Char)) :
    Except FlagProblem (Flag × List (List Char)) := do
  let (name, letter) ← match p.named (text.takeWhile (· != '=')) with
    | .error (.unknownName _) => .error (.unknownName text)
    | r => r
  match flag? letter p.letters, text.dropWhile (· != '='), rest with
  | some true, _ :: value, rest => return ((letter, value), rest)
  | some true, [], value :: rest => return ((letter, value), rest)
  | some true, [], [] => throw (.missing name)
  | _, _ :: _, _ => throw (.unwanted name)
  | _, [], rest => return ((letter, []), rest)

/-- The flags in the letters of a word, and the words left over. -/
def short (p : ProgramFlags) : List Char → List (List Char) →
    Except FlagProblem (List Flag × List (List Char))
  | [], rest => .ok ([], rest)
  | c :: cs, rest =>
    match flag? c p.letters with
    | none => .error (.unknownLetter c)
    | some false => (short p cs rest).map fun r => ((c, []) :: r.1, r.2)
    | some true =>
      match cs, rest with
      | [], [] => .error (.missingLetter c)
      | [], text :: rest => .ok ([(c, text)], rest)
      | cs, rest => .ok ([(c, cs)], rest)

/-- The flags and the other arguments, with a bound on their number. -/
def readUpTo (p : ProgramFlags) : Nat → List (List Char) →
    Except FlagProblem (List Flag × List (List Char))
  | 0, words => .ok ([], words)
  | n + 1, words =>
    match words with
    | [] => .ok ([], [])
    | ['-', '-'] :: rest => .ok ([], rest)
    | ('-' :: '-' :: text) :: rest => do
      let (first, rest) ← p.long text rest
      let (more, operands) ← readUpTo p n rest
      return (first :: more, operands)
    | ('-' :: c :: cs) :: rest => do
      let (first, rest) ← p.short (c :: cs) rest
      let (more, operands) ← readUpTo p n rest
      return (first ++ more, operands)
    | word :: rest => do
      let (found, operands) ← readUpTo p n rest
      return (found, word :: operands)

/-- **The flags and the other arguments of a program.** -/
def read (p : ProgramFlags) (words : List (List Char)) :
    Except FlagProblem (List Flag × List (List Char)) :=
  p.readUpTo (words.length + 1) words

end ProgramFlags

end SourceCheck.Shell

import SourceCheck.Shell.Binding

/-!
# Going through options

A script goes through its options one at a time.  The shell keeps the place; the variable `OPTIND`
shows the next word, and setting it starts anew.

* `OptionPlace.next`: the next option among some words.
* `nextOption`: the command that gives a script its next option.
-/

namespace SourceCheck.Shell

/-- **What is found at a place among words.** -/
inductive OptionFound
  /-- No option is left. -/
  | nothing
  /-- An option with its argument, if it takes one. -/
  | option (letter : Char) (argument : Option (List Char))
  | unknown (letter : Char)
  | withoutArgument (letter : Char)
  deriving Repr

/-- What is left of the word before a place. -/
def OptionPlace.rest (p : OptionPlace) (words : List (List Char)) : List Char :=
  match p.within with
  | some k => (words[p.word - 2]?.getD []).drop k
  | none => []

/-- The letters to look at from a place on, and the number of the next word then. -/
def OptionPlace.letters (p : OptionPlace) (words : List (List Char)) :
    Option (List Char) × Nat :=
  match p.rest words with
  | c :: cs => (some (c :: cs), p.word)
  | [] =>
    match words[p.word - 1]? with
    | some ['-', '-'] => (none, p.word + 1)
    | some ('-' :: c :: cs) => (some (c :: cs), p.word + 1)
    | _ => (none, p.word)

/-- The place behind letters of which some are left; `within` counts those that are done. -/
def OptionPlace.at (words : List (List Char)) (word : Nat) (left : List Char) : OptionPlace :=
  ⟨word, some ((words[word - 2]?.getD []).length - left.length)⟩

/-- **The next option** among some words, and the place behind it; known options are written as for
`flag?`. -/
def OptionPlace.next (known : List Char) (words : List (List Char)) (p : OptionPlace) :
    OptionFound × OptionPlace :=
  match p.letters words with
  | (none, word) | (some [], word) => (.nothing, ⟨word, none⟩)
  | (some (c :: cs), word) =>
    match flag? c known with
    | none => (.unknown c, OptionPlace.at words word cs)
    | some false => (.option c none, OptionPlace.at words word cs)
    | some true =>
      match cs, words[word - 1]? with
      | [], none => (.withoutArgument c, OptionPlace.at words word cs)
      | [], some argument => (.option c (some argument), ⟨word + 1, none⟩)
      | cs, _ => (.option c (some cs), ⟨word, none⟩)

/-- The variables that tell about an option, and what is said about it; a colon in front of the
known options leaves it to the script to say something. -/
def OptionFound.report (silent : Bool) : OptionFound → List Char × Option (List Char) × List Char
  | .nothing => (['?'], none, [])
  | .option c argument => ([c], some (argument.getD []), [])
  | .unknown c =>
    if silent then (['?'], some [c], [])
    else (['?'], none, "Illegal option -".toList ++ [c, '\n'])
  | .withoutArgument c =>
    if silent then ([':'], some [c], [])
    else (['?'], none, "No arg for -".toList ++ [c] ++ " option\n".toList)

/-- Gives a script its next option. -/
def optionOf (known name : List Char) (words : List (List Char)) (sh : State) : State :=
  let silent := known.head? == some ':'
  let start := if words.length + 1 < sh.frame.optionPlace.word then State.firstOption
    else sh.frame.optionPlace
  let (found, place) := start.next known words
  let (letter, argument, message) := found.report silent
  let isEnd := match found with
    | .nothing => true
    | _ => false
  let sh := sh.say message
  let sh := if isEnd then sh else sh.put "OPTARG" argument
  let sh := sh.put "OPTIND" (some (toString place.word).toList)
  match setNamed name letter sh with
  | .ok sh =>
    (sh.withFrame fun f => { f with optionPlace := place }).withStatus (if isEnd then 1 else 0)
  | .error problem => sh.failing 2 "getopts: " problem

/-- **The command that gives a script its next option**, among its own arguments or those of the
shell. -/
def nextOption (arguments : List (List Char)) (sh : State) : State :=
  match arguments with
  | known :: name :: words =>
    optionOf known name (if words.isEmpty then sh.frame.arguments else words) sh
  | _ => sh.failing 2 "getopts: Usage: getopts optstring var [arg...]" []

end SourceCheck.Shell

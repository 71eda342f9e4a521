import SourceCheck.Shell.State

/-!
# Options of a shell

Options are letters; most of them have a name too.  They are set by words such as `-e`, `-o errexit`
or `+e`, both on a shell's own command line and by `set`.

* `OptionReading.ofWords`: what some words say about options.
* `setOptions`: sets options, and the arguments behind them.
-/

namespace SourceCheck.Shell

/-- **The options**, by name, with their letters, in the order in which they are listed. -/
def optionNames : List (String × Option Char) := [
  ("errexit", some 'e'), ("noglob", some 'f'), ("ignoreeof", some 'I'), ("interactive", some 'i'),
  ("monitor", some 'm'), ("noexec", some 'n'), ("stdin", some 's'), ("xtrace", some 'x'),
  ("verbose", some 'v'), ("vi", some 'V'), ("emacs", some 'E'), ("noclobber", some 'C'),
  ("allexport", some 'a'), ("notify", some 'b'), ("nounset", some 'u'), ("privileged", some 'p'),
  ("nolog", none), ("debug", none)]

/-- The letters of the options. -/
def optionLetters : List Char := optionNames.filterMap (·.2)

/-- **What a word says about options.** -/
inductive OptionStep
  | turn (on : Bool) (letter : Char)
  /-- The options are listed, perhaps as commands that set them. -/
  | list (asCommands : Bool)
  /-- Nothing is traced any more. -/
  | quiet
  /-- The script stands among the arguments. -/
  | command
  | illegal (words : List Char)
  deriving Repr

/-- **What words say about options**, and the words behind them. -/
structure OptionReading where
  steps : List OptionStep
  rest : List (List Char)
  /-- Whether the arguments are replaced even if no word is left. -/
  clears : Bool
  deriving Repr

namespace OptionReading

/-- What some letters say; the letter `o` takes its name from the next word. -/
def ofLetters (atStart on : Bool) : List Char → List (List Char) →
    List OptionStep × List (List Char)
  | [], rest => ([], rest)
  | c :: cs, rest =>
    if c == 'o' then
      match rest with
      | [] => let r := ofLetters atStart on cs []; (.list (!on) :: r.1, r.2)
      | name :: rest =>
        let r := ofLetters atStart on cs rest
        let step := match Table.get? optionNames (textOf name) with
          | some (some letter) => [OptionStep.turn on letter]
          | some none => []
          | none => [.illegal ("-o ".toList ++ name)]
        (step ++ r.1, r.2)
    else
      let r := ofLetters atStart on cs rest
      let step := if c == 'c' && atStart then OptionStep.command
        else if optionLetters.contains c then .turn on c
        else .illegal ['-', c]
      (step :: r.1, r.2)

/-- A reading with more steps in front. -/
def behind (r : OptionReading) (steps : List OptionStep) : OptionReading :=
  { r with steps := steps ++ r.steps }

/-- What words say, with a bound on their number. -/
def upTo (atStart : Bool) : Nat → List (List Char) → OptionReading
  | 0, words => ⟨[], words, false⟩
  | n + 1, words =>
    match words with
    | ['-'] :: rest => ⟨if atStart then [] else [.quiet], rest, false⟩
    | ['-', '-'] :: rest => ⟨[], rest, true⟩
    | ('-' :: letters) :: rest =>
      let r := ofLetters atStart true letters rest
      (upTo atStart n r.2).behind r.1
    | ('+' :: letters) :: rest =>
      let r := ofLetters atStart false letters rest
      (upTo atStart n r.2).behind r.1
    | rest => ⟨[], rest, false⟩

/-- **What words say about options**; `atStart` says that they are a shell's own arguments. -/
def ofWords (atStart : Bool) (words : List (List Char)) : OptionReading :=
  upTo atStart (words.length + 1) words

end OptionReading

/-- Letters with one of them set or not; of two ways to edit a line only one is set. -/
def turned (on : Bool) (letter : Char) (letters : List Char) : List Char :=
  let rival := if letter == 'V' then 'E' else if letter == 'E' then 'V' else letter
  let others := letters.filter fun c => c != letter && !(on && c == rival)
  if on then letter :: others else others

/-- The list of options: their state, or the commands that set them. -/
def optionList (asCommands : Bool) (set : List Char) : List Char :=
  let isOn := fun (o : String × Option Char) => o.2.any set.contains
  if asCommands then
    optionNames.flatMap fun o => ("set " ++ (if isOn o then "-o " else "+o ") ++ o.1 ++ "\n").toList
  else
    "Current option settings\n".toList ++ optionNames.flatMap fun o =>
      o.1.toList ++ List.replicate (16 - o.1.length) ' ' ++
        (if isOn o then "on\n" else "off\n").toList

/-- Follows what words say about options; an illegal one ends the shell. -/
def followOptions : List OptionStep → State → Flow × State
  | [], sh => (.next, sh)
  | step :: steps, sh =>
    match step with
    | .turn on 'm' =>
      followOptions steps (if on then
        sh.complain "set: can't access tty; job control turned off".toList else sh)
    | .turn on letter =>
      followOptions steps (sh.withFrame fun f => { f with options := turned on letter f.options })
    | .list asCommands => followOptions steps (sh.print (optionList asCommands sh.frame.options))
    | .quiet =>
      followOptions steps (sh.withFrame fun f => { f with
        options := f.options.filter fun c => c != 'x' && c != 'v' })
    | .command => followOptions steps sh
    | .illegal words => (.failed, sh.failing 2 "set: Illegal option " words)

/-- Gives the shell other arguments. -/
def withArguments (arguments : List (List Char)) (sh : State) : State :=
  sh.withFrame fun f => { f with arguments, optionPlace := State.firstOption }

/-- **Sets options and arguments.** -/
def setOptions (words : List (List Char)) (sh : State) : Flow × State :=
  let r := OptionReading.ofWords false words
  match followOptions r.steps sh with
  | (.next, sh) =>
    (.next, if r.clears || !r.rest.isEmpty then withArguments r.rest sh else sh)
  | other => other

end SourceCheck.Shell

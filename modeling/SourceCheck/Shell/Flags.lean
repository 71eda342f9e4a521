import SourceCheck.Shell.State

/-!
# Flags and listings of commands

Commands of the shell take flags in front of their other arguments, and list values between quotes.

* `flags`: the flags in front of some words.
* `inQuotes`: a text as a script would write it.
-/

namespace SourceCheck.Shell

/-- Whether a flag is known, and whether a text belongs to it; known flags are written one after
the other, with a colon behind those that take a text. -/
def flag? (c : Char) : List Char → Option Bool
  | [] => none
  | d :: ':' :: known => if c == d then some true else flag? c known
  | d :: known => if c == d then some false else flag? c known

/-- The flags in the letters of a word, and the words behind it. -/
def flagsOfLetters (known : List Char) : List Char → List (List Char) →
    Except (List Char) (List (Char × List Char) × List (List Char))
  | [], rest => .ok ([], rest)
  | c :: cs, rest =>
    match flag? c known with
    | none => .error ("Illegal option -".toList ++ [c])
    | some false => (flagsOfLetters known cs rest).map fun r => ((c, []) :: r.1, r.2)
    | some true =>
      match cs, rest with
      | [], [] => .error ("No arg for -".toList ++ [c] ++ " option".toList)
      | [], text :: rest => .ok ([(c, text)], rest)
      | cs, rest => .ok ([(c, cs)], rest)

/-- The flags in front of some words, with a bound on their number. -/
def flagsUpTo (known : List Char) : Nat → List (List Char) →
    Except (List Char) (List (Char × List Char) × List (List Char))
  | 0, words => .ok ([], words)
  | n + 1, words =>
    match words with
    | ['-', '-'] :: rest => .ok ([], rest)
    | ('-' :: c :: cs) :: rest => do
      let (first, rest) ← flagsOfLetters known (c :: cs) rest
      let (more, rest) ← flagsUpTo known n rest
      return (first ++ more, rest)
    | rest => .ok ([], rest)

/-- **The flags in front of some words**, and the words behind them. -/
def flags (known : String) (words : List (List Char)) :
    Except (List Char) (List (Char × List Char) × List (List Char)) :=
  flagsUpTo known.toList (words.length + 1) words

/-- A text between quotes, with a bound on its parts: quotes of one kind stand between quotes of
the other kind. -/
def inQuotesUpTo : Nat → List Char → List Char
  | 0, _ => []
  | n + 1, s =>
    let plain := s.takeWhile (· != '\'')
    let rest := s.dropWhile (· != '\'')
    let quotes := rest.takeWhile (· == '\'')
    let rest := rest.dropWhile (· == '\'')
    '\'' :: plain ++ ['\''] ++
      (if quotes.isEmpty then [] else '"' :: quotes ++ ['"']) ++
      (if rest.isEmpty then [] else inQuotesUpTo n rest)

/-- **A text as a script would write it.** -/
def inQuotes (s : List Char) : List Char := inQuotesUpTo (s.length + 1) s

/-- Variables on lines of their own, sorted, with the words of a command in front. -/
def listVariables (command : String) (names : List String) (bindings : Table (List Char)) :
    List Char :=
  (names.mergeSort fun a b => decide (a ≤ b)).flatMap fun name =>
    command.toList ++ bytesOf name ++
      (match Table.get? bindings name with
        | some value => '=' :: inQuotes value
        | none => []) ++ ['\n']

end SourceCheck.Shell

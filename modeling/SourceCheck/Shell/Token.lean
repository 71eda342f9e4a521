import SourceCheck.Shell.Script

/-!
# Tokens of shell scripts

The parts of a text that the grammar is about: blanks and comments, names and reserved words,
parameters, redirections and the texts that stand in the script itself.

* `Trouble`: why a text is no script.
* `tokenName`: how a message names what stands somewhere.
* `hereText`: a text that stands behind the line that asks for it.
-/

namespace SourceCheck.Shell

/-- Characters that end a word unless they are quoted. -/
def isMeta (c : Char) : Bool :=
  c == ' ' || c == '\t' || c == '\n' || c == ';' || c == '&' || c == '|' || c == '<' || c == '>' ||
    c == '(' || c == ')'

/-- Characters that a name may start with. -/
def isNameStart (c : Char) : Bool := c.isAlpha || c == '_'

/-- Characters of a name. -/
def isNameChar (c : Char) : Bool := c.isAlphanum || c == '_'

/-- Whether a text is the name of a variable. -/
def isName (s : List Char) : Bool :=
  match s with
  | c :: cs => isNameStart c && cs.all isNameChar
  | [] => false

/-- The text without blanks and comments at its start. -/
def skipBlank : List Char → List Char
  | ' ' :: s => skipBlank s
  | '\t' :: s => skipBlank s
  | '\\' :: '\n' :: s => skipBlank s
  | '#' :: s => s.dropWhile (· != '\n')
  | s => s

/-- The text without blanks, comments and line feeds at its start. -/
def skipLines (s : List Char) : List Char := go s.length s
where
  go : Nat → List Char → List Char
    | 0, s => s
    | n + 1, s =>
      match skipBlank s with
      | '\n' :: r => go n r
      | r => r

/-- Words that belong to the grammar where a command may start. -/
def reservedWords : List String := [
  "if", "then", "else", "elif", "fi", "while", "until", "do", "done", "for", "in", "case", "esac",
  "\x7b", "\x7d", "!"]

/-- The reserved word at the start of a text, and the rest. -/
def reserved? (s : List Char) : Option (String × List Char) :=
  let word := String.ofList (s.takeWhile fun c => !isMeta c)
  if reservedWords.contains word then some (word, s.dropWhile fun c => !isMeta c) else none

/-- Commands of the shell that are special: they end it where they fail, and what is assigned in
front of them stays. -/
def specialNames : List String := [
  ".", ":", "break", "continue", "eval", "exec", "exit", "export", "local", "readonly", "return",
  "set", "shift", "times", "trap", "unset"]

/-! ## What can be wrong -/

/-- **Why a text is no script**, with the number of line feeds behind the place. -/
structure Trouble where
  below : Nat
  words : String
  deriving Repr

/-- What reading gives, or why there is nothing to read. -/
abbrev Reading (α : Type) := Except Trouble α

/-- The number of line feeds. -/
def lineFeeds (s : List Char) : Nat := s.countP (· == '\n')

/-- Between quotation marks. -/
def marked (s : String) : String := "\"" ++ s ++ "\""

/-- The words for quotes that are opened and not closed. -/
def openQuotesWords : String := "Unterminated quoted string"

/-- The words for a brace that is opened and not closed. -/
def openBraceWords : String := "Missing '\x7d'"

/-- Quotes that are opened and not closed. -/
def openQuotes {α : Type} : Reading α := .error ⟨0, openQuotesWords⟩

/-- A brace that is opened and not closed. -/
def openBrace {α : Type} (quoted : Bool) : Reading α :=
  if quoted then openQuotes else .error ⟨0, openBraceWords⟩

/-- The text ends before everything is said; also what a bound on the depth comes to. -/
def openEnd {α : Type} : Reading α := .error ⟨0, "end of file unexpected"⟩

/-- Reserved words that end a list of commands. -/
def closers : List String := ["then", "else", "elif", "fi", "do", "done", "esac", "\x7d"]

/-- Whether a list of commands ends here. -/
def listEnds (s : List Char) : Bool :=
  match s with
  | [] => true
  | ')' :: _ => true
  | ';' :: ';' :: _ => true
  | _ =>
    match reserved? s with
    | some (w, _) => closers.contains w
    | none => false

/-- The text up to the parentheses that close an arithmetic expression, and the rest. -/
def arithmeticText (depth : Nat) : List Char → Option (List Char × List Char)
  | [] => none
  | '(' :: s => (arithmeticText (depth + 1) s).map fun r => ('(' :: r.1, r.2)
  | ')' :: s =>
    match depth, s with
    | 0, ')' :: rest => some ([], rest)
    | depth, s => (arithmeticText (depth - 1) s).map fun r => (')' :: r.1, r.2)
  | c :: s => (arithmeticText depth s).map fun r => (c :: r.1, r.2)

/-- The text between backquotes, and the rest. -/
def backquoted : List Char → Option (List Char × List Char)
  | [] => none
  | '\x60' :: s => some ([], s)
  | '\\' :: c :: s =>
    let kept := if c == '\\' || c == '\x60' || c == '$' then [c] else ['\\', c]
    (backquoted s).map fun r => (kept ++ r.1, r.2)
  | c :: s => (backquoted s).map fun r => (c :: r.1, r.2)

/-- The operator of an altered parameter, and the rest. -/
def alteration? : List Char → Option (Alteration × List Char)
  | ':' :: '-' :: s => some (.orElse true, s)
  | '-' :: s => some (.orElse false, s)
  | ':' :: '=' :: s => some (.assign true, s)
  | '=' :: s => some (.assign false, s)
  | ':' :: '+' :: s => some (.instead true, s)
  | '+' :: s => some (.instead false, s)
  | '#' :: '#' :: s => some (.withoutStart true, s)
  | '#' :: s => some (.withoutStart false, s)
  | '%' :: '%' :: s => some (.withoutEnd true, s)
  | '%' :: s => some (.withoutEnd false, s)
  | ':' :: '?' :: s => some (.orFail true, s)
  | '?' :: s => some (.orFail false, s)
  | _ => none

/-- The name of a parameter, and the rest. -/
def parameterName? : List Char → Option (String × List Char)
  | [] => none
  | c :: s =>
    if isNameStart c then
      some (String.ofList (c :: s.takeWhile isNameChar), s.dropWhile isNameChar)
    else if c.isDigit || "@*#?$!-".toList.contains c then some (String.ofList [c], s)
    else none

/-- The name of a parameter between braces, where a number may have several digits. -/
def bracedName? (s : List Char) : Option (String × List Char) :=
  let digits := s.takeWhile Char.isDigit
  if digits ≠ [] then some (String.ofList digits, s.dropWhile Char.isDigit) else parameterName? s

/-- **What stands behind a dollar sign and a brace.** -/
inductive Braced
  /-- A number sign and the name of a parameter. -/
  | length (name : String)
  | parameter (name : String)
  /-- Nothing that a parameter could be called. -/
  | nameless

/-- What stands behind a brace, and the rest. -/
def braced? (s : List Char) : Braced × List Char :=
  match s with
  | '#' :: c :: r =>
    if isNameChar c then match bracedName? (c :: r) with
      | some (name, rest) => (.length name, rest)
      | none => (.nameless, r)
    else match c != '\x7d', r with
      | true, '\x7d' :: _ => match parameterName? [c] with
        | some (name, _) => (.length name, r)
        | none => (.nameless, r)
      | _, _ => (.parameter "#", c :: r)
  | s =>
    match bracedName? s with
    | some (name, rest) => (.parameter name, rest)
    | none => (.nameless, if s.head? == some '\x7d' then s else s.drop 1)

/-- What an operator that there is not leaves of a text. -/
def behindOperator : List Char → List Char
  | ':' :: s => s.drop 1
  | s => s.drop 1

/-- The kind of a redirection, the stream that it is about unless another one is named, and the
rest. -/
def openingMark? (s : List Char) : Option (Nat × Opening × List Char) :=
  match s with
  | '>' :: '>' :: r => some (1, .appending, r)
  | '>' :: '&' :: r => some (1, .copying, r)
  | '>' :: '|' :: r => some (1, .overwriting, r)
  | '>' :: r => some (1, .writing, r)
  | '<' :: '>' :: r => some (0, .updating, r)
  | '<' :: '&' :: r => some (0, .copying, r)
  | '<' :: '<' :: r => some (0, .hereText, r)
  | '<' :: r => some (0, .reading, r)
  | _ => none

/-- The stream and the kind of a redirection, and the rest; a single digit names a stream. -/
def opening? (s : List Char) : Option (Nat × Opening × List Char) :=
  match s with
  | c :: r =>
    if c.isDigit then (openingMark? r).map fun o => (c.toNat - 48, o.2) else openingMark? s
  | [] => none

/-- The variable of an assignment, and the text behind the equals sign. -/
def assigned? (s : List Char) : Option (String × List Char) :=
  match s with
  | c :: _ =>
    if isNameStart c then
      match s.dropWhile isNameChar with
      | '=' :: r => some (String.ofList (s.takeWhile isNameChar), r)
      | _ => none
    else none
  | [] => none

/-- The name of a function that is defined here, and the text behind the parentheses. -/
def functionName? (s : List Char) : Option (String × List Char) :=
  let name := s.takeWhile isNameChar
  match name, skipBlank (s.dropWhile isNameChar) with
  | c :: _, '(' :: r =>
    match skipBlank r with
    | ')' :: r => if isNameStart c then some (String.ofList name, r) else none
    | _ => none
  | _, _ => none

/-! ## Tokens in messages -/

/-- **What a token is taken for where it must not stand.** -/
inductive Reserve
  /-- Reserved words count. -/
  | command
  /-- All words are alike. -/
  | word
  deriving DecidableEq

/-- The name of what stands at the start of a text. -/
def tokenName (reserve : Reserve) (s : List Char) : String :=
  match s with
  | [] => "end of file"
  | '\n' :: _ => "newline"
  | ';' :: ';' :: _ => marked ";;"
  | '&' :: '&' :: _ => marked "&&"
  | '|' :: '|' :: _ => marked "||"
  | ';' :: _ => marked ";"
  | '&' :: _ => marked "&"
  | '|' :: _ => marked "|"
  | '(' :: _ => marked "("
  | ')' :: _ => marked ")"
  | s =>
    if (opening? s).isSome then "redirection"
    else match reserve, reserved? s with
      | .command, some (w, _) => marked w
      | _, _ => "word"

/-- What a message calls a token that was expected. -/
def expectedName (token : String) : String := if token == "word" then token else marked token

/-- Something that must not stand where it stands; `rest` is the text behind it. -/
def unexpected {α : Type} (reserve : Reserve) (s rest : List Char) (expecting : Option String) :
    Reading α :=
  let s := skipBlank s
  let below := match s with
    | '\n' :: r => lineFeeds r
    | _ => lineFeeds rest
  .error ⟨below, tokenName reserve s ++ " unexpected" ++ match expecting with
    | some w => " (expecting " ++ expectedName w ++ ")"
    | none => ""⟩

/-- The text behind a token that is no word. -/
def behindMark : List Char → List Char
  | ';' :: ';' :: s | '&' :: '&' :: s | '|' :: '|' :: s => s
  | s => s.drop 1

/-! ## Texts that stand in the script -/

/-- A word with more in front of it, any of which was quoted or not. -/
def withMore (text : List Char) (quoted : Bool) (r : List Char × Bool × List Char) :
    List Char × Bool × List Char :=
  (text ++ r.1, quoted || r.2.1, r.2.2)

/-- The word that ends a text, whether any of it was quoted, and the rest; `mark` is the quotation
mark that is open. -/
def delimiterWithin (mark : Option Char) : List Char → List Char × Bool × List Char
  | [] => ([], false, [])
  | '\\' :: c :: s =>
    if mark == some '\'' then withMore ['\\'] true (delimiterWithin mark (c :: s))
    else
      let isEscape := mark == none || "$\x60\"\\".toList.contains c
      withMore (if isEscape then [c] else ['\\', c]) true (delimiterWithin mark s)
  | c :: s =>
    if mark == some c then withMore [] true (delimiterWithin none s)
    else if mark.isSome then withMore [c] true (delimiterWithin mark s)
    else if c == '\'' || c == '"' then withMore [] true (delimiterWithin (some c) s)
    else if isMeta c then ([], false, c :: s)
    else withMore [c] false (delimiterWithin none s)

/-- The word that ends a text, whether any of it was quoted, and the rest. -/
def delimiter (s : List Char) : List Char × Bool × List Char := delimiterWithin none s

/-- The lines up to the one that ends a text, and what stands behind that line. -/
def linesUpTo (word : List Char) (withoutTabs : Bool) : Nat → List Char → List Char × List Char
  | 0, s => ([], s)
  | _ + 1, [] => ([], [])
  | n + 1, s =>
    let line := s.takeWhile (· != '\n')
    let rest := (s.dropWhile (· != '\n')).drop 1
    let lineEnd := (s.dropWhile (· != '\n')).take 1
    let line := if withoutTabs then line.dropWhile (· == '\t') else line
    if line == word then ([], rest)
    else
      let more := linesUpTo word withoutTabs n rest
      (line ++ lineEnd ++ more.1, more.2)

/-- What a backslash takes the meaning from in a text that stands in the script. -/
def textEscapes : List Char := ['\\', '$', '\x60']

/-- What a backslash takes the meaning from in a formula. -/
def formulaEscapes : List Char := '"' :: textEscapes

/-- The line at the start of a text together with the lines joined to it, and what stands from its
line feed on. -/
def joinedLine : List Char → List Char × List Char
  | [] => ([], [])
  | '\n' :: s => ([], '\n' :: s)
  | '\\' :: c :: s =>
    let more := joinedLine s
    ('\\' :: c :: more.1, more.2)
  | c :: s =>
    let more := joinedLine s
    (c :: more.1, more.2)

/-- Joined lines that hold nothing: they stand for lines that were taken out of a script. -/
def emptyJoins (count : Nat) : List Char :=
  if count == 0 then [] else ' ' :: (List.replicate count ['\\', '\n']).flatten

/-- A text that stands in a script. -/
structure HereText where
  text : List Char
  /-- Whether the text is to be taken as it is. -/
  isPlain : Bool
  /-- The script without the text. What follows in it stays on its lines. -/
  rest : List Char
  /-- The number of line feeds behind the text. -/
  below : Nat

/-- The text that a `<<` asks for. -/
def hereText (s : List Char) : HereText :=
  let (withoutTabs, s) := match s with
    | '-' :: r => (true, r)
    | s => (false, s)
  let (word, quoted, rest) := delimiter (skipBlank s)
  let (line, lineEnd) := joinedLine rest
  let lines := lineEnd.drop 1
  let (text, after) := linesUpTo word withoutTabs (lines.length + 1) lines
  let taken := lineFeeds lines - lineFeeds after
  ⟨text, quoted, line ++ emptyJoins taken ++ lineEnd.take 1 ++ after,
    lineFeeds lines - lineFeeds text⟩

end SourceCheck.Shell

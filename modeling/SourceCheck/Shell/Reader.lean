import SourceCheck.Shell.Token
import SourceCheck.Table

/-!
# Reading shell scripts

The grammar is that of a small shell: commands with assignments and redirections, pipes, lists,
subshells, braces, conditions, loops, case distinctions and functions; words with quotes,
parameters, command output and arithmetic.

A text is read line by line, so what stands before a line that makes no sense is run all the same.

* `readFirst`: the script of the first line of a text, and the rest.
-/

namespace SourceCheck.Shell

/-- The parts of a simple command that have been read, last first. -/
structure SimpleParts where
  assignments : List (String × List Piece)
  words : List (List Piece)
  redirections : List Redirection

/-- Whether nothing of the command has been read. -/
def SimpleParts.isEmpty (parts : SimpleParts) : Bool :=
  parts.assignments.isEmpty && parts.words.isEmpty && parts.redirections.isEmpty

/-- **Words that stand for other text** where a command may start. -/
abbrev Aliases := Table (List Char)

/-- The text with the alias at its start replaced, and the aliases that still count there: what
comes of an alias does not bring it back.  The first argument bounds the replacements. -/
def unaliased : Nat → Aliases → List Char → Aliases × List Char
  | 0, al, s => (al, s)
  | n + 1, al, s =>
    let s := skipBlank s
    let word := s.takeWhile fun c => !isMeta c
    let name := String.ofList word
    match Table.get? al name with
    | none => (al, s)
    | some text =>
      unaliased n (al.filter fun a => a.1 != name) (text ++ s.drop word.length)

/-- Puts redirections on a script. -/
def redirect (below : Nat) (s : Script) : List Redirection → Script
  | [] => s
  | rs => .redirected below s rs

mutual

/-- The pieces of a word, and the rest. -/
def pieces (al : Aliases) : Nat → List Char → Reading (List Piece × List Char)
  | 0, _ => openEnd
  | n + 1, s =>
    match s with
    | [] => .ok ([], [])
    | '\\' :: '\n' :: r => pieces al n r
    | '\\' :: c :: r => do
      let (ps, rest) ← pieces al n r
      return (.quotedText [c] :: ps, rest)
    | '\'' :: r =>
      match r.dropWhile (· != '\'') with
      | _ :: after => do
        let (ps, rest) ← pieces al n after
        return (.quotedText (r.takeWhile (· != '\'')) :: ps, rest)
      | [] => openQuotes
    | '"' :: r => do
      let (inner, after) ← quotedPieces al n r
      let (ps, rest) ← pieces al n after
      return ((if inner.isEmpty then [.quotedText []] else inner) ++ ps, rest)
    | '$' :: r => do
      let (p, after) ← dollar al n false r
      let (ps, rest) ← pieces al n after
      return (p :: ps, rest)
    | '\x60' :: r => do
      let (p, after) ← backquotedPiece al n false r
      let (ps, rest) ← pieces al n after
      return (p :: ps, rest)
    | c :: r =>
      if isMeta c then .ok ([], s)
      else do
        let (ps, rest) ← pieces al n r
        match ps with
        | .text cs :: more => return (.text (c :: cs) :: more, rest)
        | ps => return (.text [c] :: ps, rest)

/-- The pieces between double quotes, and the text behind them. -/
def quotedPieces (al : Aliases) : Nat → List Char → Reading (List Piece × List Char)
  | 0, _ => openEnd
  | n + 1, s =>
    match s with
    | [] => openQuotes
    | '"' :: r => .ok ([], r)
    | '\\' :: '\n' :: r => quotedPieces al n r
    | '\\' :: c :: r => do
      let (ps, rest) ← quotedPieces al n r
      let kept := if c == '\\' || c == '"' || c == '$' || c == '\x60' then [c] else ['\\', c]
      return (.quotedText kept :: ps, rest)
    | '$' :: r => do
      let (p, after) ← dollar al n true r
      let (ps, rest) ← quotedPieces al n after
      return (p :: ps, rest)
    | '\x60' :: r => do
      let (p, after) ← backquotedPiece al n true r
      let (ps, rest) ← quotedPieces al n after
      return (p :: ps, rest)
    | c :: r => do
      let (ps, rest) ← quotedPieces al n r
      match ps with
      | .quotedText cs :: more => return (.quotedText (c :: cs) :: more, rest)
      | ps => return (.quotedText [c] :: ps, rest)

/-- The pieces of a text that stands in the script; `escapable` are the characters from which a
backslash takes their meaning. -/
def herePieces (al : Aliases) : Nat → List Char → List Char → Reading (List Piece)
  | 0, _, _ => openEnd
  | n + 1, escapable, s =>
    match s with
    | [] => .ok []
    | '\\' :: '\n' :: r => herePieces al n escapable r
    | '\\' :: c :: r => do
      let kept := if escapable.contains c then [c] else ['\\', c]
      return .quotedText kept :: (← herePieces al n escapable r)
    | '$' :: r => do
      let (p, after) ← dollar al n true r
      return p :: (← herePieces al n escapable after)
    | '\x60' :: r => do
      let (p, after) ← backquotedPiece al n true r
      return p :: (← herePieces al n escapable after)
    | c :: r => do
      match ← herePieces al n escapable r with
      | .quotedText cs :: more => return .quotedText (c :: cs) :: more
      | ps => return .quotedText [c] :: ps

/-- Refuses what stands at the start of a text; a word there must make sense itself. -/
def refuse {α : Type} (al : Aliases) : Nat → Reserve → List Char → Option String → Reading α
  | 0, _, _, _ => openEnd
  | n + 1, reserve, s, expecting => do
    let (_, rest) ← pieces al n (skipBlank s)
    unexpected reserve s rest expecting

/-- The text behind a reserved word. -/
def behind (al : Aliases) : Nat → String → List Char → Reading (List Char)
  | 0, _, _ => openEnd
  | n + 1, word, s =>
    match reserved? (skipLines s) with
    | some (w, r) => if w == word then .ok r else refuse al n .command (skipLines s) (some word)
    | none => refuse al n .command (skipLines s) (some word)

/-- The script between backquotes, and the text behind it. -/
def backquotedPiece (al : Aliases) : Nat → Bool → List Char → Reading (Piece × List Char)
  | 0, _, _ => openEnd
  | n + 1, quoted, s =>
    match backquoted s with
    | none => .error ⟨0, "EOF in backquote substitution"⟩
    | some (body, after) => do
      let (script, _) ← list al n true body
      return (.output script (some (lineFeeds body)) quoted, after)

/-- What stands behind a dollar sign, and the rest. -/
def dollar (al : Aliases) : Nat → Bool → List Char → Reading (Piece × List Char)
  | 0, _, _ => openEnd
  | n + 1, quoted, s =>
    match s with
    | '(' :: '(' :: r =>
      match arithmeticText 0 r with
      | none => do
        let _ ← herePieces al n formulaEscapes r
        .error ⟨0, "Missing '))'"⟩
      | some (body, rest) => do
        return (.arithmetic (← herePieces al n formulaEscapes body) quoted, rest)
    | '(' :: r => do
      let (script, rest) ← list al n true r
      match rest with
      | ')' :: rest => return (.output script none quoted, rest)
      | rest => refuse al n .command rest (some ")")
    | '\x7b' :: r =>
      match braced? r with
      | (.length name, '\x7d' :: rest) => .ok (.altered name .length [] quoted, rest)
      | (.parameter name, '\x7d' :: rest) => .ok (.parameter name quoted, rest)
      | (.parameter name, r) =>
        match alteration? r with
        | some (how, r) => do
          let (argument, rest) ← braced al n (quoted && !how.isTrimming) r
          return (.altered name how argument quoted, rest)
        | none => do
          let (_, rest) ← braced al n quoted (behindOperator r)
          return (.nonsense, rest)
      | (_, r) => do
        let (_, rest) ← braced al n quoted r
        return (.nonsense, rest)
    | s =>
      match parameterName? s with
      | some (name, rest) => .ok (.parameter name quoted, rest)
      | none => .ok (if quoted then .quotedText ['$'] else .text ['$'], s)

/-- The pieces up to a closing brace, and the text behind it. -/
def braced (al : Aliases) : Nat → Bool → List Char → Reading (List Piece × List Char)
  | 0, _, _ => openEnd
  | n + 1, quoted, s =>
    match s with
    | [] => openBrace quoted
    | '\x7d' :: r => .ok ([], r)
    | '\\' :: c :: r => do
      let (ps, rest) ← braced al n quoted r
      let kept := if quoted && !"$\x60\"\\\x7d".toList.contains c then ['\\', c] else [c]
      return (.quotedText kept :: ps, rest)
    | '\'' :: r =>
      if quoted then do
        let (ps, rest) ← braced al n quoted r
        return (.quotedText ['\''] :: ps, rest)
      else match r.dropWhile (· != '\'') with
      | _ :: after => do
        let (ps, rest) ← braced al n quoted after
        return (.quotedText (r.takeWhile (· != '\'')) :: ps, rest)
      | [] => openQuotes
    | '"' :: r => do
      let (inner, after) ← quotedPieces al n r
      let (ps, rest) ← braced al n quoted after
      return ((if inner.isEmpty then [.quotedText []] else inner) ++ ps, rest)
    | '$' :: r => do
      let (p, after) ← dollar al n quoted r
      let (ps, rest) ← braced al n quoted after
      return (p :: ps, rest)
    | '\x60' :: r => do
      let (p, after) ← backquotedPiece al n quoted r
      let (ps, rest) ← braced al n quoted after
      return (p :: ps, rest)
    | c :: r => do
      let (ps, rest) ← braced al n quoted r
      match ps with
      | .text cs :: more => return (.text (c :: cs) :: more, rest)
      | ps => return (.text [c] :: ps, rest)

/-- A list of commands, and what ends it; `through` says that it may have several lines. -/
def list (al : Aliases) : Nat → Bool → List Char → Reading (Script × List Char)
  | 0, _, _ => openEnd
  | n + 1, through, s => do
    let s := if through then skipLines s else skipBlank s
    if listEnds s || s.head? == some '\n' then return (.nothing, s)
    let (first, s) ← andOr al n s
    match skipBlank s with
    | ';' :: ';' :: r => return (first, ';' :: ';' :: r)
    | ';' :: r => do
      let (more, rest) ← list al n through r
      return (.sequence first more, rest)
    | '&' :: r => do
      let (more, rest) ← list al n through r
      return (.sequence (.background first) more, rest)
    | '\n' :: r =>
      if through then do
        let (more, rest) ← list al n through r
        return (.sequence first more, rest)
      else return (first, '\n' :: r)
    | s => return (first, s)

/-- A list of commands that must not be empty, and what ends it. -/
def body (al : Aliases) : Nat → List Char → Reading (Script × List Char)
  | 0, _ => openEnd
  | n + 1, s =>
    let s := skipLines s
    if !s.isEmpty && listEnds s then refuse al n .command s none else list al n true s

/-- Pipelines joined by `&&` and `||`, and the rest. -/
def andOr (al : Aliases) : Nat → List Char → Reading (Script × List Char)
  | 0, _ => openEnd
  | n + 1, s => do
    let (first, rest) ← pipeline al n s
    moreAndOr al n first rest

/-- The pipelines behind the first ones. -/
def moreAndOr (al : Aliases) : Nat → Script → List Char → Reading (Script × List Char)
  | 0, _, _ => openEnd
  | n + 1, first, s =>
    match skipBlank s with
    | '&' :: '&' :: r => do
      let (second, rest) ← pipeline al n (skipLines r)
      moreAndOr al n (.both first second) rest
    | '|' :: '|' :: r => do
      let (second, rest) ← pipeline al n (skipLines r)
      moreAndOr al n (.either first second) rest
    | _ => .ok (first, s)

/-- Commands joined by pipes, perhaps negated, and the rest. -/
def pipeline (al : Aliases) : Nat → List Char → Reading (Script × List Char)
  | 0, _ => openEnd
  | n + 1, s =>
    let (fewer, start) := unaliased (al.length + 1) al s
    match reserved? (skipBlank start) with
    | some ("!", r) => (piped fewer n (lineFeeds r) r).map fun (c, rest) => (.negated c, rest)
    | _ => piped al n (lineFeeds s) s

/-- Commands joined by pipes, and the rest; `below` counts the line feeds from the line on where the
first of them was looked for. -/
def piped (al : Aliases) : Nat → Nat → List Char → Reading (Script × List Char)
  | 0, _, _ => openEnd
  | n + 1, below, s => do
    let (al, s) := unaliased (al.length + 1) al s
    let (first, rest) ← command al n below (skipBlank s)
    match skipBlank rest with
    | '|' :: '|' :: _ => return (first, rest)
    | '|' :: r => do
      let (second, rest) ← piped al n (lineFeeds r) (skipLines r)
      return (.pipe first second, rest)
    | _ => return (first, rest)

/-- One command with its redirections, and the rest; `below` counts the line feeds from the line on
where it was looked for. -/
def command (al : Aliases) : Nat → Nat → List Char → Reading (Script × List Char)
  | 0, _, _ => openEnd
  | n + 1, below, s =>
    match s with
    | '(' :: r => do
      let (inner, rest) ← body al n r
      match rest with
      | ')' :: rest => do
        let (rs, rest) ← redirections al n rest
        return (redirect below (.subshell inner) rs, rest)
      | rest => refuse al n .command rest (some ")")
    | _ =>
      match reserved? s with
      | some (word, r) =>
        if closers.contains word || word == "in" || word == "!" then refuse al n .command s none
        else do
          let (inner, rest) ← compound al n below word r
          let (rs, rest) ← redirections al n rest
          return (redirect below inner rs, rest)
      | none =>
        match functionName? s with
        | some (name, r) =>
          if specialNames.contains name then .error ⟨lineFeeds r, "Bad function name"⟩
          else do
            let (inner, rest) ← command al n (lineFeeds r) (skipLines r)
            return (.define name inner, rest)
        | none => simple al n ⟨[], [], []⟩ (lineFeeds s) s

/-- The rest of a command that starts with a reserved word. -/
def compound (al : Aliases) : Nat → Nat → String → List Char → Reading (Script × List Char)
  | 0, _, _, _ => openEnd
  | n + 1, _, "\x7b", s => do
    let (inner, rest) ← body al n s
    return (inner, ← behind al n "\x7d" rest)
  | n + 1, _, "if", s => do
    let (condition, rest) ← body al n s
    let (yes, rest) ← body al n (← behind al n "then" rest)
    match reserved? (skipLines rest) with
    | some ("else", r) => do
      let (no, rest) ← body al n r
      return (.choice condition yes no, ← behind al n "fi" rest)
    | some ("elif", r) => do
      let (no, rest) ← compound al n 0 "if" r
      return (.choice condition yes no, rest)
    | _ => return (.choice condition yes .nothing, ← behind al n "fi" rest)
  | n + 1, _, "while", s => do
    let (condition, rest) ← body al n s
    let (inner, rest) ← body al n (← behind al n "do" rest)
    return (.loop true condition inner, ← behind al n "done" rest)
  | n + 1, _, "until", s => do
    let (condition, rest) ← body al n s
    let (inner, rest) ← body al n (← behind al n "do" rest)
    return (.loop false condition inner, ← behind al n "done" rest)
  | n + 1, below, "for", s => do
    let (word, rest) ← pieces al n (skipBlank s)
    match word with
    | [.text name] =>
      if !isName name then .error ⟨lineFeeds s, "Bad for loop variable"⟩
      else
        let (items, rest) ← loopWords al n rest
        let (inner, rest) ← body al n (← behind al n "do" rest)
        return (.each below (String.ofList name) items inner, ← behind al n "done" rest)
    | _ => .error ⟨lineFeeds s, "Bad for loop variable"⟩
  | n + 1, below, "case", s => do
    let (word, rest) ← pieces al n (skipBlank s)
    if word.isEmpty then refuse al n .command rest (some "word")
    else
      let (choices, rest) ← arms al n (← behind al n "in" rest)
      return (.select below word choices, rest)
  | _, _, _, s => unexpected .command s s none

/-- The words that a loop goes through, and the text behind them. -/
def loopWords (al : Aliases) : Nat → List Char → Reading (List (List Piece) × List Char)
  | 0, _ => openEnd
  | n + 1, s =>
    match reserved? (skipLines s) with
    | some ("in", r) => do
      let (items, rest) ← words al n r
      match skipBlank rest with
      | ';' :: ';' :: _ => refuse al n .command rest none
      | ';' :: r => return (items, r)
      | '\n' :: r => return (items, r)
      | rest => refuse al n .command rest none
    | _ =>
      let r := skipLines s
      .ok ([[.parameter "@" true]], if r.head? == some ';' then r.drop 1 else r)

/-- The arms of a case distinction, and the text behind its end. -/
def arms (al : Aliases) : Nat → List Char → Reading (List (List (List Piece) × Script) × List Char)
  | 0, _ => openEnd
  | n + 1, s =>
    match reserved? (skipLines s) with
    | some ("esac", r) => .ok ([], r)
    | _ => do
      let s := match skipLines s with
        | '(' :: r => r
        | r => r
      let (patterns, rest) ← alternatives al n s
      let (inner, rest) ← list al n true rest
      match skipLines rest with
      | ';' :: ';' :: r => do
        let (more, rest) ← arms al n r
        return ((patterns, inner) :: more, rest)
      | r =>
        match reserved? r with
        | some ("esac", r) => return ([(patterns, inner)], r)
        | _ => refuse al n .command r (some ";;")

/-- The patterns of an arm, and the text behind their parenthesis; what is no word stands there for
nothing. -/
def alternatives (al : Aliases) : Nat → List Char → Reading (List (List Piece) × List Char)
  | 0, _ => openEnd
  | n + 1, s => do
    let (pattern, rest) ← pieces al n (skipBlank s)
    let rest := skipBlank (if pattern.isEmpty then behindMark rest else rest)
    match rest with
    | '|' :: '|' :: _ => refuse al n .word rest (some ")")
    | '|' :: r => do
      let (more, rest) ← alternatives al n r
      return (pattern :: more, rest)
    | ')' :: r => return ([pattern], r)
    | r => refuse al n .word r (some ")")

/-- Words up to the end of a command, and the rest. -/
def words (al : Aliases) : Nat → List Char → Reading (List (List Piece) × List Char)
  | 0, _ => openEnd
  | n + 1, s => do
    let (word, rest) ← pieces al n (skipBlank s)
    if word.isEmpty then return ([], rest)
    let (more, rest) ← words al n rest
    return (word :: more, rest)

/-- A redirection whose operator has been read, and the rest. -/
def redirection (al : Aliases) : Nat → Nat → Opening → List Char → Reading (Redirection × List Char)
  | 0, _, _, _ => openEnd
  | n + 1, stream, .hereText, s =>
    if (match delimiter (skipBlank (if s.head? == some '-' then s.drop 1 else s)) with
      | ([], false, _) => true
      | _ => false) then refuse al n .command s none
    else
      let here := hereText s
      if here.isPlain then .ok (.mk stream .hereText [.quotedText here.text], here.rest)
      else do
        let ps ← (herePieces al n textEscapes here.text).mapError fun t =>
          if t.below > 0 then ⟨t.below + here.below, t.words⟩
          else ⟨here.below - 1, if t.words == openQuotesWords then openBraceWords else t.words⟩
        return (.mk stream .hereText ps, here.rest)
  | n + 1, stream, opening, s => do
    let (target, rest) ← pieces al n (skipBlank s)
    if target.isEmpty then refuse al n .command rest none
    else return (.mk stream opening target, rest)

/-- Redirections, and the rest. -/
def redirections (al : Aliases) : Nat → List Char → Reading (List Redirection × List Char)
  | 0, _ => openEnd
  | n + 1, s =>
    match opening? (skipBlank s) with
    | some (stream, opening, r) => do
      let (first, rest) ← redirection al n stream opening r
      let (more, rest) ← redirections al n rest
      return (first :: more, rest)
    | none => .ok ([], s)

/-- A simple command whose first parts have been read; `below` counts the line feeds behind the
first of them. -/
def simple (al : Aliases) : Nat → SimpleParts → Nat → List Char → Reading (Script × List Char)
  | 0, _, _, _ => openEnd
  | n + 1, parts, below, s =>
    let (al, s) := if parts.words.isEmpty && !parts.assignments.isEmpty then
        unaliased (al.length + 1) al s
      else (al, skipBlank s)
    match opening? s with
    | some (stream, opening, r) => do
      let (first, rest) ← redirection al n stream opening r
      simple al n { parts with redirections := first :: parts.redirections } below rest
    | none =>
      match (if parts.words.isEmpty then assigned? s else none) with
      | some (name, r) => do
        let (value, rest) ← pieces al n r
        let below := if parts.isEmpty then lineFeeds rest else below
        simple al n { parts with assignments := (name, value) :: parts.assignments } below rest
      | none => do
        let (word, rest) ← pieces al n s
        if !word.isEmpty then
          let below := if parts.isEmpty then lineFeeds rest else below
          simple al n { parts with words := word :: parts.words } below rest
        else match parts.assignments, parts.words, parts.redirections, rest with
          | [], [], [], rest => refuse al n .command rest none
          | [], [_], [], '(' :: r =>
            if (skipBlank r).head? == some ')' then .error ⟨lineFeeds r, "Bad function name"⟩
            else refuse al n .word r (some ")")
          | assignments, words, redirections, rest =>
            return (.simple below assignments.reverse words.reverse redirections.reverse, rest)

end

/-- A bound on the depth of a text's grammar. -/
def depthOf (text : List Char) : Nat := 8 * text.length + 16

/-- What stands in the place of a line that makes no sense. -/
def problemScript (t : Trouble) : Script :=
  .unreadable t.below ("Syntax error: ".toList ++ t.words.toList)

/-- **The script of the first line of a text**, and the rest; a command that is not complete there
goes on in the lines behind it.  The line of a command is counted from the end of the text. -/
def readFirst (al : Aliases) (text : List Char) : Option (Script × List Char) :=
  let s := skipLines text
  if s.isEmpty then none
  else some (match list al (depthOf s) false s with
    | .error t => (problemScript t, [])
    | .ok (first, []) => (first, [])
    | .ok (first, '\n' :: rest) => (first, rest)
    | .ok (_, rest) =>
      match (refuse al (depthOf rest) .command rest none : Reading Unit) with
      | .error t => (problemScript t, [])
      | .ok _ => (.nothing, []))

end SourceCheck.Shell

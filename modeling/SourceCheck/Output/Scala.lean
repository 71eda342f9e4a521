import SourceCheck.Output.Javac

/-!
# Scala compiler blocks

Version 2 reports `path.scala:line: severity: message`, further lines of the message, the source
line and a line of carets.  Version 3 reports a header
`-- [code] kind severity: path:line:column ---` and below it lines with a gutter: numbered ones
show the source, lines of carets mark it, the others tell what is wrong.
-/

namespace SourceCheck

open Text

namespace Scala

/-- Texts with spaces between them. -/
def joinSpaces : List (List Char) → List Char
  | [] => []
  | [l] => l
  | l :: ls => l ++ ' ' :: joinSpaces ls

/-! ## 1. Version 2 -/

/-- **The first line of a finding of version 2**, if it is one. -/
def header2? (s : List Char) : Option LocatedLine :=
  LocatedLine.ofLine? [".scala", ".sc"] ["error", "warning", "info"] s

/-- The finding that a first line and the lines behind it report.  The message goes on in the
lines before the source line above the carets. -/
def diagnostic2 (h : LocatedLine) (rest : List (List Char)) : Except Fault Diagnostic := do
  let caret := Caret.below? Caret.lookahead rest
  let before := ((caret.map (·.2)).getD 0) - 1
  let details := ((rest.take before).map trim).filter (· != [])
  let line ← Position.ofDigits h.line
  return { line, column := Position.ofNat ((caret.map (·.1)).getD 1)
           severity := Severity.ofLabel h.severity
           message := String.ofList (joinSpaces (trim h.message :: details)), code := none }

/-! ## 2. Version 3 -/

/-- **The header of a finding of version 3.** -/
structure Header3 where
  code : Option (List Char)
  kind : List Char
  severity : String
  path : List Char
  line : List Char
  column : List Char
  deriving Repr, DecidableEq

/-- A code `E…` in brackets, if there is one, and the rest. -/
def codeIn (s : List Char) : Option (List Char) × List Char :=
  let read := do
    let r ← afterWord "[E" s
    let (digits, r) ← digits? r
    let r ← afterWord "] " r
    return ('E' :: digits, r)
  match read with
  | some (code, r) => (some code, r)
  | none => (none, s)

/-- Two numbers behind colons. -/
def position? (s : List Char) : Option (List Char × List Char) := do
  let s ← afterWord ":" s
  let (line, s) ← digits? s
  let s ← afterWord ":" s
  let (column, _) ← digits? s
  return (line, column)

/-- The severity, the path and the position. -/
def located? (s : List Char) : Option (String × List Char × List Char × List Char) := do
  let (severity, s) ← oneOf ["Error", "Warning", "Info"] s
  let s ← afterWord ": " s
  let (path, line, column) ← shortest position? s
  return (severity, path, line, column)

/-- Words of the kind up to the severity: as few as possible, at most `n`. -/
def kindAndRest? : Nat → List Char →
    Option (List Char × String × List Char × List Char × List Char)
  | 0, s => (located? s).map fun r => ([], r)
  | n + 1, s =>
    match located? s with
    | some r => some ([], r)
    | none => do
      let (word, rest) ← run? Javac.isCodeChar s
      let rest ← afterWord " " rest
      let (kind, r) ← kindAndRest? n rest
      return (word ++ ' ' :: kind, r)

/-- **The header of a finding of version 3**, if the line is one. -/
def header3? (s : List Char) : Option Header3 := do
  let s ← afterWord "-- " s
  let (code, s) := codeIn s
  let (kind, severity, path, line, column) ← kindAndRest? s.length s
  return ⟨code, kind, severity, path, line, column⟩

/-- The number and the text of a line with a gutter, if it is one. -/
def gutter? (s : List Char) : Option (Bool × List Char) := do
  let s := trimLeft s
  let (digits, s) := run isDecimal s
  let s ← afterWord "|" (trimLeft s)
  return (digits != [], s)

/-- Where the details of a finding end. -/
def explanation : String := "longer explanation available"

/-- **The details of a finding**: the texts in the gutter that are no source and no carets. -/
def details : List (List Char) → List (List Char)
  | [] => []
  | l :: ls =>
    match gutter? l with
    | none => []
    | some (numbered, s) =>
      let text := trim s
      if (afterWord "--" l).isSome then []
      else if numbered || text == [] || Caret.isCarets text then details ls
      else if (afterWord explanation text).isSome then []
      else text :: details ls

/-- The message: kind and details, or the severity when both are empty. -/
def message3 (h : Header3) (rest : List (List Char)) : List Char :=
  let kind := trim h.kind
  let text := joinSpaces (details rest)
  if kind == [] then (if text == [] then h.severity.toList else text)
  else if text == [] then kind
  else kind ++ ':' :: ' ' :: text

/-- The finding that a header and the lines behind it report. -/
def diagnostic3 (h : Header3) (rest : List (List Char)) : Except Fault Diagnostic := do
  let line ← Position.ofDigits h.line
  let column ← Position.ofDigits h.column
  return { line, column, severity := Severity.ofLabel h.severity
           message := String.ofList (message3 h rest), code := h.code.map String.ofList }

/-! ## 3. Both -/

/-- The finding that starts at a line, if one does. -/
def finding? (l : List Char) (rest : List (List Char)) : Option (Except Fault Diagnostic) :=
  match header3? l with
  | some h => some (diagnostic3 h rest)
  | none => (header2? l).map fun h => diagnostic2 h rest

/-- The findings of some lines, in order. -/
def findings : List (List Char) → Except Fault (List Diagnostic)
  | [] => .ok []
  | l :: ls =>
    match finding? l ls with
    | none => findings ls
    | some finding => do
      let d ← finding
      let ds ← findings ls
      return d :: ds

end Scala

namespace Output

/-- **The findings of the Scala compiler.** -/
def scala (streams : List String) : Except Fault (List Diagnostic) :=
  Scala.findings (outputLines streams)

end Output

end SourceCheck

import SourceCheck.Output.Position
import SourceCheck.Machine.Resolve
import SourceCheck.Text.Lines
import SourceCheck.Text.Scan

/-!
# TypeScript compiler blocks

The TypeScript compiler reports a finding as `path(line,column): severity TScode: message`.  Lines
that follow, indented by two spaces or more, continue its message; any other line ends it.
Findings of other files of the project are dropped together with their continuation.

* `TypeScriptHeader.ofLine?`: the parts of the first line.
* `TypeScriptReading.step`: one more line, given the findings so far.
* `Output.typeScript`: the findings of the checked file.
-/

namespace SourceCheck

open Text

/-- **The first line of a finding.** -/
structure TypeScriptHeader where
  path : List Char
  line : List Char
  column : List Char
  severity : String
  code : Option (List Char)
  message : List Char
  deriving Repr, DecidableEq

namespace TypeScriptHeader

/-- The words for a severity. -/
def severities : List String := ["error", "warning", "message"]

/-- A message behind white space, a colon and more white space, as far as they are there.  A colon
that nothing follows is itself the message. -/
def messageIn? (s : List Char) : Option (List Char) :=
  match trimLeft s with
  | [] => none
  | ':' :: rest => some (if trimLeft rest = [] then ':' :: rest else trimLeft rest)
  | s => some s

/-- A code `TS…` of at most `n` digits, as many as leave a message, and the message.  The code
gives up digits from its end when nothing else is left to say. -/
def codeOf? (digits rest : List Char) : Nat → Option (List Char × List Char)
  | 0 => none
  | n + 1 =>
    match messageIn? (digits.drop (n + 1) ++ rest) with
    | some message => some ('T' :: 'S' :: digits.take (n + 1), message)
    | none => codeOf? digits rest n

/-- The code, if there is one, and the message. -/
def codeAndMessage? (s : List Char) : Option (Option (List Char) × List Char) :=
  let s := trimLeft s
  let withCode := do
    let rest ← afterWord "TS" s
    let (digits, rest) ← digits? rest
    codeOf? digits rest digits.length
  match withCode with
  | some (code, message) => some (some code, message)
  | none => (messageIn? s).map fun message => (none, message)

/-- **The parts of a finding's first line**, if it is one.  The line has no white space at its
end. -/
def ofLine? (s : List Char) : Option TypeScriptHeader := do
  let (path, s) ← run? (· != '(') s
  let s ← afterWord "(" s
  let (line, s) ← digits? s
  let s ← afterWord "," s
  let (column, s) ← digits? s
  let s ← afterWord "):" s
  let (severity, s) ← oneOf severities (trimLeft s)
  let (code, message) ← codeAndMessage? s
  return ⟨path, line, column, severity, code, trim message⟩

end TypeScriptHeader

/-- **A finding**: its first line and the lines that continue its message. -/
structure TypeScriptBlock where
  header : TypeScriptHeader
  details : List (List Char)
  deriving Repr, DecidableEq

namespace TypeScriptBlock

/-- Texts with line feeds between them. -/
def joinLines : List (List Char) → List Char
  | [] => []
  | [l] => l
  | l :: ls => l ++ '\n' :: joinLines ls

/-- What the finding reports; a plain message is information. -/
def diagnostic (b : TypeScriptBlock) : Except Fault Diagnostic := do
  let line ← Position.ofDigits b.header.line
  let column ← Position.ofDigits b.header.column
  let word := if b.header.severity == "message" then "info" else b.header.severity
  return { line, column, severity := Severity.ofLabel word
           message := String.ofList (joinLines (b.header.message :: b.details))
           code := b.header.code.map String.ofList }

end TypeScriptBlock

/-- **The findings so far**, latest first, and whether the latest may still go on. -/
structure TypeScriptReading where
  blocks : List TypeScriptBlock
  continues : Bool
  deriving Repr, DecidableEq

namespace TypeScriptReading

/-- Whether a line can continue a message. -/
def isContinuation (l : List Char) : Bool := (afterWord "  " l).isSome && trim l != []

/-- **Reads one more line.** -/
def step (r : TypeScriptReading) (l : List Char) : TypeScriptReading :=
  match TypeScriptHeader.ofLine? l with
  | some header => ⟨⟨header, []⟩ :: r.blocks, true⟩
  | none =>
    match r.continues && isContinuation l, r.blocks with
    | true, b :: bs => ⟨{ b with details := b.details ++ [trim l] } :: bs, true⟩
    | _, bs => ⟨bs, false⟩

/-- **The findings of some lines**, in order. -/
def blocksOf (ls : List (List Char)) : List TypeScriptBlock :=
  (ls.foldl step ⟨[], false⟩).blocks.reverse

end TypeScriptReading

namespace Output

/-- **The findings of the TypeScript compiler for the checked file.** -/
def typeScript (m : Machine) (stdout stderr : String) (file root : Path) :
    Except Fault (List Diagnostic) := do
  let kept ← (TypeScriptReading.blocksOf (outputLines [stdout, stderr])).filterM fun b =>
    m.sameFile (some (String.ofList b.header.path)) file root
  kept.mapM TypeScriptBlock.diagnostic

end Output

end SourceCheck

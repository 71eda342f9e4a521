import SourceCheck.Output.Position
import SourceCheck.Machine.Resolve
import SourceCheck.Json.Reader

/-!
# Pyright reports

Pyright prints one JSON document with an array `generalDiagnostics`; its lines and characters are
counted from zero.  Text in front of the document is skipped.  Whatever has an unexpected shape is
read as if it were not there.

* `Json.inOutput?`: the document in a tool's output.
* `Output.pyright`: the findings of the checked file.
-/

namespace SourceCheck

open Text

namespace Json

/-- A reading failure that is not the document's shape. -/
def ofRead (r : Except ReadError Json) : Except Fault (Option Json) :=
  match r with
  | .ok v => .ok (some v)
  | .error .malformed => .ok none
  | .error (.tooManyDigits n) => .error (.tooManyDigits n)
  | .error (.tooDeep isObject) => .error (.nestedTooDeeply isObject)
  | .error .unfollowed => .error .unfollowed

/-- **The document in a tool's output**: the whole text without outer white space, or, if that is
no document, the part from the first brace on. -/
def inOutput? (d : Dialect) (output : String) : Except Fault (Option Json) := do
  let text := trim output.toList
  if text = [] then return none
  match ← ofRead (readChars d text) with
  | some v => return some v
  | none =>
    let rest := text.dropWhile (· != '\x7b')
    if rest = [] || rest = text then return none
    ofRead (readChars d rest)

/-- The members of an object; any other value has none. -/
def membersOf : Option Json → Members
  | some (object ms) => ms
  | _ => []

/-- The objects among the items of an array; any other value has none. -/
def objectsIn : Option Json → List Members
  | some (array items) => items.filterMap fun
    | object ms => some ms
    | _ => none
  | _ => []

/-- A text, if the value is one. -/
def text? : Option Json → Option String
  | some (string s) => some s
  | _ => none

end Json

namespace Pyright

/-- Pyright's words for a severity. -/
def vocabulary : List (String × Severity) := [
  ("error", .error), ("warning", .warning), ("information", .info), ("hint", .info)]

/-- The severity that a value names; anything unknown is an error. -/
def severityOf (vocabulary : List (String × Severity)) (fallback : Severity) :
    Option Json → Severity
  | some (.string s) => Severity.ofVocabulary vocabulary fallback s
  | _ => fallback

/-- The finding that an entry reports. -/
def diagnostic (entry : Json.Members) : Except Fault Diagnostic := do
  let start := Json.membersOf ((Json.membersOf (entry.get? "range")).get? "start")
  let line ← Position.ofValue 1 ((start.get? "line").getD .null)
  let column ← Position.ofValue 1 ((start.get? "character").getD .null)
  return { line, column, severity := severityOf vocabulary .error (entry.get? "severity")
           message := (Json.text? (entry.get? "message")).getD ""
           code := Json.text? (entry.get? "rule") }

/-- The findings of some entries that designate the checked file, in order. -/
def findings (m : Machine) (file root : Path) : List Json.Members → Except Fault (List Diagnostic)
  | [] => .ok []
  | entry :: rest => do
    if ← m.sameFile (Json.text? (entry.get? "file")) file root then
      let d ← diagnostic entry
      let ds ← findings m file root rest
      return d :: ds
    else findings m file root rest

end Pyright

namespace Output

/-- **The findings of Pyright for the checked file.** -/
def pyright (m : Machine) (stdout : String) (file root : Path) :
    Except Fault (List Diagnostic) := do
  let document ← Json.inOutput? (.file m.nesting .unfollowed) stdout
  Pyright.findings m file root
    (Json.objectsIn ((Json.membersOf document).get? "generalDiagnostics"))

end Output

end SourceCheck

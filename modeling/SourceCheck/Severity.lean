import SourceCheck.Text.Blank
import SourceCheck.Text.Lower

/-!
# Severities

Tools have many words for how bad a finding is; here there are three.  A word is looked up without
regard to case and outer white space; a word that nobody knows is an error, so that a strange
finding is loud.

* `Severity.ofLabel`: the severity of a word.
* `Severity.ofVocabulary`: the same with a tool's own words and fallback.
-/

namespace SourceCheck

/-- **How bad a finding is.** -/
inductive Severity
  | error
  | warning
  | info
  deriving Repr, DecidableEq

namespace Severity

/-- The severity's own word. -/
def word : Severity → String
  | error => "error"
  | warning => "warning"
  | info => "info"

/-- The words of the tools. -/
def vocabulary : List (String × Severity) := [
  ("error", error), ("err", error), ("fatal", error), ("fatal error", error),
  ("warning", warning), ("warn", warning),
  ("info", info), ("information", info), ("note", info), ("hint", info), ("help", info)]

/-- A word as it is looked up: in lower case, without outer white space. -/
def normal (label : String) : String := String.ofList (Text.lower (Text.trim label.toList))

/-- **The severity of a word in a given vocabulary.** -/
def ofVocabulary (vocabulary : List (String × Severity)) (fallback : Severity)
    (label : String) : Severity :=
  ((vocabulary.find? fun e => e.1 == normal label).map (·.2)).getD fallback

/-- **The severity of a tool's word.** -/
def ofLabel (label : String) : Severity := ofVocabulary vocabulary error label

end Severity

end SourceCheck

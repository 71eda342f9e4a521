import SourceCheck.Settings.Basic

/-!
# What can be wrong with a settings document

A document may hold values of the wrong kind, or no object at all.  That is told by problems, each
with its words and with the key that it is about.

* `SettingsProblem`: what can be wrong.
* `SettingsRefusal`: why a document gives no settings.
-/

namespace SourceCheck

/-- **What can be wrong with a settings document.** -/
inductive SettingsProblem
  /-- The document is no object. -/
  | notAnObject
  /-- A language's switch has a value that is no truth value. -/
  | flagNotBoolean (key : String) (value : Json)
  /-- The global switch is a whole number or a word that stands for no truth value. -/
  | switchUnreadable
  /-- The global switch is of a kind that never stands for a truth value. -/
  | switchNotBoolean
  /-- The deadline is a text that is no numeral. -/
  | timeoutUnreadable
  /-- The deadline is of a kind that is no number, or a whole number beyond all range. -/
  | timeoutNotNumber
  /-- The deadline is not greater than zero. -/
  | timeoutNotPositive
  deriving Repr

namespace SettingsProblem

/-- **The words for a problem.** -/
def message : SettingsProblem → String
  | notAnObject => "Input should be a valid dictionary or instance of Settings"
  | flagNotBoolean key value =>
    "Value error, '" ++ key ++ "' must be a boolean, got " ++ value.inspect
  | switchUnreadable => "Input should be a valid boolean, unable to interpret input"
  | switchNotBoolean => "Input should be a valid boolean"
  | timeoutUnreadable => "Input should be a valid number, unable to parse string as a number"
  | timeoutNotNumber => "Input should be a valid number"
  | timeoutNotPositive => "Input should be greater than 0"

/-- The key that a problem is about; none if it is about the whole document. -/
def key? : SettingsProblem → Option String
  | notAnObject | flagNotBoolean _ _ => none
  | switchUnreadable | switchNotBoolean => some Settings.switchKey
  | timeoutUnreadable | timeoutNotNumber | timeoutNotPositive => some Settings.timeoutKey

end SettingsProblem

/-- **Why a document gives no settings**: problems with its contents, or a failure while reading
it. -/
inductive SettingsRefusal
  | problems (ps : List SettingsProblem)
  | failed (fault : Fault)
  deriving Repr

end SourceCheck

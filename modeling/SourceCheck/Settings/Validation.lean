import SourceCheck.Library

/-!
# Reading settings from a document

The document is an object.  A key that goes on behind `disable` turns the switch of the language
with that flag, in the order of the document, on top of the flags listed under
`disabled_languages`; its value must be a truth value.  Then the global switch and the deadline are
read in the way that the library has for such values.  Other keys do not matter.

* `Settings.ofDocument`: the settings, or everything that is wrong with the document.
-/

namespace SourceCheck

open Number (Binary64)

namespace Settings

/-! ## 1. Flags -/

/-- Values that stand for nothing listed. -/
def isVoid : Json → Bool
  | .null | .bool false | .string "" | .array [] | .object [] => true
  | .int n => n == 0
  | .number x => x.isZero
  | _ => false

/-- **The flags that a value lists**: the items of an array, the keys of an object, the characters
of a text. -/
def listedFlags (value : Json) : Except Fault (List String) :=
  if isVoid value then .ok []
  else match value with
    | .array items => .ok (items.map Json.display)
    | .object ms => .ok (Table.keys ms)
    | .string s => .ok (s.toList.map fun c => String.ofList [c])
    | v => .error (.notACollection v.kindName)

/-- **The flag that a key turns**, if it is the key of a language's switch. -/
def flagOf? (key : String) : Option String :=
  if key == flagsKey || key == switchKey then none
  else if switchKey.toList.isPrefixOf key.toList then
    some (String.ofList (key.toList.drop switchKey.length))
  else none

/-- Turns a flag. -/
def turn (flags : FlagSet) (flag : String) (off : Bool) : FlagSet :=
  if off then flags.insert flag else flags.erase flag

/-- **Turns the flags that the members of a document name**, in order. -/
def turnFlags (flags : FlagSet) : Json.Members → Except SettingsProblem FlagSet
  | [] => .ok flags
  | (key, value) :: rest =>
    match flagOf? key with
    | none => turnFlags flags rest
    | some flag =>
      match value with
      | .bool off => turnFlags (turn flags flag off) rest
      | v => .error (.flagNotBoolean key v)

/-! ## 2. The global switch and the deadline -/

variable [Library]

/-- **The deadline that a value stands for.** -/
def readTimeout (value : Json) :
    Except SettingsProblem { x : Binary64 // x.isPositive = true } :=
  match Library.seconds value with
  | .error p => .error p
  | .ok x => if h : x.isPositive = true then .ok ⟨x, h⟩ else .error .timeoutNotPositive

/-- The global switch of a document; it is off if the document does not say. -/
def switchIn (ms : Json.Members) : Except SettingsProblem Bool :=
  match Table.get? ms switchKey with
  | some v => Library.truthValue v
  | none => .ok false

/-- The deadline of a document, or the default one. -/
def timeoutIn (ms : Json.Members) :
    Except SettingsProblem { x : Binary64 // x.isPositive = true } :=
  match Table.get? ms timeoutKey with
  | some v => readTimeout v
  | none => .ok ⟨default.timeout, default.timeout_positive⟩

/-! ## 3. The whole document -/

/-- The settings with given flags, or the problems of the other members in order. -/
def ofFields (flags : FlagSet) (ms : Json.Members) : Except SettingsRefusal Settings :=
  match switchIn ms, timeoutIn ms with
  | .ok disable, .ok ⟨timeout, h⟩ => .ok ⟨disable, flags, timeout, h⟩
  | .error p, .ok _ => .error (.problems [p])
  | .ok _, .error q => .error (.problems [q])
  | .error p, .error q => .error (.problems [p, q])

/-- The settings of an object. -/
def ofMembers (ms : Json.Members) : Except SettingsRefusal Settings :=
  match listedFlags ((Table.get? ms flagsKey).getD .null) with
  | .error f => .error (.failed f)
  | .ok listed =>
    match turnFlags (.ofList listed) ms with
    | .error p => .error (.problems [p])
    | .ok flags => ofFields flags ms

/-- **The settings that a document stands for**, or what is wrong with it. -/
def ofDocument : Json → Except SettingsRefusal Settings
  | .object ms => ofMembers ms
  | _ => .error (.problems [.notAnObject])

end Settings

end SourceCheck

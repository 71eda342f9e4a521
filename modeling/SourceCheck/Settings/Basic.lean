import SourceCheck.Settings.FlagSet
import SourceCheck.Json.Value
import SourceCheck.Language

/-!
# Settings

The settings hold a global switch, the flags of the languages that are switched off, and the
deadline for a tool in seconds.  A flag designates a language whatever its letter case.

* `Settings.isDisabled`: whether a language is switched off.
* `Settings.switch`: one switch turned.
* `Settings.document`: the flat document that stands for the settings.
-/

namespace SourceCheck

open Number (Binary64)

/-- Thirty seconds. -/
def defaultTimeout : Binary64 := .finite false (30 * Nat.pow 2 48) (-48)

/-- **The switches and the deadline.** -/
structure Settings where
  /-- Whether all checking is switched off. -/
  disable : Bool
  /-- The flags of the languages that are switched off. -/
  flags : FlagSet
  /-- How many seconds a tool may take. -/
  timeout : Binary64
  timeout_positive : timeout.isPositive = true
  deriving DecidableEq, Repr

/-- **What a switch is for**: all checking, or one language. -/
inductive Switch
  | all
  | language (l : Language)
  deriving DecidableEq, Repr

namespace Settings

/-- Everything is checked, with the default deadline. -/
def default : Settings := ⟨false, .empty, defaultTimeout, by decide⟩

instance : Inhabited Settings := ⟨default⟩

/-- Whether two flags designate the same language. -/
def sameFlag (a b : String) : Bool := Text.lowered a == Text.lowered b

/-- **Whether a language is switched off**, by itself or together with all others. -/
def isDisabled (s : Settings) (l : Language) : Bool :=
  s.disable || s.flags.toList.any fun f => sameFlag f l.flag

/-- **Turns a switch.**  Whatever spelling of a language's flag was there gives way to its own. -/
def switch (s : Settings) (target : Switch) (enabled : Bool) : Settings :=
  match target with
  | .all => { s with disable := !enabled }
  | .language l =>
    let others := s.flags.filter fun f => !sameFlag f l.flag
    { s with flags := if enabled then others else others.insert l.flag }

/-! ## 1. The document -/

/-- The key of the global switch, and what the key of a language's switch starts with. -/
def switchKey : String := "disable"

/-- The key of a list of flags. -/
def flagsKey : String := "disabled_languages"

/-- The key of the deadline. -/
def timeoutKey : String := "timeout"

/-- The key of a language's switch. -/
def keyOf (flag : String) : String := switchKey ++ flag

/-- **The flat document of the settings**: the global switch, a key for each flag, the
deadline. -/
def document (s : Settings) : Json.Members :=
  Table.put timeoutKey (.number s.timeout)
    (s.flags.toList.foldl (fun ms f => Table.put (keyOf f) (.bool true) ms)
      [(switchKey, .bool s.disable)])

/-! ## 2. Small facts -/

@[simp] theorem timeout_switch (s : Settings) (target : Switch) (enabled : Bool) :
    (s.switch target enabled).timeout = s.timeout := by
  cases target <;> rfl

@[simp] theorem disable_switch_all (s : Settings) (enabled : Bool) :
    (s.switch .all enabled).disable = !enabled := rfl

@[simp] theorem disable_switch_language (s : Settings) (l : Language) (enabled : Bool) :
    (s.switch (.language l) enabled).disable = s.disable := rfl

@[simp] theorem flags_switch_all (s : Settings) (enabled : Bool) :
    (s.switch .all enabled).flags = s.flags := rfl

/-- What turning a language's switch does to the flags. -/
theorem mem_flags_switch_language {s : Settings} {l : Language} {enabled : Bool} {f : String} :
    f ∈ (s.switch (.language l) enabled).flags ↔
      (enabled = false ∧ f = l.flag) ∨ (f ∈ s.flags ∧ sameFlag f l.flag = false) := by
  cases enabled <;> simp [switch]

end Settings

end SourceCheck

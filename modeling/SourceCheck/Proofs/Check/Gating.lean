import SourceCheck.CommandLine.Run
import SourceCheck.Proofs.Check.Ending

/-!
# Files of languages that are switched off

A check asks for the switch of the file's language before it does anything, and it is the only step
that ends with the status for it.  So this status is the answer of the settings, in whatever
surroundings the check is made and whatever else may go wrong in it.

* `Engine.check_disabled_iff`: when the check of a file says that its language is switched off.
* `CommandLine.checkFile_disabled_iff`: the same with settings read from their file.
-/

namespace SourceCheck

variable {τ : Type}

/-! ## 1. The status for switched off languages -/

namespace Engine

open Traced

variable {e : Engine τ} {l : Language} {file argument : Path} {given : Option Path} {w : World τ}
  {t : Trace}

/-- **The check of a file says that its language is switched off** exactly if the settings do. -/
theorem check_disabled_iff (hfile : locate w.machine argument = .ok file)
    (hl : e.registry.resolve file = some l) :
    (∃ r w' t', (e.check argument given).runIn w t = (.ok r, w', t') ∧ r.status = .disabled) ↔
      e.settings.isDisabled l = true := by
  rw [runIn_check hfile, hl]
  dsimp only
  by_cases hoff : e.settings.isDisabled l = true
  · rw [if_pos hoff]
    exact iff_of_true ⟨_, _, _, rfl, rfl⟩ hoff
  · rw [if_neg hoff]
    refine iff_of_false ?_ hoff
    rintro ⟨r, w', t', hrun, hstatus⟩
    exact (gives_checkAs w t r (congrArg Prod.fst hrun)).status_ne_disabled hstatus

end Engine

/-! ## 2. With the settings of the file -/

namespace CommandLine

open Traced

variable {w : World τ} {t : Trace} {s : Settings} {logs : List LogRecord} {file : Path}
  {l : Language}

/-- Settings that are loaded are all that is left, but for what is logged about their file. -/
theorem runIn_loadSettings [Library] (h : Settings.load w.machine none = .ok (s, logs)) :
    (loadSettings : Traced τ Settings).runIn w t = (.ok s, w, t.withLogs logs) := by
  rw [loadSettings, runIn_bind, runIn_ask, h]
  rfl

/-- **A file is reported as switched off** exactly if the settings file switches its language
off. -/
theorem checkFile_disabled_iff [Library] {setting : Setting τ}
    (h : Settings.load w.machine none = .ok (s, []))
    (hfile : w.machine.resolve file = .ok file) (hl : Builtin.registry.resolve file = some l) :
    (∃ r w' t, (checkFile setting file).runIn w .empty = (.ok r, w', t) ∧ r.status = .disabled) ↔
      s.isDisabled l = true := by
  have hlocate : Engine.locate w.machine file = .ok file := by
    rw [Engine.locate, Machine.expandHome_absolute (Machine.isAbsolute_of_resolve hfile)]
    exact hfile
  have hengine : (engine setting).runIn w .empty =
      (.ok ⟨s, Builtin.registry, Builtin.backendOf, setting.runner, setting.scratch⟩, w, .empty) := by
    rw [engine, runIn_bind, runIn_loadSettings h]
    rfl
  rw [checkFile, runIn_bind, hengine]
  exact Engine.check_disabled_iff hlocate hl

end CommandLine

end SourceCheck

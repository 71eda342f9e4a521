import SourceCheck.Proofs.Check.Gating
import SourceCheck.Proofs.CommandLine.Turning
import SourceCheck.Proofs.Registry.LoweredSuffix
import SourceCheck.Proofs.Settings.Keeping

/-!
# Sequences of commands that enable and disable

Each command reads the settings file, turns a switch and writes the file again, and a check reads it
once more.  On a machine where the file can be written, the settings that a check finds are
therefore those that the commands so far make of the default ones.

* `SwitchCommand.runIn_of_unknown`, `runIn_of_switch`: what one command does to the world.
* `stands_worldAfter`: what stands in the settings file after any commands.
* `disabled_after_commands`: the files that are reported as switched off.
-/

namespace SourceCheck

open FileAction

variable {τ : Type}

/-! ## 1. Actions on files -/

namespace Action

variable {α : Type}

/-- **What is done to the machine** comes to what it comes to on the machine. -/
theorem outcome_act (a : FileAction α) (w : World τ) :
    (act a).outcome w = (on a w.machine).1 := by
  rw [act, outcome_bind, outcome_get, on]
  dsimp only [Except.bind]
  rcases a.run.run w.machine with ⟨r, m⟩
  cases r <;> rfl

/-- It changes the machine and nothing else. -/
theorem final_act (a : FileAction α) (w : World τ) :
    (act a).final w = { w with machine := (on a w.machine).2 } := by
  rw [act, final_bind (outcome_get w), on]
  rcases a.run.run w.machine with ⟨r, m⟩
  cases r <;> rfl

end Action

namespace CommandLine

open Traced

variable {w : World τ} {m : Machine} {file : Path} {s : Settings} {c : SwitchCommand τ}
  {cs : List (SwitchCommand τ)} {l : Language}

/-! ## 2. One command -/

/-- What a command asks for. -/
def SwitchCommand.invocation (c : SwitchCommand τ) : Invocation :=
  if c.enabled then .enable c.language else .disable c.language

/-- **What a command gives**, and the world and the trace that it leaves. -/
def SwitchCommand.runIn [Library] (c : SwitchCommand τ) (w : World τ) :
    Except Fault Outcome × World τ × Trace :=
  (run c.setting c.invocation).runIn w .empty

/-- Both commands are one, told which way to turn. -/
theorem SwitchCommand.perform_invocation [Library] (c : SwitchCommand τ) (s : Setting τ) :
    (perform s c.invocation : Traced τ Outcome) = toggle s c.language c.enabled := by
  rw [SwitchCommand.invocation]
  cases c.enabled <;> rfl

/-- What a command finds around it; a terminal that shows no styles is like no terminal. -/
def SwitchCommand.settingIn (c : SwitchCommand τ) (w : World τ) : Setting τ :=
  { c.setting with terminal := c.setting.terminal &&
      Console.showsStyles (w.machine.environmentValue? Console.kindVariable) }

theorem SwitchCommand.runIn_eq [Library] (c : SwitchCommand τ) (w : World τ) :
    c.runIn w = (toggle (c.settingIn w) c.language c.enabled).runIn w .empty := by
  rw [SwitchCommand.runIn, run, runIn_bind, runIn_get]
  dsimp only
  rw [SwitchCommand.perform_invocation]
  rfl

/-- **A command whose text names no switch** fails and changes nothing. -/
theorem SwitchCommand.runIn_of_unknown [Library]
    (h : switchOf? Builtin.registry c.language = none) (w : World τ) :
    c.runIn w =
      (.ok (.failure (c.settingIn w) (unknownLanguage Builtin.registry c.language)), w, .empty) := by
  rw [c.runIn_eq, toggle, h]
  rfl

/-- **A command whose text names a switch** turns it in the settings file. -/
theorem SwitchCommand.runIn_of_switch [Library] {target : Switch} {m' : Machine}
    {logs : List LogRecord}
    (h : switchOf? Builtin.registry c.language = some target)
    (hload : Settings.load w.machine none = .ok (s, logs))
    (hsave : on (Settings.save (s.switch target c.enabled) none) w.machine = (.ok file, m')) :
    ∃ o, c.runIn w = (.ok o, { w with machine := m' }, Trace.empty.withLogs logs) ∧
      o.exitCode = 0 := by
  rw [c.runIn_eq, toggle, h]
  dsimp only
  rw [runIn_bind, runIn_loadSettings hload]
  dsimp only
  rw [runIn_bind, saveSettings, runIn_bind, runIn_attempt, Action.outcome_act, Action.final_act,
    hsave]
  exact ⟨_, rfl, rfl⟩

/-! ## 3. Many commands -/

/-- **The world after some commands.** -/
def worldAfter [Library] (w : World τ) (cs : List (SwitchCommand τ)) : World τ :=
  cs.foldl (fun w c => (SwitchCommand.runIn c w).2.1) w

theorem worldAfter_append_singleton [Library] (w : World τ) (cs : List (SwitchCommand τ))
    (c : SwitchCommand τ) :
    worldAfter w (cs ++ [c]) = (c.runIn (worldAfter w cs)).2.1 := by
  rw [worldAfter, List.foldl_append, List.foldl_cons, List.foldl_nil, worldAfter]

/-- **A machine where settings can be written** and where there are none yet. -/
structure Writable (τ : Type) (m : Machine) (file : Path) : Prop
    extends Settings.Vacant m none file where
  /-- There is room for whatever the commands write. -/
  room : ∀ cs : List (SwitchCommand τ), m.HasRoom (settingsAfter cs).fileBytes

theorem readChars_timeout (room : Depth) (cs : List (SwitchCommand τ)) :
    Json.readChars (.file room .unfollowed) (Json.writeNumber (settingsAfter cs).timeout) =
      .ok (.number (settingsAfter cs).timeout) := by
  rw [timeout_settingsAfter]
  rfl

/-- One more command leaves the settings that it makes of the earlier ones. -/
theorem stands_step [Library]
    (hstands : Settings.Stands w.machine none file (settingsAfter cs))
    (hroom : w.machine.HasRoom (settingsAfter (cs ++ [c])).fileBytes) :
    Settings.Stands (c.runIn w).2.1.machine none file (settingsAfter (cs ++ [c])) ∧
      ∀ bytes, (c.runIn w).2.1.machine.HasRoom bytes ↔ w.machine.HasRoom bytes := by
  have hload := hstands.load (readChars_timeout _ cs) (expressible_settingsAfter cs)
  rw [settingsAfter_append_singleton, SwitchCommand.turned] at hroom ⊢
  cases h : switchOf? Builtin.registry c.language with
  | none =>
    rw [SwitchCommand.runIn_of_unknown h w]
    exact ⟨hstands, fun _ => Iff.rfl⟩
  | some target =>
    rw [h] at hroom
    obtain ⟨m', hsave, hstands'⟩ := hstands.save hroom
    obtain ⟨o, hrun, -⟩ := SwitchCommand.runIn_of_switch h hload hsave
    rw [hrun]
    exact ⟨hstands', fun _ => Settings.hasRoom_of_save hsave⟩

/-- **After any commands**, what they make of the default settings stands in the settings file. -/
theorem stands_worldAfter [Library] (hw : Writable τ w.machine file)
    (cs : List (SwitchCommand τ)) :
    Settings.Stands (worldAfter w cs).machine none file (settingsAfter cs) ∧
      ∀ bytes, (worldAfter w cs).machine.HasRoom bytes ↔ w.machine.HasRoom bytes := by
  induction cs using List.reverseRecOn with
  | nil => exact ⟨.inl ⟨hw.toVacant, rfl⟩, fun _ => Iff.rfl⟩
  | append_singleton cs c ih =>
    obtain ⟨hstands, hroom⟩ := ih
    obtain ⟨hstands', hroom'⟩ := stands_step hstands ((hroom _).mpr (hw.room (cs ++ [c])))
    rw [worldAfter_append_singleton]
    exact ⟨hstands', fun bytes => (hroom' bytes).trans (hroom bytes)⟩

theorem load_worldAfter [Library] (hw : Writable τ w.machine file) (cs : List (SwitchCommand τ)) :
    Settings.load (worldAfter w cs).machine none = .ok (settingsAfter cs, []) :=
  (stands_worldAfter hw cs).1.load (readChars_timeout _ cs) (expressible_settingsAfter cs)

/-! ## 4. What is switched off in the end -/

/-- **What commands switch off.**  The commands start where there is no settings file and one can be
written.  After them a file of a language is reported as switched off exactly if the last command
about all languages disables, or the last one about its language does.  A command that names neither
all languages nor a known one fails and changes nothing, wherever it is given. -/
theorem disabled_after_commands [Library] {settingsFile : Path}
    (hw : Writable τ w.machine settingsFile) (cs : List (SwitchCommand τ)) :
    (∀ (setting : Setting τ) file l, (worldAfter w cs).machine.resolve file = .ok file →
      Builtin.registry.resolve file = some l →
      ((∃ r w' t, (checkFile setting file).runIn (worldAfter w cs) .empty = (.ok r, w', t) ∧
          r.status = .disabled) ↔
        LastDisables (fun c => Spells c.language allLanguages) cs ∨
          LastDisables (fun c => Designates c.language l) cs)) ∧
    ∀ (c : SwitchCommand τ) (w : World τ), ¬ Spells c.language allLanguages →
      (∀ l ∈ Builtin.registry.languages, ¬ Designates c.language l) →
      ∃ o, c.runIn w = (.ok o, w, .empty) ∧ o.exitCode = 1 := by
  constructor
  · intro setting file l hfile hl
    rw [checkFile_disabled_iff (load_worldAfter hw cs) hfile hl]
    exact isDisabled_settingsAfter_iff (Builtin.wellKept_registry.mem_languages_of_resolve hl)
  · intro c w hall hnone
    exact ⟨_, SwitchCommand.runIn_of_unknown (switchOf?_none_iff.mpr ⟨hall, hnone⟩) w, rfl⟩

/-- A world with one file and a place for the settings. -/
def goWorld : World Unit :=
  ⟨{ files := ⟨[(["a.go"], .file 0o644 [])]⟩
     environment := [(Settings.locationVariable, "/config.json")] }, ()⟩

/-- No input, and no terminal. -/
def plainSetting : Setting Unit := { stdin := "", terminal := false }

/-- One language disabled, then a text that names none. -/
def goCommands : List (SwitchCommand Unit) :=
  [⟨plainSetting, " GO ", false⟩, ⟨plainSetting, "gopher", true⟩]

theorem resolve_go :
    Builtin.registry.resolve (Path.ofString "/a.go") = some Builtin.go.language :=
  Builtin.resolve_of_suffix (by decide)

theorem disabled_after_commands_go :
    Writable Unit goWorld.machine (Path.ofString "/config.json") ∧
    ∃ r w' t, (checkFile plainSetting (Path.ofString "/a.go")).runIn
        (worldAfter goWorld goCommands) .empty = (.ok r, w', t) ∧ r.status = .disabled := by
  have hw : Writable Unit goWorld.machine (Path.ofString "/config.json") :=
    { location := by decide
      absent := by decide
      makeable := ⟨goWorld.machine, ["config.json"], Prod.ext (by decide) (by decide),
        by decide, (by decide : goWorld.machine.files.isWritable [] = true)⟩
      room := fun _ => nofun }
  have hfile : (worldAfter goWorld goCommands).machine.resolve (Path.ofString "/a.go") =
      .ok (Path.ofString "/a.go") := by
    decide
  have hmem := Builtin.wellKept_registry.mem_languages_of_resolve resolve_go
  have hnamed : Designates " GO " Builtin.go.language :=
    (designates_iff hmem).mpr (by decide)
  have hother : ¬ Designates "gopher" Builtin.go.language :=
    mt (designates_iff hmem).mp (by decide)
  have hlast : LastDisables (fun c => Designates c.language Builtin.go.language) goCommands := by
    refine ⟨[], _, _, rfl, hnamed, rfl, fun c hc => ?_⟩
    rw [List.mem_singleton.mp hc]
    exact hother
  exact ⟨hw,
    ((disabled_after_commands hw goCommands).1 plainSetting _ _ hfile resolve_go).mpr (.inr hlast)⟩

end CommandLine

end SourceCheck

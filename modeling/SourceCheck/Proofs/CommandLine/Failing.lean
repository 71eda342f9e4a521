import SourceCheck.Proofs.CommandLine.Switches
import SourceCheck.Proofs.Machine.Growing

/-!
# Commands that fail to turn a switch

A command that enables or disables writes the settings file last, so whatever fails before that
leaves the file as it is: a text that names no switch, a directory that cannot be made, a file that
cannot be opened.  The file itself is not replaced but emptied and filled again.  So a command that
runs out of room while it writes leaves the beginning of the new text, and what was in the file is
lost.

* `Settings.save_cases`: what saving comes to.
* `SwitchCommand.runIn_of_unwritable`: the command whose settings cannot be saved.
* `failing_commands`: what a command that fails says, and what it leaves.
* `exists_settings_lost`: the settings that are lost.
-/

namespace SourceCheck

open FileAction

variable {τ : Type}

/-! ## 1. Saving that fails -/

namespace Settings

variable {m : Machine} {explicit : Option Path} {file : Path} {s : Settings}

/-- **What saving leaves when it fails**: directories were made, and the file is untouched, or it
was cut short. -/
inductive Unsaved (m : Machine) (file : Path) (bytes : List UInt8) (m' : Machine) : Prop
  | untouched (h : m.Grown file.parent m')
  | cutShort (m₁ : Machine) (h : m.Grown file.parent m₁) (hcut : m₁.CutShort file bytes m')

/-- **What saving comes to**: it succeeds, or it fails with a cause that names the file. -/
theorem save_cases (hlocation : location m explicit = .ok file) (hnull : file.hasNull = false) :
    ∃ m', on (save s explicit) m = (.ok file, m') ∨
      ∃ cause, on (save s explicit) m = (.error (.settingsUnwritable file.text cause), m') ∧
        Unsaved m file s.fileBytes m' := by
  have hparent : file.parent.hasNull = false := by
    rw [Path.parent, List.dropLast_eq_take]
    exact Machine.hasNull_take hnull _
  obtain ⟨hgrown, hrefused⟩ := Machine.growsOn_makeDirectories hparent m
  simp only [save, on_bind, on_get, hlocation, on_tryCatch]
  rcases hmade : on (Machine.makeDirectories file.parent) m with ⟨r, m₁⟩
  rw [hmade] at hgrown hrefused
  cases r with
  | error f =>
    have hf := hrefused f rfl
    cases f with
    | system e path => exact ⟨m₁, .inr ⟨_, rfl, .untouched hgrown⟩⟩
    | _ => cases hf
  | ok _ =>
    dsimp only
    rcases hwritten : on (Machine.writeBytes file s.fileBytes) m₁ with ⟨r, m₂⟩
    rw [fileBytes] at hwritten
    rw [hwritten]
    cases r with
    | ok _ => exact ⟨m₂, .inl rfl⟩
    | error f =>
      rcases Machine.writeBytes_fails hnull hwritten with ⟨hf, rfl⟩ | ⟨rfl, hcut⟩
      · cases f with
        | system e path => exact ⟨m₂, .inr ⟨_, rfl, .untouched hgrown⟩⟩
        | _ => cases hf
      · exact ⟨m₂, .inr ⟨_, rfl, .cutShort m₁ hgrown hcut⟩⟩

/-- The settings file is never empty. -/
theorem fileBytes_length_pos (s : Settings) : 0 < s.fileBytes.length := by
  rw [List.length_pos_iff]
  intro hempty
  have hdecoded : Text.Utf8.decode? s.fileBytes = some s.fileText.toList :=
    Text.Utf8.decode?_encode _
  rw [hempty] at hdecoded
  have hline := congrArg List.length (Option.some.inj hdecoded)
  rw [fileText, String.toList_append, List.length_append] at hline
  exact absurd hline (by simp)

/-- **Saving without room** cuts the file short, if the directories above it are there and it may be
written. -/
theorem on_save_of_long {l : Location} {e : Option Entry} {limit : Nat}
    (hlocation : location m explicit = .ok file) (hparent : m.isDirectory? file.parent = .ok true)
    (hfind : m.find file true = .ok ⟨l, e⟩) (hwritable : m.Writable l e)
    (hlimit : m.fileLimit = some limit) (hlong : limit < s.fileBytes.length) :
    on (save s explicit) m =
      (.error (.settingsUnwritable file.text Fault.fileTooLarge.message),
        { m with files := m.files.put l (.file (Machine.modeOver e) (s.fileBytes.take limit)) }) := by
  have hwritten : on (Machine.writeBytes file s.fileBytes) m = (.error .fileTooLarge,
      { m with files := m.files.put l (.file (Machine.modeOver e) (s.fileBytes.take limit)) }) := by
    rw [Machine.on_writeBytes_of_find hfind hwritable]
    exact Machine.on_fill_of_long hlimit hlong
  simp only [save, on_bind, on_get, hlocation, on_tryCatch,
    Machine.on_makeDirectories_of_isDirectory? hparent]
  rw [fileBytes] at hwritten
  rw [hwritten]
  rfl

end Settings

namespace CommandLine

open Traced

variable {w : World τ} {file : Path} {s : Settings} {c : SwitchCommand τ} {logs : List LogRecord}

/-! ## 2. Commands that fail -/

/-- **A command whose settings cannot be saved** says so. -/
theorem SwitchCommand.runIn_of_unwritable [Library] {target : Switch} {m' : Machine}
    {path cause : String} (h : switchOf? Builtin.registry c.language = some target)
    (hload : Settings.load w.machine none = .ok (s, logs))
    (hsave : on (Settings.save (s.switch target c.enabled) none) w.machine =
      (.error (.settingsUnwritable path cause), m')) :
    c.runIn w = (.ok (.failure (c.settingIn w) (Fault.settingsUnwritable path cause).message),
      { w with machine := m' }, Trace.empty.withLogs logs) := by
  rw [c.runIn_eq, toggle, h]
  dsimp only
  rw [runIn_bind, runIn_loadSettings hload]
  dsimp only
  rw [runIn_bind, saveSettings, runIn_bind, runIn_attempt, Action.outcome_act, Action.final_act,
    hsave]
  rfl

/-- **A command for which there are no settings** is broken off. -/
theorem SwitchCommand.runIn_of_load_fails [Library] {target : Switch} {f : Fault}
    (h : switchOf? Builtin.registry c.language = some target)
    (hload : Settings.load w.machine none = .error f) : c.runIn w = (.error f, w, .empty) := by
  rw [c.runIn_eq, toggle, h]
  dsimp only
  rw [runIn_bind, loadSettings, runIn_bind, runIn_ask, hload]

/-- **What a command that fails leaves.**  A text that names no switch changes nothing.  A command
whose text names one, where the settings can be loaded and their place does not hold the null
character (which no variable of the environment can), saves them or fails with exit code 1 and a
message that names the file.  If it fails, every entry of the machine is there still, and only
directories are new, where a beginning of the path above the file leads; or the file was opened for
the new text and has room for its beginning alone. -/
theorem failing_commands [Library] (c : SwitchCommand τ) (w : World τ) :
    (switchOf? Builtin.registry c.language = none → c.runIn w =
      (.ok (.failure (c.settingIn w) (unknownLanguage Builtin.registry c.language)), w, .empty)) ∧
    ∀ target file s logs, switchOf? Builtin.registry c.language = some target →
      Settings.location w.machine none = .ok file → file.hasNull = false →
      Settings.load w.machine none = .ok (s, logs) →
      ∃ o m', c.runIn w = (.ok o, { w with machine := m' }, Trace.empty.withLogs logs) ∧
        ((o.exitCode = 0 ∧
          on (Settings.save (s.switch target c.enabled) none) w.machine = (.ok file, m')) ∨
        ∃ cause, o = .failure (c.settingIn w) (Fault.settingsUnwritable file.text cause).message ∧
          ((w.machine.Grown file.parent m' ∧
            ∀ bytes, w.machine.readBytes file = .ok bytes → m'.readBytes file = .ok bytes) ∨
          ∃ m₁, w.machine.Grown file.parent m₁ ∧
            m₁.CutShort file (s.switch target c.enabled).fileBytes m')) := by
  refine ⟨fun h => SwitchCommand.runIn_of_unknown h w, ?_⟩
  intro target file s logs htarget hlocation hnull hload
  rcases Settings.save_cases (s := s.switch target c.enabled) hlocation hnull with
    ⟨m', hsave | ⟨cause, hsave, hleft⟩⟩
  · obtain ⟨o, hrun, hcode⟩ := SwitchCommand.runIn_of_switch htarget hload hsave
    exact ⟨o, m', hrun, .inl ⟨hcode, hsave⟩⟩
  · refine ⟨_, m', SwitchCommand.runIn_of_unwritable htarget hload hsave, .inr ⟨cause, rfl, ?_⟩⟩
    cases hleft with
    | untouched hgrown => exact .inl ⟨hgrown, fun bytes hread => hgrown.readBytes hread⟩
    | cutShort m₁ hgrown hcut => exact .inr ⟨m₁, hgrown, hcut⟩

/-- A world with a settings file. -/
def settingsWorld (mode : Nat) (limit : Option Nat) (text : String) : World Unit :=
  ⟨{ files := ⟨[(["config.json"], .file mode (Text.Utf8.encode text.toList))]⟩
     environment := [(Settings.locationVariable, "/config.json")]
     fileLimit := limit }, ()⟩

/-- A world in which the settings file may only be read. -/
def lockedWorld : World Unit := settingsWorld 0o444 none Settings.switchText

/-- A world without room for a settings file. -/
def fullWorld : World Unit := settingsWorld 0o644 (some 0) Settings.switchText

/-- The same with an empty file. -/
def emptiedWorld : World Unit := settingsWorld 0o644 (some 0) ""

/-- A world whose settings file breaks the reading off. -/
def brokenWorld : World Unit := settingsWorld 0o644 none Settings.listText

/-- Where the settings file is in these worlds. -/
def settingsFile : Path := Path.ofString "/config.json"

/-- One language enabled again. -/
def enableGo : SwitchCommand Unit := ⟨plainSetting, "go", true⟩

/-- All languages disabled. -/
def disableAll : SwitchCommand Unit := ⟨plainSetting, "all", false⟩

theorem switchOf?_go :
    switchOf? Builtin.registry "go" = some (.language Builtin.go.language) := by
  decide +kernel

theorem failing_commands_locked :
    switchOf? Builtin.registry "go" = some (.language Builtin.go.language) ∧
    Settings.location lockedWorld.machine none = .ok settingsFile ∧ settingsFile.hasNull = false ∧
    Settings.load lockedWorld.machine none = .ok (Settings.goOff, []) ∧
    ∃ o m', enableGo.runIn lockedWorld = (.ok o, { lockedWorld with machine := m' }, .empty) ∧
      o.exitCode = 1 ∧ m'.readBytes settingsFile = lockedWorld.machine.readBytes settingsFile := by
  have hlocation : Settings.location lockedWorld.machine none = .ok settingsFile := by decide
  have hnull : settingsFile.hasNull = false := by decide
  have hload : Settings.load lockedWorld.machine none = .ok (Settings.goOff, []) := by
    decide +kernel
  have hread : lockedWorld.machine.readBytes settingsFile =
      .ok (Text.Utf8.encode Settings.switchText.toList) := by
    decide
  have hrefused : (on (Settings.save (Settings.goOff.switch (.language Builtin.go.language) true)
      none) lockedWorld.machine).1.isOk = false := by
    decide
  refine ⟨switchOf?_go, hlocation, hnull, hload, ?_⟩
  obtain ⟨o, m', hrun, ⟨-, hsave⟩ | ⟨cause, rfl, ⟨-, hkept⟩ | ⟨m₁, hgrown, hcut⟩⟩⟩ :=
    (failing_commands enableGo lockedWorld).2 _ _ _ _ switchOf?_go hlocation hnull hload
  · rw [show enableGo.enabled = true from rfl] at hsave
    rw [hsave] at hrefused
    cases hrefused
  · exact ⟨_, m', hrun, rfl, (hkept _ hread).trans hread.symm⟩
  · obtain ⟨_, _, limit, -, -, hlimit, -⟩ := hcut
    rw [hgrown.rest] at hlimit
    cases hlimit

/-- **Settings that a failing command loses**, and settings that break a command off.  Without room
the command leaves an empty file, and the language that was switched off is checked again. -/
theorem exists_settings_lost :
    (Settings.load fullWorld.machine none = .ok (Settings.goOff, []) ∧
      (∃ o, disableAll.runIn fullWorld = (.ok o, emptiedWorld, .empty) ∧ o.exitCode = 1) ∧
      fullWorld.machine.readBytes settingsFile ≠ emptiedWorld.machine.readBytes settingsFile ∧
      Settings.load emptiedWorld.machine none =
        .ok (default, [Settings.ignored settingsFile (.malformed [])])) ∧
    ∃ f, enableGo.runIn brokenWorld = (.error f, brokenWorld, .empty) := by
  constructor
  · have hload : Settings.load fullWorld.machine none = .ok (Settings.goOff, []) := by
      decide +kernel
    have hfind : fullWorld.machine.find settingsFile true = .ok ⟨["config.json"],
        some (.file 0o644 (Text.Utf8.encode Settings.switchText.toList))⟩ := by
      decide
    have hsave : on (Settings.save (Settings.goOff.switch .all false) none) fullWorld.machine =
        (.error (.settingsUnwritable settingsFile.text Fault.fileTooLarge.message),
          emptiedWorld.machine) :=
      Settings.on_save_of_long (by decide) (by decide) hfind (by decide : _ = true) rfl
        (Settings.fileBytes_length_pos _)
    have hall : switchOf? Builtin.registry "all" = some .all := by decide +kernel
    exact ⟨hload, ⟨_, SwitchCommand.runIn_of_unwritable hall hload hsave, rfl⟩, by decide, by decide⟩
  · have hfails : (Settings.load brokenWorld.machine none).isOk = false := by decide +kernel
    cases hload : Settings.load brokenWorld.machine none with
    | ok r =>
      rw [hload] at hfails
      cases hfails
    | error f => exact ⟨f, SwitchCommand.runIn_of_load_fails switchOf?_go hload⟩

end CommandLine

end SourceCheck

import Mathlib.Data.List.Induction
import SourceCheck.Proofs.CommandLine.Naming
import SourceCheck.Proofs.Settings.Switching

/-!
# What commands make of the settings

Every command that enables or disables something turns one switch, or none if its text names none.
What a switch is in the end depends only on the last command that names it: a command for one
language leaves the others alone, and the global switch and the languages leave each other alone.

* `SwitchCommand.turned`, `settingsAfter`: the settings after one command, and after several.
* `LastDisables`: what the last command about something does.
* `isDisabled_settingsAfter_iff`: the languages that are switched off in the end.
-/

namespace SourceCheck

namespace CommandLine

open Settings

/-! ## 1. Commands that turn switches -/

/-- **A command that enables or disables** what a text names. -/
structure SwitchCommand (τ : Type) where
  setting : Setting τ
  language : String
  enabled : Bool

variable {τ : Type} {c : SwitchCommand τ} {cs : List (SwitchCommand τ)} {s : Settings}
  {l l' : Language}

/-- **The settings with the switch turned** that a command names, if it names one. -/
def SwitchCommand.turned (c : SwitchCommand τ) (s : Settings) : Settings :=
  match switchOf? Builtin.registry c.language with
  | none => s
  | some target => s.switch target c.enabled

/-- **The settings after some commands**, when there were none before. -/
def settingsAfter (cs : List (SwitchCommand τ)) : Settings :=
  cs.foldl (fun s c => SwitchCommand.turned c s) Settings.default

theorem settingsAfter_append_singleton (cs : List (SwitchCommand τ)) (c : SwitchCommand τ) :
    settingsAfter (cs ++ [c]) = c.turned (settingsAfter cs) := by
  rw [settingsAfter, List.foldl_append, List.foldl_cons, List.foldl_nil, settingsAfter]

/-- Languages with the same flag are the same. -/
theorem sameFlag_iff_eq (hl' : l' ∈ Builtin.registry.languages)
    (hl : l ∈ Builtin.registry.languages) : sameFlag l'.flag l.flag = true ↔ l' = l := by
  constructor
  · intro h
    refine eq_of_mem_identifiers hl' hl (i := Text.lowered l'.flag) ?_ ?_
    · simp [Language.identifiers]
    · simp [Language.identifiers, sameFlag_iff.mp h]
  · rintro rfl
    exact sameFlag_iff.mpr rfl

/-- **A command turns the global switch** if its text names it, and leaves it alone otherwise. -/
theorem disable_turned_iff : (c.turned s).disable = true ↔
    (Spells c.language allLanguages ∧ c.enabled = false) ∨
      (¬ Spells c.language allLanguages ∧ s.disable = true) := by
  rw [← switchOf?_all_iff, SwitchCommand.turned]
  rcases switchOf? Builtin.registry c.language with _ | _ | l'
  · simp
  · simp
  · simp

/-- **A command turns the switch of a language** if its text names the language, and leaves it alone
otherwise. -/
theorem holds_turned_iff (hl : l ∈ Builtin.registry.languages) : (c.turned s).Holds l ↔
    (Designates c.language l ∧ c.enabled = false) ∨
      (¬ Designates c.language l ∧ s.Holds l) := by
  have hnames : Designates c.language l ↔
      switchOf? Builtin.registry c.language = some (.language l) := by
    rw [switchOf?_language_iff, and_iff_right hl]
  rw [hnames, SwitchCommand.turned]
  rcases hswitch : switchOf? Builtin.registry c.language with _ | _ | l'
  · simp
  · simp [Holds]
  · have hl' : l' ∈ Builtin.registry.languages := (switchOf?_language_iff.mp hswitch).1
    by_cases hsame : l' = l
    · rw [holds_switch_of_same ((sameFlag_iff_eq hl' hl).mpr hsame)]
      simp [hsame]
    · rw [holds_switch_of_other (Bool.eq_false_iff.mpr (mt (sameFlag_iff_eq hl' hl).mp hsame))]
      simp [hsame]

/-! ## 2. The last command about something -/

variable {names : SwitchCommand τ → Prop}

/-- **The last command that names something disables it**, and there is such a command. -/
def LastDisables (names : SwitchCommand τ → Prop) (cs : List (SwitchCommand τ)) : Prop :=
  ∃ before c after, cs = before ++ c :: after ∧ names c ∧ c.enabled = false ∧
    ∀ c' ∈ after, ¬ names c'

theorem not_lastDisables_nil : ¬ LastDisables names [] := by
  rintro ⟨before, c, after, hcs, -⟩
  cases before <;> cases hcs

/-- One more command is the last one about something, or it does not matter. -/
theorem lastDisables_append_singleton : LastDisables names (cs ++ [c]) ↔
    (names c ∧ c.enabled = false) ∨ (¬ names c ∧ LastDisables names cs) := by
  constructor
  · rintro ⟨before, c', after, hcs, hnames, hoff, hafter⟩
    rcases List.eq_nil_or_concat after with rfl | ⟨after', c'', rfl⟩
    · obtain ⟨rfl, rfl⟩ := List.append_singleton_inj.mp hcs
      exact .inl ⟨hnames, hoff⟩
    · rw [List.concat_eq_append, ← List.cons_append, ← List.append_assoc] at hcs
      obtain ⟨rfl, rfl⟩ := List.append_singleton_inj.mp hcs
      simp only [List.concat_eq_append, List.mem_append, List.mem_singleton] at hafter
      exact .inr ⟨hafter c (.inr rfl), before, c', after', rfl, hnames, hoff,
        fun d hd => hafter d (.inl hd)⟩
  · rintro (⟨hnames, hoff⟩ | ⟨hnames, before, c', after, rfl, hnames', hoff, hafter⟩)
    · exact ⟨cs, c, [], rfl, hnames, hoff, nofun⟩
    · refine ⟨before, c', after ++ [c], by simp, hnames', hoff, fun d hd => ?_⟩
      rcases List.mem_append.mp hd with hd | hd
      · exact hafter d hd
      · rw [List.mem_singleton.mp hd]
        exact hnames

/-- What every command turns or leaves alone is in the end as the last command about it says. -/
theorem settingsAfter_iff (off : Settings → Prop) (hdefault : ¬ off Settings.default)
    (hturned : ∀ s c, off (c.turned s) ↔ (names c ∧ c.enabled = false) ∨ (¬ names c ∧ off s))
    (cs : List (SwitchCommand τ)) : off (settingsAfter cs) ↔ LastDisables names cs := by
  induction cs using List.reverseRecOn with
  | nil => exact iff_of_false hdefault not_lastDisables_nil
  | append_singleton cs c ih =>
    rw [settingsAfter_append_singleton, hturned, lastDisables_append_singleton, ih]

/-- **The languages that are switched off in the end** are those for which the last command about
them, or about all of them, disables. -/
theorem isDisabled_settingsAfter_iff (hl : l ∈ Builtin.registry.languages) :
    (settingsAfter cs).isDisabled l = true ↔
      LastDisables (fun c => Spells c.language allLanguages) cs ∨
        LastDisables (fun c => Designates c.language l) cs := by
  have hall := settingsAfter_iff (·.disable = true) (by decide)
    (fun _ _ => disable_turned_iff) cs
  have hone := settingsAfter_iff (·.Holds l) (by simp [Holds, Settings.default])
    (fun _ _ => holds_turned_iff hl) cs
  rw [isDisabled_iff, hall, hone]

/-! ## 3. Settings that come about by commands -/

theorem ordinary_flags : ∀ b ∈ Builtin.all, Ordinary (.language b.language) := by
  simp only [Ordinary]
  decide

/-- Commands leave the deadline alone. -/
theorem timeout_settingsAfter (cs : List (SwitchCommand τ)) :
    (settingsAfter cs).timeout = defaultTimeout := by
  induction cs using List.reverseRecOn with
  | nil => rfl
  | append_singleton cs c ih =>
    rw [settingsAfter_append_singleton, ← ih, SwitchCommand.turned]
    split
    · rfl
    · exact timeout_switch _ _ _

/-- **Settings that come about by commands** are read back from their document. -/
theorem expressible_settingsAfter (cs : List (SwitchCommand τ)) : (settingsAfter cs).Expressible := by
  induction cs using List.reverseRecOn with
  | nil => exact expressible_default
  | append_singleton cs c ih =>
    rw [settingsAfter_append_singleton, SwitchCommand.turned]
    split
    · exact ih
    · rename_i target htarget
      refine ih.switch ?_ _
      cases target with
      | all => trivial
      | language l' =>
        have hl' := (switchOf?_language_iff.mp htarget).1
        rw [languages_eq] at hl'
        obtain ⟨b, hb, rfl⟩ := List.mem_map.mp hl'
        exact ordinary_flags b hb

end CommandLine

end SourceCheck

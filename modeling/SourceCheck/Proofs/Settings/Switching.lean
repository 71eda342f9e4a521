import Mathlib.Data.List.Induction
import SourceCheck.Proofs.Settings.Document

/-!
# Switches that are turned one after another

A flag stands for a language in any letter case, and a settings file may list one language in
several spellings.  Turning the switch of a language takes all of them away before it adds the
language's own spelling, so what came before that turn is forgotten.  The global switch and the
languages leave each other alone.  What a switch is in the end is therefore what its last turn made
of it.

* `Settings.Off`, `off_switch_of_same`, `off_switch_of_other`: what one turn does to a switch.
* `Settings.lastTurn`, `off_switchAll_iff`: what many turns do to it.
* `Settings.SpellsOnce`: at most one spelling is left of a flag that was turned.
* `Settings.last_turn_decides`: the languages that are switched off in the end.
-/

namespace SourceCheck

/-- **Whether two switches are one**: both for all languages, or for languages with one flag. -/
def Switch.isSame : Switch → Switch → Bool
  | .all, .all => true
  | .language l, .language l' => Settings.sameFlag l.flag l'.flag
  | _, _ => false

namespace Settings

variable {s : Settings} {l l' : Language} {target other : Switch} {enabled : Bool}
  {steps : List (Switch × Bool)}

/-! ## 1. One switch turned -/

/-- **Settings that hold a flag of a language**, whatever its letter case. -/
def Holds (s : Settings) (l : Language) : Prop := ∃ f ∈ s.flags, sameFlag f l.flag = true

theorem sameFlag_iff {a b : String} : sameFlag a b = true ↔ Text.lowered a = Text.lowered b :=
  beq_iff_eq

theorem isDisabled_iff : s.isDisabled l = true ↔ s.disable = true ∨ s.Holds l := by
  rw [isDisabled, Bool.or_eq_true, List.any_eq_true]
  rfl

/-- Turning the switch of a language decides about all languages with the same flag. -/
theorem holds_switch_of_same (h : sameFlag l'.flag l.flag = true) :
    (s.switch (.language l') enabled).Holds l ↔ enabled = false := by
  constructor
  · rintro ⟨f, hf, hflag⟩
    rcases mem_flags_switch_language.mp hf with ⟨hoff, -⟩ | ⟨-, hother⟩
    · exact hoff
    · have hsame : sameFlag f l'.flag = true :=
        sameFlag_iff.mpr ((sameFlag_iff.mp hflag).trans (sameFlag_iff.mp h).symm)
      rw [hsame] at hother
      cases hother
  · exact fun hoff => ⟨l'.flag, mem_flags_switch_language.mpr (.inl ⟨hoff, rfl⟩), h⟩

/-- Turning the switch of a language leaves languages with other flags alone. -/
theorem holds_switch_of_other (h : sameFlag l'.flag l.flag = false) :
    (s.switch (.language l') enabled).Holds l ↔ s.Holds l := by
  constructor
  · rintro ⟨f, hf, hflag⟩
    rcases mem_flags_switch_language.mp hf with ⟨-, rfl⟩ | ⟨hs, -⟩
    · rw [h] at hflag
      cases hflag
    · exact ⟨f, hs, hflag⟩
  · rintro ⟨f, hf, hflag⟩
    refine ⟨f, mem_flags_switch_language.mpr (.inr ⟨hf, ?_⟩), hflag⟩
    rw [Bool.eq_false_iff]
    intro hsame
    rw [sameFlag_iff.mpr ((sameFlag_iff.mp hsame).symm.trans (sameFlag_iff.mp hflag))] at h
    cases h

/-- **A switch that is off**: all languages are switched off, or one of them is. -/
def Off (s : Settings) : Switch → Prop
  | .all => s.disable = true
  | .language l => s.Holds l

/-- **Turning a switch** decides about it, whatever it was before. -/
theorem off_switch_of_same (h : target.isSame other = true) :
    (s.switch target enabled).Off other ↔ enabled = false := by
  cases target with
  | all =>
    cases other with
    | all => simp [Off]
    | language l => cases h
  | language l' =>
    cases other with
    | all => cases h
    | language l => exact holds_switch_of_same h

/-- **Turning a switch** leaves every other one alone. -/
theorem off_switch_of_other (h : target.isSame other = false) :
    (s.switch target enabled).Off other ↔ s.Off other := by
  cases target with
  | all =>
    cases other with
    | all => cases h
    | language l => exact Iff.rfl
  | language l' =>
    cases other with
    | all => simp [Off]
    | language l => exact holds_switch_of_other h

/-! ## 2. Many switches turned -/

/-- **How a switch is turned last**; nothing if it is not turned at all. -/
def lastTurn (target : Switch) (steps : List (Switch × Bool)) : Option Bool :=
  (steps.filter fun step => step.1.isSame target).getLast?.map (·.2)

theorem lastTurn_append_singleton (target : Switch) (steps : List (Switch × Bool))
    (step : Switch × Bool) : lastTurn target (steps ++ [step]) =
      if step.1.isSame target then some step.2 else lastTurn target steps := by
  by_cases h : step.1.isSame target = true
  · simp [lastTurn, List.filter_append, h]
  · simp [lastTurn, List.filter_append, h]

theorem switchAll_append_singleton (s : Settings) (steps : List (Switch × Bool))
    (step : Switch × Bool) :
    s.switchAll (steps ++ [step]) = (s.switchAll steps).switch step.1 step.2 := by
  simp [switchAll, List.foldl_append]

/-- **How some turns leave a switch**: off if the last of them that turns it switches off, and as it
was if none of them turns it. -/
def LeftOff (s : Settings) (steps : List (Switch × Bool)) (target : Switch) : Prop :=
  match lastTurn target steps with
  | some enabled => enabled = false
  | none => s.Off target

/-- **After any turns** a switch is as the last turn of it left it. -/
theorem off_switchAll_iff : (s.switchAll steps).Off target ↔ LeftOff s steps target := by
  induction steps using List.reverseRecOn with
  | nil => exact Iff.rfl
  | append_singleton steps step ih =>
    rw [switchAll_append_singleton, LeftOff, lastTurn_append_singleton]
    by_cases hsame : step.1.isSame target = true
    · rw [off_switch_of_same hsame, if_pos hsame]
    · rw [off_switch_of_other (Bool.eq_false_iff.mpr hsame), if_neg hsame, ih, LeftOff]

/-- Turning switches leaves the deadline alone. -/
theorem timeout_switchAll (s : Settings) (steps : List (Switch × Bool)) :
    (s.switchAll steps).timeout = s.timeout := by
  induction steps using List.reverseRecOn with
  | nil => rfl
  | append_singleton steps step ih => rw [switchAll_append_singleton, timeout_switch, ih]

/-! ## 3. Spellings of a flag -/

/-- **Settings with at most one spelling of a language's flag.** -/
def SpellsOnce (s : Settings) (l : Language) : Prop :=
  ∀ f ∈ s.flags, ∀ g ∈ s.flags, sameFlag f l.flag = true → sameFlag g l.flag = true → f = g

/-- A turn leaves of a flag only the spelling that the language itself has. -/
theorem eq_flag_of_mem_switch {f : String} (hf : f ∈ (s.switch (.language l) enabled).flags)
    (hsame : sameFlag f l.flag = true) : f = l.flag := by
  rcases mem_flags_switch_language.mp hf with ⟨-, hflag⟩ | ⟨-, hother⟩
  · exact hflag
  · rw [hsame] at hother
    cases hother

theorem spellsOnce_switch (s : Settings) (l : Language) (enabled : Bool) :
    (s.switch (.language l) enabled).SpellsOnce l := by
  intro f hf g hg hsamef hsameg
  exact (eq_flag_of_mem_switch hf hsamef).trans (eq_flag_of_mem_switch hg hsameg).symm

/-- **One spelling does not become two** when another switch is turned, or the same one again. -/
theorem SpellsOnce.switch (h : s.SpellsOnce l) (target : Switch) (enabled : Bool) :
    (s.switch target enabled).SpellsOnce l := by
  cases target with
  | all => exact h
  | language l' =>
    by_cases hsame : sameFlag l'.flag l.flag = true
    · -- Both flags are spellings of the one that has just been turned.
      have hturned : ∀ f, sameFlag f l.flag = true → sameFlag f l'.flag = true := by
        intro f hf
        exact sameFlag_iff.mpr ((sameFlag_iff.mp hf).trans (sameFlag_iff.mp hsame).symm)
      intro f hf g hg hsamef hsameg
      exact spellsOnce_switch s l' enabled f hf g hg (hturned f hsamef) (hturned g hsameg)
    · have hold : ∀ f ∈ (s.switch (.language l') enabled).flags, sameFlag f l.flag = true →
          f ∈ s.flags := by
        intro f hf hsamef
        rcases mem_flags_switch_language.mp hf with ⟨-, rfl⟩ | ⟨hs, -⟩
        · exact absurd hsamef hsame
        · exact hs
      intro f hf g hg hsamef hsameg
      exact h f (hold f hf hsamef) g (hold g hg hsameg) hsamef hsameg

theorem spellsOnce_switchAll (h : (.language l, enabled) ∈ steps) :
    (s.switchAll steps).SpellsOnce l := by
  induction steps using List.reverseRecOn with
  | nil => exact absurd h List.not_mem_nil
  | append_singleton steps step ih =>
    rw [switchAll_append_singleton]
    rcases List.mem_append.mp h with hbefore | hlast
    · exact (ih hbefore).switch step.1 step.2
    · rw [← List.mem_singleton.mp hlast]
      exact spellsOnce_switch _ l enabled

/-! ## 4. The languages that are switched off in the end -/

/-- **The last turn of a switch decides.**  After any turns a language is switched off exactly if
the global switch was left off, or its own switch was, each by the last turn of it, or from the
start if it was never turned.  The deadline stays, a language that was turned has at most one
spelling of its flag left, and turns that agree in the last one of every switch leave every language
alike. -/
theorem last_turn_decides (s : Settings) (steps : List (Switch × Bool)) :
    (∀ l, (s.switchAll steps).isDisabled l = true ↔
      LeftOff s steps .all ∨ LeftOff s steps (.language l)) ∧
    (s.switchAll steps).timeout = s.timeout ∧
    (∀ l enabled, (Switch.language l, enabled) ∈ steps → (s.switchAll steps).SpellsOnce l) ∧
    ∀ steps', (∀ target, lastTurn target steps' = lastTurn target steps) →
      ∀ l, (s.switchAll steps').isDisabled l = (s.switchAll steps).isDisabled l := by
  have hdisabled : ∀ steps' l, (s.switchAll steps').isDisabled l = true ↔
      LeftOff s steps' .all ∨ LeftOff s steps' (.language l) := by
    intro steps' l
    rw [isDisabled_iff, ← off_switchAll_iff, ← off_switchAll_iff]
    rfl
  refine ⟨hdisabled steps, timeout_switchAll s steps, fun l enabled h => spellsOnce_switchAll h, ?_⟩
  intro steps' hsame l
  rw [Bool.eq_iff_iff, hdisabled, hdisabled]
  simp only [LeftOff, hsame]

/-- Settings in which one language is switched off in three spellings. -/
def goSpelled : Settings := { default with flags := .ofList ["GO", "Go", "go"] }

/-- A language with that flag. -/
def goLanguage : Language := ⟨0, "Go", "go", "Go", "go", [], [], [], ""⟩

/-- Turns of its switch and of the global one. -/
def goTurns : List (Switch × Bool) := [(.language goLanguage, true), (.all, true)]

/-- The same turns, the first of them put off and another one before. -/
def goTurnsLater : List (Switch × Bool) :=
  [(.language goLanguage, false), (.all, true), (.language goLanguage, true)]

theorem last_turn_decides_reordered :
    (Switch.language goLanguage, true) ∈ goTurns ∧
    (goSpelled.switchAll goTurns).SpellsOnce goLanguage ∧
    (∀ target, lastTurn target goTurnsLater = lastTurn target goTurns) ∧
    ∀ l, (goSpelled.switchAll goTurnsLater).isDisabled l =
      (goSpelled.switchAll goTurns).isDisabled l := by
  have hturned : (Switch.language goLanguage, true) ∈ goTurns := List.mem_cons_self
  have hsame : ∀ target, lastTurn target goTurnsLater = lastTurn target goTurns := by
    intro target
    cases target with
    | all => rfl
    | language l =>
      have hall : Switch.all.isSame (.language l) = false := rfl
      cases h : Switch.isSame (.language goLanguage) (.language l) <;>
        simp [lastTurn, goTurnsLater, goTurns, hall, h]
  obtain ⟨-, -, honce, halike⟩ := last_turn_decides goSpelled goTurns
  exact ⟨hturned, honce _ _ hturned, hsame, halike _ hsame⟩

end Settings

end SourceCheck

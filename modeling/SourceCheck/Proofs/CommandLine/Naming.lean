import SourceCheck.CommandLine.Run
import SourceCheck.Proofs.Text.Lowering

/-!
# Texts that name a switch

A text on the command line names the global switch or a language if it spells the word for it, in
any letter case and with any white space around it.  No text names two switches, so the first
language that is found is the only one.

* `Spells`, `Designates`: what a text names, said without trimming.
* `spells_iff`: the same by trimming and lower-casing.
* `switchOf?_all_iff`, `switchOf?_language_iff`, `switchOf?_none_iff`: the switch that is found.
-/

namespace SourceCheck.CommandLine

variable {text word : String} {l l' : Language}

/-! ## 1. Spelling a word -/

/-- **A text that spells a word**, in any letter case and with any white space around it. -/
def Spells (text word : String) : Prop :=
  ∃ before core after : List Char, text.toList = before ++ (core ++ after) ∧
    (∀ c ∈ before, Text.isBlank c = true) ∧ (∀ c ∈ after, Text.isBlank c = true) ∧
    Text.lower core = Text.lower word.toList

/-- **A text that designates a language**, by its code, its name or its flag. -/
def Designates (text : String) (l : Language) : Prop :=
  Spells text l.code ∨ Spells text l.name ∨ Spells text l.flag

/-- A word that no trimming changes. -/
def Plain (word : String) : Prop :=
  Text.trim (Text.lower word.toList) = Text.lower word.toList

instance (word : String) : Decidable (Plain word) := inferInstanceAs (Decidable (_ = _))

theorem spells_iff (h : Plain word) :
    Spells text word ↔ Language.normalIdentifier text = Text.lowered word := by
  rw [Language.normalIdentifier, Text.lowered, String.ofList_inj]
  constructor
  · rintro ⟨before, core, after, htext, hbefore, hafter, hcore⟩
    -- The core has no white space at its ends, because the word in lower case has none.
    have hfirm : Text.trim (Text.lower core) = Text.lower core := hcore ▸ h
    have hstart := Text.head?_firm_of_lower (hfirm ▸ Text.head?_trim (Text.lower core))
    have hend := Text.endsFirm_of_lower (hfirm ▸ Text.endsFirm_trim (Text.lower core))
    rw [htext, Text.trim_between hbefore hstart hend hafter, hcore]
  · intro hlower
    obtain ⟨before, after, htext, hbefore, hafter⟩ := Text.exists_trim text.toList
    exact ⟨before, _, after, htext, hbefore, hafter, hlower⟩

/-! ## 2. The words for the switches -/

theorem languages_eq : Builtin.registry.languages = Builtin.all.map Builtin.language := by
  decide +kernel

theorem plain_words : ∀ b ∈ Builtin.all,
    Plain b.language.code ∧ Plain b.language.name ∧ Plain b.language.flag := by
  decide +kernel

theorem plain_allLanguages : Plain allLanguages := by decide

/-- No word designates two languages. -/
theorem identifiers_apart : ∀ a ∈ Builtin.all, ∀ b ∈ Builtin.all, a ≠ b →
    ∀ i ∈ a.language.identifiers, i ∉ b.language.identifiers := by
  decide +kernel

theorem allLanguages_apart : ∀ b ∈ Builtin.all, allLanguages ∉ b.language.identifiers := by
  decide

/-- Languages that share an identifier are the same. -/
theorem eq_of_mem_identifiers (hl : l ∈ Builtin.registry.languages)
    (hl' : l' ∈ Builtin.registry.languages) {i : String} (hi : i ∈ l.identifiers)
    (hi' : i ∈ l'.identifiers) : l = l' := by
  rw [languages_eq] at hl hl'
  obtain ⟨a, ha, rfl⟩ := List.mem_map.mp hl
  obtain ⟨b, hb, rfl⟩ := List.mem_map.mp hl'
  by_cases hab : a = b
  · rw [hab]
  · exact absurd hi' (identifiers_apart a ha b hb hab i hi)

/-- **A text designates a language** if, trimmed and in lower case, it is one of the language's
identifiers. -/
theorem designates_iff (hl : l ∈ Builtin.registry.languages) :
    Designates text l ↔ Language.normalIdentifier text ∈ l.identifiers := by
  rw [languages_eq] at hl
  obtain ⟨b, hb, rfl⟩ := List.mem_map.mp hl
  obtain ⟨hcode, hname, hflag⟩ := plain_words b hb
  rw [Designates, spells_iff hcode, spells_iff hname, spells_iff hflag, Language.identifiers]
  simp only [List.mem_cons, List.not_mem_nil, or_false]

theorem spells_allLanguages_iff :
    Spells text allLanguages ↔ Language.normalIdentifier text = allLanguages := by
  have hlowered : Text.lowered allLanguages = allLanguages := by decide
  rw [spells_iff plain_allLanguages, hlowered]

/-! ## 3. The switch that is found -/

/-- The first language that is found is the only one. -/
theorem find_eq_some_iff : Builtin.registry.find text = some l ↔
    l ∈ Builtin.registry.languages ∧ Designates text l := by
  rw [Registry.find]
  constructor
  · intro hfind
    have hl := List.mem_of_find?_eq_some hfind
    have hnamed : l.isNamed text = true := by simpa using List.find?_some hfind
    exact ⟨hl, (designates_iff hl).mpr (List.contains_iff_mem.mp hnamed)⟩
  · rintro ⟨hl, hdesignates⟩
    have hi := (designates_iff hl).mp hdesignates
    cases hfind : Builtin.registry.languages.find? fun l => l.isNamed text with
    | none =>
      have hnot := List.find?_eq_none.mp hfind l hl
      exact absurd (List.contains_iff_mem.mpr hi) hnot
    | some l' =>
      have hl' := List.mem_of_find?_eq_some hfind
      have hnamed : l'.isNamed text = true := by simpa using List.find?_some hfind
      rw [eq_of_mem_identifiers hl' hl (List.contains_iff_mem.mp hnamed) hi]

theorem find_eq_none_iff : Builtin.registry.find text = none ↔
    ∀ l ∈ Builtin.registry.languages, ¬ Designates text l := by
  rw [Option.eq_none_iff_forall_ne_some]
  simp only [ne_eq, find_eq_some_iff, not_and]

/-- **A text names the global switch** exactly if it spells its name. -/
theorem switchOf?_all_iff :
    switchOf? Builtin.registry text = some .all ↔ Spells text allLanguages := by
  rw [spells_allLanguages_iff, switchOf?]
  by_cases hall : Language.normalIdentifier text = allLanguages
  · simp [hall]
  · rw [if_neg (by simpa using hall)]
    simp [hall]

/-- **A text names the switch of a language** exactly if it designates the language. -/
theorem switchOf?_language_iff : switchOf? Builtin.registry text = some (.language l) ↔
    l ∈ Builtin.registry.languages ∧ Designates text l := by
  rw [switchOf?]
  by_cases hall : Language.normalIdentifier text = allLanguages
  · rw [if_pos (by simpa using hall)]
    refine iff_of_false nofun ?_
    rintro ⟨hl, hdesignates⟩
    have hi := (designates_iff hl).mp hdesignates
    rw [languages_eq] at hl
    obtain ⟨b, hb, rfl⟩ := List.mem_map.mp hl
    exact allLanguages_apart b hb (hall ▸ hi)
  · rw [if_neg (by simpa using hall), ← find_eq_some_iff, Option.map_eq_some_iff]
    simp

/-- **A text names no switch** exactly if it does neither. -/
theorem switchOf?_none_iff : switchOf? Builtin.registry text = none ↔
    ¬ Spells text allLanguages ∧ ∀ l ∈ Builtin.registry.languages, ¬ Designates text l := by
  rw [spells_allLanguages_iff, ← find_eq_none_iff, switchOf?]
  by_cases hall : Language.normalIdentifier text = allLanguages
  · simp [hall]
  · rw [if_neg (by simpa using hall), Option.map_eq_none_iff]
    simp [hall]

end SourceCheck.CommandLine

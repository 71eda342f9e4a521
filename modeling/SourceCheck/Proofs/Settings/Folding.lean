import SourceCheck.Proofs.Settings.Switching

/-!
# Spellings of a switch in a document

A settings document may hold the switch of one language more than once, in several spellings of its
flag.  The members are read in order, and each of them adds or takes away its own spelling, letter
by letter.  The turn of a switch takes all spellings of the flag away, but a member does not: a
`false` leaves the other spellings where they are.  Since a language is off as soon as one spelling
of its flag is there, it is off exactly if one of its keys holds `true`, wherever that key stands.
The last key decides only if it holds `true` itself, or no key does.

* `mem_turnFlags_iff`: a flag is turned by its own key alone.
* `SpellsSwitch`, `isDisabled_iff_of_unlisted`: the keys that switch a language off.
* `spelled_switches`: when the last of them decides.
* `exists_last_spelling_overruled`: a document in which it does not.
-/

namespace SourceCheck

namespace Settings

variable {s : Settings} {l : Language} {ms before after : Json.Members} {e : String × Json}
  {flags flags' : FlagSet} {f : String}

/-! ## 1. The flags that are left -/

/-- **A flag is turned by its own key.**  It is there in the end exactly if its key holds `true`, or
if it was there before and has no key. -/
theorem mem_turnFlags_iff (hkeys : (Table.keys ms).Nodup) (hempty : f ≠ "") (hlist : f ≠ listFlag)
    (h : turnFlags flags ms = .ok flags') :
    f ∈ flags' ↔ Table.get? ms (keyOf f) = some (.bool true) ∨
      (Table.get? ms (keyOf f) = none ∧ f ∈ flags) := by
  induction ms generalizing flags with
  | nil =>
    cases h
    simp
  | cons e ms ih =>
    obtain ⟨key, v⟩ := e
    obtain ⟨hnew, hrest⟩ := List.nodup_cons.mp hkeys
    rw [turnFlags] at h
    rw [Table.get?_cons]
    by_cases hkey : key = keyOf f
    · have hflag : flagOf? key = some f := flagOf?_eq_some_iff.mpr ⟨hkey, hempty, hlist⟩
      have hlater : Table.get? ms (keyOf f) = none := by
        rw [← hkey]
        exact Table.get?_eq_none_iff.mpr hnew
      rw [if_pos (beq_iff_eq.mpr hkey)]
      rw [hflag] at h
      cases v with
      | bool off =>
        rw [ih hrest h, hlater]
        cases off <;> simp [turn]
      | _ => cases h
    · rw [if_neg (mt beq_iff_eq.mp hkey)]
      split at h
      · exact ih hrest h
      · rename_i g hg
        have hne : f ≠ g := by
          rintro rfl
          exact hkey (flagOf?_eq_some_iff.mp hg).1
        split at h
        · rename_i off
          rw [ih hrest h]
          cases off <;> simp [turn, hne]
        · cases h

/-- The flags of settings whose document lists none. -/
theorem mem_flags_iff_of_unlisted [Library] (hkeys : (Table.keys ms).Nodup)
    (hs : ofMembers ms = .ok s)
    (hunlisted : flagsKey ∉ Table.keys ms) (hswitch : switchIn ms = .ok false) :
    f ∈ s.flags ↔ (keyOf f, .bool true) ∈ ms := by
  obtain ⟨listed, hlisted, hturn, -⟩ := of_ofMembers hs
  have hnone : Table.get? ms flagsKey = none := Table.get?_eq_none_iff.mpr hunlisted
  have hnil : listed = [] := by
    rw [hnone] at hlisted
    exact (Except.ok.inj hlisted).symm
  subst hnil
  have habsent : f ∉ FlagSet.ofList [] := fun hf => List.not_mem_nil (FlagSet.mem_ofList.mp hf)
  rw [← Table.get?_eq_some_iff hkeys]
  by_cases hspecial : f = "" ∨ f = listFlag
  · -- The keys of these two flags turn nothing, and neither of them holds `true`.
    have hkept : f ∈ s.flags ↔ f ∈ FlagSet.ofList [] := by
      refine mem_of_turnFlags hturn fun key hkey => ?_
      obtain ⟨-, hempty, hlist⟩ := flagOf?_eq_some_iff.mp hkey
      exact hspecial.elim hempty hlist
    rw [hkept, iff_false_left habsent]
    intro hon
    rcases hspecial with rfl | rfl
    · simp only [switchIn, switchKey_eq, hon, Library.truthValue_bool] at hswitch
      cases hswitch
    · rw [← flagsKey_eq, hnone] at hon
      cases hon
  · rw [not_or] at hspecial
    rw [mem_turnFlags_iff hkeys hspecial.1 hspecial.2 hturn]
    simp only [habsent, and_false, or_false]

/-! ## 2. The keys of a language -/

/-- **A key that spells the switch of a language**, in whatever letter case. -/
def SpellsSwitch (l : Language) (key : String) : Prop :=
  ∃ f, key = keyOf f ∧ sameFlag f l.flag = true

/-- **A language is switched off** exactly if one of its keys holds `true`. -/
theorem isDisabled_iff_of_unlisted [Library] (hkeys : (Table.keys ms).Nodup)
    (hs : ofMembers ms = .ok s)
    (hunlisted : flagsKey ∉ Table.keys ms) (hswitch : switchIn ms = .ok false) :
    s.isDisabled l = true ↔ ∃ e ∈ ms, SpellsSwitch l e.1 ∧ e.2 = .bool true := by
  obtain ⟨-, -, -, hs'⟩ := of_ofMembers hs
  have henabled : s.disable = false := Except.ok.inj (hs'.symm.trans hswitch)
  rw [isDisabled_iff, henabled]
  constructor
  · rintro (hoff | ⟨f, hf, hflag⟩)
    · cases hoff
    · have hmem := (mem_flags_iff_of_unlisted hkeys hs hunlisted hswitch).mp hf
      exact ⟨_, hmem, ⟨f, rfl, hflag⟩, rfl⟩
  · rintro ⟨⟨key, v⟩, he, ⟨f, rfl, hflag⟩, rfl⟩
    exact .inr ⟨f, (mem_flags_iff_of_unlisted hkeys hs hunlisted hswitch).mpr he, hflag⟩

/-- **Spellings of a switch in a document** that lists no flags and leaves the global switch on.  A
language is switched off exactly if one of its keys holds `true`.  The last of its keys decides
about it exactly if that key holds `true`, or no key before it does. -/
theorem spelled_switches [Library] (hkeys : (Table.keys ms).Nodup)
    (hs : ofDocument (.object ms) = .ok s)
    (hunlisted : flagsKey ∉ Table.keys ms) (hswitch : switchIn ms = .ok false)
    (hms : ms = before ++ e :: after) (hlast : SpellsSwitch l e.1)
    (hafter : ∀ e' ∈ after, ¬ SpellsSwitch l e'.1) :
    (s.isDisabled l = true ↔ ∃ e' ∈ ms, SpellsSwitch l e'.1 ∧ e'.2 = .bool true) ∧
    ((s.isDisabled l = true ↔ e.2 = .bool true) ↔
      (e.2 = .bool true ∨ ∀ e' ∈ before, SpellsSwitch l e'.1 → e'.2 ≠ .bool true)) := by
  have hoff := isDisabled_iff_of_unlisted (l := l) hkeys hs hunlisted hswitch
  refine ⟨hoff, ?_⟩
  have hparts : s.isDisabled l = true ↔
      e.2 = .bool true ∨ ∃ e' ∈ before, SpellsSwitch l e'.1 ∧ e'.2 = .bool true := by
    rw [hoff, hms]
    constructor
    · rintro ⟨e', he', hspell, hon⟩
      rcases List.mem_append.mp he' with hbefore | hrest
      · exact .inr ⟨e', hbefore, hspell, hon⟩
      · rcases List.mem_cons.mp hrest with rfl | hlater
        · exact .inl hon
        · exact absurd hspell (hafter e' hlater)
    · rintro (hon | ⟨e', hbefore, hspell, hon⟩)
      · exact ⟨e, List.mem_append_right _ List.mem_cons_self, hlast, hon⟩
      · exact ⟨e', List.mem_append_left _ hbefore, hspell, hon⟩
  rw [hparts]
  constructor
  · intro hdecides
    by_cases hon : e.2 = .bool true
    · exact .inl hon
    · refine .inr fun e' he' hspell hon' => hon ?_
      exact hdecides.mp (.inr ⟨e', he', hspell, hon'⟩)
  · rintro (hon | hnone)
    · exact ⟨fun _ => hon, .inl⟩
    · refine ⟨?_, .inl⟩
      rintro (hon | ⟨e', he', hspell, hon'⟩)
      · exact hon
      · exact absurd hon' (hnone e' he' hspell)

/-- A document with two spellings of one switch, the global switch between them. -/
def goMixed : Json.Members :=
  [("disableGo", .bool true), ("disable", .bool false), ("disablego", .bool false)]

/-- The settings that it is read as. -/
def goMixedSettings : Settings := { default with flags := .ofList ["Go"] }

theorem spelled_switches_mixed :
    (Table.keys goMixed).Nodup ∧ ofDocument (.object goMixed) = .ok goMixedSettings ∧
    flagsKey ∉ Table.keys goMixed ∧ switchIn goMixed = .ok false ∧
    SpellsSwitch goLanguage "disablego" ∧
    ((goMixedSettings.isDisabled goLanguage = true ↔ Json.bool false = .bool true) ↔
      (Json.bool false = .bool true ∨ ∀ e ∈ goMixed.take 2,
        SpellsSwitch goLanguage e.1 → e.2 ≠ .bool true)) := by
  have hkeys : (Table.keys goMixed).Nodup := by decide
  have hread : ofDocument (.object goMixed) = .ok goMixedSettings := rfl
  have hunlisted : flagsKey ∉ Table.keys goMixed := by decide
  have hswitch : switchIn goMixed = .ok false := rfl
  have hlast : SpellsSwitch goLanguage "disablego" := ⟨"go", by decide, by decide⟩
  have hplaced : goMixed = goMixed.take 2 ++ [("disablego", .bool false)] := rfl
  obtain ⟨-, hdecides⟩ := spelled_switches hkeys hread hunlisted hswitch hplaced hlast
    fun e he => absurd he List.not_mem_nil
  exact ⟨hkeys, hread, hunlisted, hswitch, hlast, hdecides⟩

/-- **A last key that is overruled**: one spelling of the flag is `true`, the other one behind it is
`false`, and the language is switched off. -/
theorem exists_last_spelling_overruled :
    ∃ s, ofDocument (.object [("disableGo", .bool true), ("disablego", .bool false)]) = .ok s ∧
      SpellsSwitch goLanguage "disableGo" ∧ SpellsSwitch goLanguage "disablego" ∧
      s.disable = false ∧ s.isDisabled goLanguage = true := by
  refine ⟨goMixedSettings, rfl, ⟨"Go", by decide, by decide⟩, ⟨"go", by decide, by decide⟩, rfl, ?_⟩
  decide

end Settings

end SourceCheck

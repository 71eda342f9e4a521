import SourceCheck.Proofs.Table
import SourceCheck.Settings.Validation

/-!
# Settings read back from their document

The document of settings is flat: the switch of a language has the key `disable` followed by its
flag, beside the key `disable` of the global switch and the key `disabled_languages` of a list of
flags.  Two flags have keys that stand for something else in a document.  The empty flag has the key
of the global switch, and `d_languages` has the key of the list.  Settings without these two are
read back from their document, and no others are.

* `Spells`: a document in which the keys have the values that the settings give them.
* `ofMembers_of_spells`: what such a document is read as.
* `Expressible`, `ofMembers_eq_self_iff`: the settings that are read back.
-/

namespace SourceCheck

namespace Settings

variable {s : Settings} {ms : Json.Members} {key flag : String}

/-! ## 1. The keys of flags -/

/-- The flag whose key is the key of the list of flags. -/
def listFlag : String := "d_languages"

theorem keyOf_inj {f g : String} : keyOf f = keyOf g ↔ f = g := by
  simp [keyOf]

theorem flagsKey_eq : flagsKey = keyOf listFlag := by decide

theorem switchKey_eq : switchKey = keyOf "" := by decide

theorem keyOf_ne_timeoutKey (f : String) : keyOf f ≠ timeoutKey := by
  intro h
  have hchars := congrArg String.toList h
  simp [keyOf, switchKey, timeoutKey] at hchars

/-- **The flag that a key turns**: every flag is turned by its key, except for the two whose keys
stand for something else. -/
theorem flagOf?_eq_some_iff :
    flagOf? key = some flag ↔ key = keyOf flag ∧ flag ≠ "" ∧ flag ≠ listFlag := by
  have hspecial : (key == flagsKey || key == switchKey) = true ↔
      key = keyOf listFlag ∨ key = keyOf "" := by
    rw [Bool.or_eq_true, beq_iff_eq, beq_iff_eq, flagsKey_eq, switchKey_eq]
  unfold flagOf?
  split
  · rename_i h
    simp only [reduceCtorEq, false_iff]
    rintro ⟨rfl, hempty, hlist⟩
    rcases hspecial.mp h with h | h
    · exact hlist (keyOf_inj.mp h)
    · exact hempty (keyOf_inj.mp h)
  · rename_i h
    have hplain : ¬ (key = keyOf listFlag ∨ key = keyOf "") := fun h' => h (hspecial.mpr h')
    split
    · rename_i hpre
      obtain ⟨cs, hcs⟩ := List.isPrefixOf_iff_prefix.mp hpre
      have hdrop : key.toList.drop switchKey.length = cs := by
        rw [← hcs]
        exact List.drop_left
      have hkey : key = keyOf (String.ofList cs) := by
        rw [keyOf, ← String.toList_inj, String.toList_append, String.toList_ofList, hcs]
      rw [hdrop, Option.some.injEq]
      constructor
      · rintro rfl
        refine ⟨hkey, fun h' => hplain (.inr (h' ▸ hkey)), fun h' => hplain (.inl (h' ▸ hkey))⟩
      · rintro ⟨hflag, -, -⟩
        exact keyOf_inj.mp (hkey.symm.trans hflag)
    · rename_i hpre
      simp only [reduceCtorEq, false_iff]
      rintro ⟨rfl, -, -⟩
      refine hpre (List.isPrefixOf_iff_prefix.mpr ?_)
      rw [keyOf, String.toList_append]
      exact List.prefix_append _ _

/-! ## 2. Documents of settings -/

/-- **The value that settings give a key.** -/
def valueOf? (s : Settings) (key : String) : Option Json :=
  if key = timeoutKey then some (.number s.timeout)
  else if ∃ f ∈ s.flags.toList, keyOf f = key then some (.bool true)
  else if key = switchKey then some (.bool s.disable)
  else none

/-- **A document that spells settings out**: every key once, with the value that they give it. -/
structure Spells (ms : Json.Members) (s : Settings) : Prop where
  nodup : (Table.keys ms).Nodup
  get? (key : String) : Table.get? ms key = s.valueOf? key

theorem Spells.perm {ns : Json.Members} (h : Spells ms s) (hp : ms.Perm ns) : Spells ns s :=
  ⟨(hp.map _).nodup_iff.mp h.nodup, fun key => (Table.get?_perm hp h.nodup).trans (h.get? key)⟩

/-- The switches of flags, written one after the other. -/
theorem get?_foldl_put (fs : List String) (ms : Json.Members) (key : String) :
    Table.get? (fs.foldl (fun ms f => Table.put (keyOf f) (.bool true) ms) ms) key =
      if ∃ f ∈ fs, keyOf f = key then some (.bool true) else Table.get? ms key := by
  induction fs generalizing ms with
  | nil => simp
  | cons f fs ih =>
    rw [List.foldl_cons, ih]
    by_cases hrest : ∃ g ∈ fs, keyOf g = key
    · have hall : ∃ g ∈ f :: fs, keyOf g = key := by
        obtain ⟨g, hg, hk⟩ := hrest
        exact ⟨g, List.mem_cons_of_mem f hg, hk⟩
      rw [if_pos hrest, if_pos hall]
    · rw [if_neg hrest]
      by_cases hk : keyOf f = key
      · rw [if_pos ⟨f, List.mem_cons_self, hk⟩, hk, Table.get?_put_self]
      · rw [Table.get?_put_of_ne hk, if_neg]
        rintro ⟨g, hg, hgk⟩
        rcases List.mem_cons.mp hg with rfl | hg
        · exact hk hgk
        · exact hrest ⟨g, hg, hgk⟩

theorem nodup_keys_foldl_put (fs : List String) {ms : Json.Members}
    (h : (Table.keys ms).Nodup) :
    (Table.keys (fs.foldl (fun ms f => Table.put (keyOf f) (.bool true) ms) ms)).Nodup := by
  induction fs generalizing ms with
  | nil => exact h
  | cons f fs ih => exact ih (Table.nodup_keys_put h)

theorem document_spells (s : Settings) : Spells s.document s where
  nodup := Table.nodup_keys_put (nodup_keys_foldl_put _ (by simp [Table.keys]))
  get? key := by
    unfold document valueOf?
    by_cases htime : key = timeoutKey
    · rw [if_pos htime, htime, Table.get?_put_self]
    · rw [if_neg htime, Table.get?_put_of_ne (Ne.symm htime), get?_foldl_put, Table.get?_cons]
      simp only [beq_iff_eq, Table.get?_nil, eq_comm (a := switchKey)]

/-! ## 3. What is read -/

/-- Where all switches of languages are `true`, their flags are added. -/
theorem turnFlags_of_on (flags : FlagSet)
    (h : ∀ e ∈ ms, ∀ f, flagOf? e.1 = some f → e.2 = .bool true) :
    ∃ flags', turnFlags flags ms = .ok flags' ∧
      ∀ f, f ∈ flags' ↔ f ∈ flags ∨ ∃ e ∈ ms, flagOf? e.1 = some f := by
  induction ms generalizing flags with
  | nil => exact ⟨flags, rfl, by simp⟩
  | cons e ms ih =>
    obtain ⟨key, v⟩ := e
    have hrest := fun e he => h e (List.mem_cons_of_mem _ he)
    rw [turnFlags]
    cases hf : flagOf? key with
    | none =>
      obtain ⟨flags', hok, hmem⟩ := ih flags hrest
      refine ⟨flags', hok, fun f => ?_⟩
      simp only [hmem f, List.mem_cons, exists_eq_or_imp, hf, reduceCtorEq, false_or]
    | some flag =>
      have hv : v = .bool true := h (key, v) List.mem_cons_self flag hf
      obtain ⟨flags', hok, hmem⟩ := ih (flags.insert flag) hrest
      refine ⟨flags', by rw [hv]; exact hok, fun f => ?_⟩
      simp only [hmem f, FlagSet.mem_insert, List.mem_cons, exists_eq_or_imp, hf,
        Option.some.injEq, eq_comm (a := f), or_assoc, or_left_comm]

theorem valueOf?_keyOf {f : String} (h : f ≠ "") :
    s.valueOf? (keyOf f) = if f ∈ s.flags then some (.bool true) else none := by
  have hswitch : keyOf f ≠ switchKey := by
    rw [switchKey_eq]
    exact fun he => h (keyOf_inj.mp he)
  have hlisted : (∃ g ∈ s.flags.toList, keyOf g = keyOf f) ↔ f ∈ s.flags := by
    constructor
    · rintro ⟨g, hg, hgf⟩
      exact keyOf_inj.mp hgf ▸ hg
    · exact fun hf => ⟨f, hf, rfl⟩
  rw [valueOf?, if_neg (keyOf_ne_timeoutKey f), if_neg hswitch]
  simp only [hlisted]

/-- A switch of a language in a document of settings. -/
theorem Spells.of_mem (h : Spells ms s) {e : String × Json} (he : e ∈ ms) {f : String}
    (hf : flagOf? e.1 = some f) : f ∈ s.flags ∧ e.2 = .bool true := by
  obtain ⟨key, v⟩ := e
  obtain ⟨rfl, hempty, -⟩ := flagOf?_eq_some_iff.mp hf
  have hv : s.valueOf? (keyOf f) = some v := by
    rw [← h.get?, Table.get?_eq_some_iff h.nodup]
    exact he
  rw [valueOf?_keyOf hempty] at hv
  split at hv
  · rename_i hflag
    exact ⟨hflag, (Option.some.inj hv).symm⟩
  · cases hv

theorem Spells.turnFlags_eq (h : Spells ms s) :
    ∃ flags, turnFlags (.ofList []) ms = .ok flags ∧
      ∀ f, f ∈ flags ↔ f ∈ s.flags ∧ f ≠ "" ∧ f ≠ listFlag := by
  obtain ⟨flags, hok, hflags⟩ :=
    turnFlags_of_on (.ofList []) fun e he f hf => (h.of_mem he hf).2
  refine ⟨flags, hok, fun f => ?_⟩
  rw [hflags f]
  constructor
  · rintro (hnone | ⟨e, he, hf⟩)
    · exact absurd (FlagSet.mem_ofList.mp hnone) List.not_mem_nil
    · exact ⟨(h.of_mem he hf).1, (flagOf?_eq_some_iff.mp hf).2⟩
  · rintro ⟨hf, hempty, hlist⟩
    have hv : Table.get? ms (keyOf f) = some (.bool true) := by
      rw [h.get?, valueOf?_keyOf hempty, if_pos hf]
    exact .inr ⟨_, (Table.get?_eq_some_iff h.nodup).mp hv,
      flagOf?_eq_some_iff.mpr ⟨rfl, hempty, hlist⟩⟩

theorem Spells.listed (h : Spells ms s) :
    Table.get? ms flagsKey = if listFlag ∈ s.flags then some (.bool true) else none := by
  rw [h.get?, flagsKey_eq, valueOf?_keyOf (by decide)]

theorem Spells.switchIn_eq [Library] (h : Spells ms s) :
    switchIn ms = .ok (s.disable || decide ("" ∈ s.flags)) := by
  have hlisted : (∃ g ∈ s.flags.toList, keyOf g = keyOf "") ↔ "" ∈ s.flags := by
    simp only [keyOf_inj, exists_eq_right, FlagSet.mem_iff]
  rw [switchIn, h.get?, valueOf?, switchKey_eq, if_neg (keyOf_ne_timeoutKey "")]
  simp only [hlisted, if_true]
  by_cases hempty : "" ∈ s.flags
  · simp only [hempty, if_true, Library.truthValue_bool, decide_true, Bool.or_true]
  · simp only [hempty, if_false, Library.truthValue_bool, decide_false, Bool.or_false]

theorem Spells.timeoutIn_eq [Library] (h : Spells ms s) :
    timeoutIn ms = .ok ⟨s.timeout, s.timeout_positive⟩ := by
  rw [timeoutIn, h.get?, valueOf?, if_pos rfl]
  simp only [readTimeout, Library.seconds_number, s.timeout_positive, dite_true]

/-- **What a document of settings is read as.**  The flag with the key of the list makes the reading
fail; the empty flag is lost, and in its place all checking is switched off. -/
theorem ofMembers_of_spells [Library] (h : Spells ms s) :
    ofMembers ms =
      if listFlag ∈ s.flags then .error (.failed (.notACollection "bool"))
      else .ok { s with
        disable := s.disable || decide ("" ∈ s.flags), flags := s.flags.erase "" } := by
  rw [ofMembers, h.listed]
  by_cases hlist : listFlag ∈ s.flags
  · simp only [hlist, if_true, Option.getD_some, listedFlags, isVoid, Bool.false_eq_true, if_false]
    rfl
  · simp only [hlist, if_false, Option.getD_none, listedFlags, isVoid, if_true]
    obtain ⟨flags, hok, hflags⟩ := h.turnFlags_eq
    have herase : flags = s.flags.erase "" := by
      refine FlagSet.ext fun f => ?_
      rw [hflags f, FlagSet.mem_erase]
      constructor
      · exact fun hf => ⟨hf.1, hf.2.1⟩
      · exact fun hf => ⟨hf.1, hf.2, fun he => hlist (he ▸ hf.1)⟩
    simp only [hok, ofFields, h.switchIn_eq, h.timeoutIn_eq, herase]

/-! ## 4. Settings that are read back -/

/-- **Settings that a document can express**: neither of the two flags is among theirs. -/
def Expressible (s : Settings) : Prop := "" ∉ s.flags ∧ listFlag ∉ s.flags

instance : Decidable s.Expressible := inferInstanceAs (Decidable (_ ∧ _))

theorem expressible_default : default.Expressible := by decide

/-- **Settings are read back** from a document that spells them out exactly if it can express
them. -/
theorem ofMembers_eq_self_iff [Library] (h : Spells ms s) :
    ofMembers ms = .ok s ↔ s.Expressible := by
  rw [ofMembers_of_spells h, Expressible]
  by_cases hlist : listFlag ∈ s.flags
  · simp [hlist]
  · rw [if_neg hlist, Except.ok.injEq]
    constructor
    · intro hs
      refine ⟨fun hempty => ?_, hlist⟩
      rw [← congrArg Settings.flags hs] at hempty
      exact (FlagSet.mem_erase.mp hempty).2 rfl
    · rintro ⟨hempty, -⟩
      have hflags : s.flags.erase "" = s.flags := by
        refine FlagSet.ext fun f => ?_
        rw [FlagSet.mem_erase, and_iff_left_iff_imp]
        rintro hf rfl
        exact hempty hf
      simp only [hempty, decide_false, Bool.or_false, hflags]

/-! ## 5. How settings come about -/

/-- The members of a document leave a flag alone that none of them turns. -/
theorem mem_of_turnFlags {flags flags' : FlagSet} {f : String}
    (hturn : turnFlags flags ms = .ok flags') (hf : ∀ key, flagOf? key ≠ some f) :
    f ∈ flags' ↔ f ∈ flags := by
  induction ms generalizing flags with
  | nil =>
    cases hturn
    exact Iff.rfl
  | cons e ms ih =>
    obtain ⟨key, v⟩ := e
    rw [turnFlags] at hturn
    split at hturn
    · exact ih hturn
    · rename_i g hg
      have hne : f ≠ g := by
        rintro rfl
        exact hf key hg
      split at hturn
      · rename_i off
        rw [ih hturn, turn]
        cases off <;> simp [hne]
      · cases hturn

/-- **How settings are read**: the flags that the document lists are turned by its members. -/
theorem of_ofMembers [Library] (h : ofMembers ms = .ok s) :
    ∃ listed, listedFlags ((Table.get? ms flagsKey).getD .null) = .ok listed ∧
      turnFlags (.ofList listed) ms = .ok s.flags ∧ switchIn ms = .ok s.disable := by
  rw [ofMembers] at h
  split at h
  · cases h
  · rename_i listed hlisted
    refine ⟨listed, hlisted, ?_⟩
    split at h
    · cases h
    · rename_i flags hturn
      rw [ofFields] at h
      split at h
      all_goals cases h
      exact ⟨hturn, by assumption⟩

/-- A language whose flag is neither of the two. -/
def Ordinary : Switch → Prop
  | .all => True
  | .language l => l.flag ≠ "" ∧ l.flag ≠ listFlag

theorem Expressible.switch (h : s.Expressible) {target : Switch} (ht : Ordinary target)
    (enabled : Bool) : (s.switch target enabled).Expressible := by
  cases target with
  | all => exact h
  | language l =>
    constructor
    · rw [mem_flags_switch_language]
      rintro (⟨-, hl⟩ | ⟨hs, -⟩)
      · exact ht.1 hl.symm
      · exact h.1 hs
    · rw [mem_flags_switch_language]
      rintro (⟨-, hl⟩ | ⟨hs, -⟩)
      · exact ht.2 hl.symm
      · exact h.2 hs

/-- **Turning switches**, one after the other. -/
def switchAll (s : Settings) (steps : List (Switch × Bool)) : Settings :=
  steps.foldl (fun s step => s.switch step.1 step.2) s

end Settings

end SourceCheck

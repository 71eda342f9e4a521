import Mathlib.Data.List.Induction
import SourceCheck.Proofs.Registry.Suffixes
import SourceCheck.Proofs.Table

/-!
# Registries and the calls that make them

A registry says in three ways who owns what: the owner of each suffix, the list of languages, and
the order in which suffixes are tried.  A call brings all three up to date, whatever was registered
before it: suffixes that change hands, a language that loses its last suffix and comes back, lists
in which a suffix stands twice.

* `Registration`, `ofRegistrations`: the calls, and the registry after them.
* `get?_take`: what a call does to the owners.
* `Follows`, `languages_follow`: what a call does to the order of the languages.
* `WellKept`, `wellKept_register`, `wellKept_ofRegistrations`: what every call preserves, and so
  what holds after any calls.
* `registrations_accounted`: all of it, together with what lookups give.
-/

namespace SourceCheck.Registry

/-! ## 1. Calls -/

/-- **A call**: a language is registered for suffixes, each written in any way. -/
structure Registration where
  language : Language
  suffixes : List String
  deriving Repr, DecidableEq

/-- Whether a call names a suffix, in its kept form. -/
def Registration.names (c : Registration) (suffix : String) : Bool :=
  (c.suffixes.map normalSuffix).contains suffix

/-- **The registry after some calls.** -/
def ofRegistrations (cs : List Registration) : Registry :=
  cs.foldl (fun r c => (r.register c.language c.suffixes).1) empty

/-- The language of the last call that names a suffix. -/
def lastNaming (cs : List Registration) (suffix : String) : Option Language :=
  (cs.reverse.find? (·.names suffix)).map (·.language)

theorem lastNaming_append (cs : List Registration) (c : Registration) (suffix : String) :
    lastNaming (cs ++ [c]) suffix =
      if c.names suffix then some c.language else lastNaming cs suffix := by
  rw [lastNaming, List.reverse_append, List.reverse_singleton, List.singleton_append,
    List.find?_cons]
  cases c.names suffix with
  | true => rfl
  | false => rfl

/-! ## 2. The owners after a call -/

variable {l : Language} {owners : Table Language} {r : Registry}

theorem take_cons (l : Language) (owners : Table Language) (raw : String) (rest : List String) :
    (take l owners (raw :: rest)).1 = (take l (Table.put (normalSuffix raw) l owners) rest).1 := by
  rw [take]
  cases Table.get? owners (normalSuffix raw) with
  | some previous => rfl
  | none => rfl

theorem nodup_keys_take (h : (Table.keys owners).Nodup) (suffixes : List String) :
    (Table.keys (take l owners suffixes).1).Nodup := by
  induction suffixes generalizing owners with
  | nil => exact h
  | cons raw rest ih =>
    rw [take_cons]
    exact ih (Table.nodup_keys_put h)

/-- **The owners after a call**: what it names belongs to its language, and nothing else moves. -/
theorem get?_take (suffixes : List String) (suffix : String) :
    Table.get? (take l owners suffixes).1 suffix =
      if suffix ∈ suffixes.map normalSuffix then some l else Table.get? owners suffix := by
  induction suffixes generalizing owners with
  | nil => rfl
  | cons raw rest ih =>
    rw [take_cons, ih, List.map_cons]
    by_cases hrest : suffix ∈ rest.map normalSuffix
    · rw [if_pos hrest, if_pos (List.mem_cons_of_mem _ hrest)]
    · rw [if_neg hrest]
      by_cases hraw : normalSuffix raw = suffix
      · rw [hraw, Table.get?_put_self, if_pos List.mem_cons_self]
      · rw [Table.get?_put_of_ne hraw, if_neg]
        rintro (_ | ⟨_, hmem⟩)
        · exact hraw rfl
        · exact hrest hmem

/-! ## 3. The languages after a call -/

theorem mem_owning (h : (Table.keys owners).Nodup) {ls : List Language} :
    l ∈ owning owners ls ↔ l ∈ ls ∧ ∃ suffix, Table.get? owners suffix = some l := by
  rw [Table.exists_get?_iff h, owning, List.mem_filter, List.any_eq_true]
  simp only [beq_iff_eq]

/-- **What a call can do to the languages**: some are dropped, and the language that is registered
comes behind the others if it was not among them. -/
theorem languages_register_cases (r : Registry) (l : Language) (suffixes : List String) :
    ∃ keeps added, (r.register l suffixes).1.languages = r.languages.filter keeps ++ added ∧
      (added = [] ∨ added = [l] ∧ l ∉ r.languages) := by
  let owns : Language → Bool := fun l' => (take l r.owners suffixes).1.any fun e => e.2 == l'
  by_cases hl : l ∈ r.languages
  · refine ⟨owns, [], ?_, .inl rfl⟩
    have hcontains : r.languages.contains l = true := List.contains_iff_mem.mpr hl
    rw [register]
    simp only [hcontains, if_true, List.append_nil]
    rfl
  · have hcontains : r.languages.contains l = false :=
      Bool.eq_false_iff.mpr fun h => hl (List.contains_iff_mem.mp h)
    refine ⟨owns, [l].filter owns, ?_, ?_⟩
    · rw [register]
      simp only [hcontains, Bool.false_eq_true, if_false]
      exact List.filter_append _ _
    · by_cases howns : owns l = true
      · exact .inr ⟨List.filter_cons_of_pos howns, hl⟩
      · exact .inl (List.filter_cons_of_neg howns)

/-- **The order of the languages before and after a call** of one of them: those that are there
both before and after stand in the same order, and one that is there only after stands behind
all others and is the one that was registered. -/
structure Follows (l : Language) (before after : List Language) : Prop where
  common : after.filter (· ∈ before) = before.filter (· ∈ after)
  entering : ∀ l' ∈ after, l' ∉ before → l' = l ∧ ∃ others, after = others ++ [l']

theorem languages_follow (r : Registry) (l : Language) (suffixes : List String) :
    Follows l r.languages (r.register l suffixes).1.languages := by
  obtain ⟨keeps, added, hafter, hadded⟩ := languages_register_cases r l suffixes
  have hnew : ∀ l' ∈ added, l' = l ∧ l' ∉ r.languages := by
    rcases hadded with rfl | ⟨rfl, hl⟩
    · nofun
    · exact List.forall_mem_singleton.mpr ⟨rfl, hl⟩
  rw [hafter]
  constructor
  · have hnone : added.filter (· ∈ r.languages) = [] :=
      List.filter_eq_nil_iff.mpr fun l' hl' => by simpa using (hnew l' hl').2
    have hkept : (r.languages.filter keeps).filter (· ∈ r.languages) = r.languages.filter keeps :=
      List.filter_eq_self.mpr fun l' hl' => by simpa using (List.mem_filter.mp hl').1
    rw [List.filter_append, hnone, hkept, List.append_nil]
    refine List.filter_congr fun l' hl' => ?_
    have hold : l' ∉ added := fun h => (hnew l' h).2 hl'
    simp [hl', hold]
  · intro l' hl' hbefore
    rcases List.mem_append.mp hl' with hkept | hl'
    · exact absurd (List.mem_filter.mp hkept).1 hbefore
    · rcases hadded with rfl | ⟨rfl, -⟩
      · cases hl'
      · cases List.mem_singleton.mp hl'
        exact ⟨rfl, _, rfl⟩

theorem nodup_languages_register (h : r.languages.Nodup) (l : Language) (suffixes : List String) :
    (r.register l suffixes).1.languages.Nodup := by
  obtain ⟨keeps, added, hafter, hadded⟩ := languages_register_cases r l suffixes
  have hkept : (r.languages.filter keeps).Nodup := h.filter keeps
  rw [hafter]
  rcases hadded with rfl | ⟨rfl, hl⟩
  · rwa [List.append_nil]
  · rw [List.nodup_append]
    refine ⟨hkept, List.nodup_cons.mpr ⟨List.not_mem_nil, List.nodup_nil⟩, ?_⟩
    rintro l' hl' _ hmem rfl
    cases List.mem_singleton.mp hmem
    exact hl (List.mem_filter.mp hl').1

/-! ## 4. What every call preserves -/

/-- **A registry that fits the calls it was made by.** -/
structure WellKept (cs : List Registration) (r : Registry) : Prop where
  /-- The last call that names a suffix decides who owns it. -/
  owner (suffix : String) : Table.get? r.owners suffix = lastNaming cs suffix
  keys_nodup : (Table.keys r.owners).Nodup
  index_perm : r.index.Perm (Table.keys r.owners)
  index_sorted : r.index.Pairwise fun a b => b.length ≤ a.length
  languages_nodup : r.languages.Nodup
  /-- The languages are those that own a suffix. -/
  mem_languages_iff (l : Language) :
    l ∈ r.languages ↔ ∃ suffix, Table.get? r.owners suffix = some l

theorem wellKept_empty : empty.WellKept [] where
  owner _ := rfl
  keys_nodup := List.nodup_nil
  index_perm := .refl []
  index_sorted := .nil
  languages_nodup := List.nodup_nil
  mem_languages_iff _ := ⟨nofun, nofun⟩

/-- **A call** leaves a registry that fits the calls up to it. -/
theorem wellKept_register {cs : List Registration} (h : r.WellKept cs) (c : Registration) :
    (r.register c.language c.suffixes).1.WellKept (cs ++ [c]) where
  owner suffix := by
    have howner := h.owner suffix
    rw [lastNaming_append, ← howner]
    simp only [Registration.names, List.contains_iff_mem]
    exact get?_take c.suffixes suffix
  keys_nodup := nodup_keys_take h.keys_nodup c.suffixes
  index_perm := longestFirst_perm _
  index_sorted := longestFirst_sorted _
  languages_nodup := nodup_languages_register h.languages_nodup _ _
  mem_languages_iff l := by
    have hkeys := nodup_keys_take (l := c.language) h.keys_nodup c.suffixes
    rw [register, mem_owning hkeys]
    refine and_iff_right_of_imp ?_
    -- Whoever owns a suffix after the call is either registered by it or was listed before.
    rintro ⟨suffix, howner⟩
    have hlisted : l = c.language ∨ l ∈ r.languages := by
      rw [get?_take] at howner
      split at howner
      · exact .inl (Option.some.inj howner).symm
      · exact .inr ((h.mem_languages_iff l).mpr ⟨suffix, howner⟩)
    split
    · rename_i hcontains
      rcases hlisted with rfl | hl
      · exact List.contains_iff_mem.mp hcontains
      · exact hl
    · rcases hlisted with rfl | hl
      · exact List.mem_append_right _ List.mem_cons_self
      · exact List.mem_append_left _ hl

/-- **Any calls** leave a registry that fits them. -/
theorem wellKept_ofRegistrations (cs : List Registration) :
    (ofRegistrations cs).WellKept cs := by
  induction cs using List.reverseRecOn with
  | nil => exact wellKept_empty
  | append_singleton cs c ih =>
    rw [ofRegistrations, List.foldl_append]
    exact wellKept_register ih c

/-- Languages that are registered for their own suffixes. -/
theorem ofLanguages_eq (ls : List Language) :
    ofLanguages ls = ofRegistrations (ls.map fun l => ⟨l, l.extensions⟩) := by
  rw [ofRegistrations, List.foldl_map]
  rfl

/-! ## 5. What lookups give -/

variable {cs : List Registration} {suffix : String}

/-- **A file resolves to a listed language**, if it resolves to any. -/
theorem WellKept.mem_languages_of_resolve {file : Path} {l : Language} (h : r.WellKept cs)
    (hresolve : r.resolve file = some l) : l ∈ r.languages := by
  obtain ⟨suffix, -, -, howner⟩ := suffix_of_resolve hresolve
  exact (h.mem_languages_iff l).mpr ⟨suffix, howner⟩

/-- The suffixes of a registry are in their kept form. -/
theorem WellKept.kept (h : r.WellKept cs) (hkey : suffix ∈ Table.keys r.owners) : Kept suffix := by
  rw [← Table.get?_isSome_iff, h.owner, lastNaming, Option.isSome_map, List.find?_isSome] at hkey
  obtain ⟨c, -, hnames⟩ := hkey
  obtain ⟨raw, -, rfl⟩ := List.mem_map.mp (List.contains_iff_mem.mp hnames)
  exact kept_normalSuffix raw

/-- **A suffix of a registry** is found there, and so is its owner. -/
theorem WellKept.get_key (h : r.WellKept cs) (hkey : suffix ∈ Table.keys r.owners) :
    r.contains suffix = true ∧
      ∃ l, Table.get? r.owners suffix = some l ∧ r.get suffix = .ok l := by
  have hnormal : normalSuffix suffix = suffix := (h.kept hkey).normalSuffix_eq
  have hsome := (Table.get?_isSome_iff r.owners suffix).mpr hkey
  obtain ⟨l, howner⟩ := Option.isSome_iff_exists.mp hsome
  refine ⟨?_, l, howner, ?_⟩
  · rw [contains, hnormal]
    exact hsome
  · rw [get, hnormal, howner]

/-- **What holds of the registry after any calls.**  Owners, languages and index fit the calls, also
after one more call, by which no two languages change places; every language that a file resolves
to is listed; every suffix is found in the form in which it is kept, which is final. -/
theorem registrations_accounted (cs : List Registration) :
    (ofRegistrations cs).WellKept cs ∧
    (∀ l suffixes, Follows l (ofRegistrations cs).languages
      ((ofRegistrations cs).register l suffixes).1.languages) ∧
    (∀ file l, (ofRegistrations cs).resolve file = some l → l ∈ (ofRegistrations cs).languages) ∧
    (∀ suffix ∈ Table.keys (ofRegistrations cs).owners,
      (ofRegistrations cs).contains suffix = true ∧
      ∃ l, Table.get? (ofRegistrations cs).owners suffix = some l ∧
        (ofRegistrations cs).get suffix = .ok l) ∧
    ∀ raw, normalSuffix (normalSuffix raw) = normalSuffix raw := by
  have h := wellKept_ofRegistrations cs
  exact ⟨h, languages_follow _, fun _ _ => h.mem_languages_of_resolve,
    fun suffix hkey => h.get_key hkey, normalSuffix_idem⟩

end SourceCheck.Registry

import Mathlib.Data.List.Nodup
import SourceCheck.Builtin.Language
import SourceCheck.Proofs.Registry.Registering

/-!
# Suffixes that change hands

A call takes its suffixes one after the other, and one that it has taken is its own from then on. So
however often and in whatever spellings a suffix stands in the list, it is told once, and what is
told is who owned it before the call.  Between two calls nothing changes hands; what is told over
all calls is therefore all that ever changed hands.

* `handover`, `take_overrides`: what a call tells.
* `change`, `changed`: what changes hands between two tables of owners, whatever is told.
* `told`, `changes`: both over any calls.
* `handovers_told`: what is told is what changes hands.
-/

namespace SourceCheck.Registry

/-! ## 1. First occurrences -/

/-- It does not matter whether some elements are taken out of a list before or after repetitions
are. -/
theorem eraseDups_filter (p : String → Bool) (xs : List String) :
    (xs.filter p).eraseDups = xs.eraseDups.filter p := by
  cases xs with
  | nil => rfl
  | cons x xs =>
    have hrest := eraseDups_filter p (xs.filter fun y => !y == x)
    rw [List.filter_filter] at hrest
    rw [List.eraseDups_cons]
    by_cases hx : p x = true
    · rw [List.filter_cons_of_pos hx, List.filter_cons_of_pos hx, List.eraseDups_cons, ← hrest,
        List.filter_filter]
      simp only [Bool.and_comm]
    · have hsame : ∀ y, p y = (p y && !y == x) := by
        intro y
        by_cases hy : y = x
        · subst hy
          simp [hx]
        · simp [hy]
      rw [List.filter_cons_of_neg hx, List.filter_cons_of_neg hx, ← hrest, ← funext hsame]
termination_by xs.length
decreasing_by exact Nat.lt_succ_of_le (List.length_filter_le _ _)

theorem nodup_eraseDups (xs : List String) : xs.eraseDups.Nodup := by
  cases xs with
  | nil => exact List.nodup_nil
  | cons x xs =>
    rw [List.eraseDups_cons, List.nodup_cons]
    exact ⟨by simp, nodup_eraseDups (xs.filter fun y => !y == x)⟩
termination_by xs.length
decreasing_by exact Nat.lt_succ_of_le (List.length_filter_le _ _)

/-! ## 2. What a call tells -/

variable {l : Language} {owners : Table Language} {r : Registry} {o : Override}
  {suffix : String} {suffixes : List String}

/-- **What is told about a suffix that a language takes**: who owned it, if this was another one. -/
def handover (l : Language) (owners : Table Language) (suffix : String) : Option Override :=
  match Table.get? owners suffix with
  | some previous => if previous = l then none else some ⟨suffix, previous, l⟩
  | none => none

theorem handover_eq_some_iff : handover l owners suffix = some o ↔
    o.suffix = suffix ∧ Table.get? owners suffix = some o.previous ∧ o.previous ≠ l ∧
      o.next = l := by
  obtain ⟨s, previous, next⟩ := o
  rw [handover]
  cases Table.get? owners suffix with
  | none => simp
  | some owner =>
    by_cases howner : owner = l
    · subst howner
      simp +contextual
    · simp only [if_neg howner, Option.some.injEq, Override.mk.injEq]
      constructor
      · rintro ⟨rfl, rfl, rfl⟩
        exact ⟨rfl, rfl, howner, rfl⟩
      · rintro ⟨rfl, rfl, -, rfl⟩
        exact ⟨rfl, rfl, rfl⟩

/-- Nothing is told about a suffix that the language has just taken. -/
theorem handover_put_self : handover l (Table.put suffix l owners) suffix = none := by
  rw [handover, Table.get?_put_self]
  exact if_pos rfl

theorem handover_put_of_ne {other : String} (h : suffix ≠ other) :
    handover l (Table.put suffix l owners) other = handover l owners other := by
  rw [handover, handover, Table.get?_put_of_ne h]

theorem take_cons_overrides (l : Language) (owners : Table Language) (raw : String)
    (rest : List String) : (take l owners (raw :: rest)).2 =
      (handover l owners (normalSuffix raw)).toList ++
        (take l (Table.put (normalSuffix raw) l owners) rest).2 := by
  rw [take, handover]
  cases Table.get? owners (normalSuffix raw) with
  | none => rfl
  | some previous =>
    dsimp only
    split
    · rfl
    · rfl

/-- **What a call tells**: each suffix once, in the order in which they first stand in the list, and
who owned it before the call. -/
theorem take_overrides (l : Language) (owners : Table Language) (suffixes : List String) :
    (take l owners suffixes).2 =
      (suffixes.map normalSuffix).eraseDups.filterMap (handover l owners) := by
  induction suffixes generalizing owners with
  | nil => rfl
  | cons raw rest ih =>
    let suffix := normalSuffix raw
    -- The suffix that is taken is skipped later on, and for all others the owners are the same.
    have hskip : ∀ other, (if (!other == suffix) = true then handover l owners other else none) =
        handover l (Table.put suffix l owners) other := by
      intro other
      by_cases hother : other = suffix
      · rw [hother, handover_put_self]
        simp
      · rw [handover_put_of_ne (Ne.symm hother)]
        simp [hother]
    have hlater : ((rest.map normalSuffix).filter fun s => !s == suffix).eraseDups.filterMap
        (handover l owners) = (take l (Table.put suffix l owners) rest).2 := by
      rw [eraseDups_filter, List.filterMap_filter, ih]
      exact List.filterMap_congr fun other _ => hskip other
    rw [take_cons_overrides, List.map_cons, List.eraseDups_cons, List.filterMap_cons, hlater]
    cases handover l owners (normalSuffix raw) with
    | none => rfl
    | some o => rfl

/-- **A handover that a call tells** is one of a suffix in the list, from another language to the
one that is registered. -/
theorem mem_take_iff : o ∈ (take l owners suffixes).2 ↔ o.suffix ∈ suffixes.map normalSuffix ∧
    Table.get? owners o.suffix = some o.previous ∧ o.previous ≠ l ∧ o.next = l := by
  rw [take_overrides, List.mem_filterMap]
  simp only [List.mem_eraseDups, handover_eq_some_iff]
  constructor
  · rintro ⟨suffix, hmem, rfl, howner⟩
    exact ⟨hmem, howner⟩
  · rintro ⟨hmem, howner⟩
    exact ⟨o.suffix, hmem, rfl, howner⟩

/-- No suffix is told twice. -/
theorem nodup_take (l : Language) (owners : Table Language) (suffixes : List String) :
    (take l owners suffixes).2.Nodup := by
  rw [take_overrides]
  refine (nodup_eraseDups _).filterMap fun s s' o hs hs' => ?_
  exact (handover_eq_some_iff.mp hs).1.symm.trans (handover_eq_some_iff.mp hs').1

/-! ## 3. What changes hands -/

/-- **What happens to a suffix between two tables**: it changes hands if it has an owner in both,
and not the same one. -/
def change (before after : Table Language) (suffix : String) : Option Override :=
  match Table.get? before suffix, Table.get? after suffix with
  | some previous, some next => if previous = next then none else some ⟨suffix, previous, next⟩
  | _, _ => none

/-- **What changes hands between two tables.** -/
def changed (before after : Table Language) : List Override :=
  (Table.keys before).filterMap (change before after)

section Change

variable {before after : Table Language}

theorem change_eq_some_iff : change before after suffix = some o ↔
    o.suffix = suffix ∧ Table.get? before suffix = some o.previous ∧
      Table.get? after suffix = some o.next ∧ o.previous ≠ o.next := by
  rw [change]
  constructor
  · intro ho
    split at ho
    · rename_i previous next hbefore hafter
      split at ho
      · cases ho
      · rename_i hne
        cases ho
        exact ⟨rfl, hbefore, hafter, hne⟩
    · cases ho
  · rintro ⟨rfl, hbefore, hafter, hne⟩
    rw [hbefore, hafter]
    exact if_neg hne

theorem mem_changed_iff : o ∈ changed before after ↔
    Table.get? before o.suffix = some o.previous ∧ Table.get? after o.suffix = some o.next ∧
      o.previous ≠ o.next := by
  rw [changed, List.mem_filterMap]
  simp only [change_eq_some_iff]
  constructor
  · rintro ⟨suffix, -, rfl, hchange⟩
    exact hchange
  · rintro ⟨hbefore, hchange⟩
    refine ⟨o.suffix, (Table.get?_isSome_iff before o.suffix).mp ?_, rfl, hbefore, hchange⟩
    rw [hbefore]
    rfl

theorem nodup_changed (h : (Table.keys before).Nodup) (after : Table Language) :
    (changed before after).Nodup := by
  refine h.filterMap fun s s' o hs hs' => ?_
  exact (change_eq_some_iff.mp hs).1.symm.trans (change_eq_some_iff.mp hs').1

end Change

/-- **What a call tells is what changes hands by it.** -/
theorem take_perm_changed (h : (Table.keys owners).Nodup) (l : Language) (suffixes : List String) :
    (take l owners suffixes).2.Perm (changed owners (take l owners suffixes).1) := by
  refine (List.perm_ext_iff_of_nodup (nodup_take l owners suffixes) (nodup_changed h _)).mpr ?_
  intro o
  rw [mem_take_iff, mem_changed_iff, get?_take]
  constructor
  · rintro ⟨hmem, howner, hne, rfl⟩
    rw [if_pos hmem]
    exact ⟨howner, rfl, hne⟩
  · rintro ⟨howner, hnext, hne⟩
    split at hnext
    · rename_i hmem
      cases hnext
      exact ⟨hmem, howner, hne, rfl⟩
    · exact absurd (Option.some.inj (howner.symm.trans hnext)) hne

/-! ## 4. Any calls -/

/-- **What is told over some calls**, starting with a registry. -/
def told (r : Registry) : List Registration → List Override
  | [] => []
  | c :: cs =>
    (r.register c.language c.suffixes).2 ++ told (r.register c.language c.suffixes).1 cs

/-- **What changes hands over some calls**, by each of them. -/
def changes (r : Registry) : List Registration → List Override
  | [] => []
  | c :: cs =>
    changed r.owners (r.register c.language c.suffixes).1.owners ++
      changes (r.register c.language c.suffixes).1 cs

theorem told_perm_changes (h : (Table.keys r.owners).Nodup) (cs : List Registration) :
    (told r cs).Perm (changes r cs) := by
  induction cs generalizing r with
  | nil => exact .refl []
  | cons c cs ih =>
    have hcall := take_perm_changed h c.language c.suffixes
    exact hcall.append (ih (nodup_keys_take h c.suffixes))

theorem told_append (r : Registry) (cs cs' : List Registration) :
    told r (cs ++ cs') = told r cs ++
      told (cs.foldl (fun r c => (r.register c.language c.suffixes).1) r) cs' := by
  induction cs generalizing r with
  | nil => rfl
  | cons c cs ih =>
    rw [List.cons_append, told, told, ih, List.append_assoc]
    rfl

/-- **No suffix changes hands silently**: if a call leaves a suffix with another owner, it is the
one that is registered, and the call tells so. -/
theorem told_of_owner_changed {c : Registration} {previous : Language}
    (hbefore : Table.get? r.owners suffix = some previous)
    (hafter : Table.get? (r.register c.language c.suffixes).1.owners suffix ≠ some previous) :
    Table.get? (r.register c.language c.suffixes).1.owners suffix = some c.language ∧
      ⟨suffix, previous, c.language⟩ ∈ (r.register c.language c.suffixes).2 := by
  have howner : Table.get? (r.register c.language c.suffixes).1.owners suffix = _ :=
    get?_take c.suffixes suffix
  rw [howner] at hafter ⊢
  split at hafter
  · rename_i hmem
    rw [if_pos hmem]
    refine ⟨rfl, mem_take_iff.mpr ⟨hmem, hbefore, fun he => hafter ?_, rfl⟩⟩
    exact congrArg some he.symm
  · exact absurd hbefore hafter

/-- **What is told is what changes hands.**

After any calls, one more tells of each suffix in its list once, in the order in which they first
stand there, if the suffix had another owner before the call; the warning names the suffix, that
owner and the new one, and there is no other.  So over any calls as many warnings are logged as
suffixes ever changed hands, and no suffix gets another owner without one. -/
theorem handovers_told :
    (∀ (cs : List Registration) (l : Language) (suffixes : List String),
      ((ofRegistrations cs).register l suffixes).2 =
        (suffixes.map normalSuffix).eraseDups.filterMap (handover l (ofRegistrations cs).owners) ∧
      ((ofRegistrations cs).register l suffixes).2.Nodup ∧
      (∀ o, o ∈ ((ofRegistrations cs).register l suffixes).2 ↔
        o.suffix ∈ suffixes.map normalSuffix ∧
          Table.get? (ofRegistrations cs).owners o.suffix = some o.previous ∧
          o.previous ≠ l ∧ o.next = l) ∧
      ∀ o ∈ ((ofRegistrations cs).register l suffixes).2, o.record.level = .warning ∧
        o.record.text = "extension " ++ o.suffix ++ " registered by " ++ o.previous.name ++
          " is overridden by " ++ l.name) ∧
    (∀ cs, (told empty cs).Perm (changes empty cs) ∧
      ((told empty cs).map Override.record).length = (changes empty cs).length) ∧
    ∀ (before after : List Registration) (c : Registration) (suffix : String) (previous : Language),
      Table.get? (ofRegistrations before).owners suffix = some previous →
      Table.get? (ofRegistrations (before ++ [c])).owners suffix ≠ some previous →
      Table.get? (ofRegistrations (before ++ [c])).owners suffix = some c.language ∧
        ⟨suffix, previous, c.language⟩ ∈ told empty (before ++ c :: after) := by
  refine ⟨fun cs l suffixes => ⟨take_overrides .., nodup_take .., fun o => mem_take_iff, ?_⟩,
    fun cs => ?_, fun before after c suffix previous hbefore hafter => ?_⟩
  · intro o ho
    obtain ⟨-, -, -, hnext⟩ := mem_take_iff.mp ho
    exact ⟨rfl, by rw [← hnext]; rfl⟩
  · have hperm := told_perm_changes wellKept_empty.keys_nodup cs
    refine ⟨hperm, ?_⟩
    rw [List.length_map]
    exact hperm.length_eq
  · have hcall : ofRegistrations (before ++ [c]) =
        ((ofRegistrations before).register c.language c.suffixes).1 := by
      rw [ofRegistrations, List.foldl_append]
      rfl
    rw [hcall] at hafter ⊢
    obtain ⟨howner, htold⟩ := told_of_owner_changed hbefore hafter
    refine ⟨howner, ?_⟩
    rw [told_append]
    exact List.mem_append_right _ (List.mem_append_left _ htold)

/-- A language that takes the suffix of another one, in two spellings, and one of its own. -/
def overriding : Registration := ⟨{ Builtin.lua.language with key := 99 }, ["LUA", " .lua", ".rb"]⟩

theorem handovers_told_spellings :
    Table.get? (ofRegistrations [⟨Builtin.lua.language, [".lua"]⟩]).owners ".lua" =
      some Builtin.lua.language ∧
    ⟨".lua", Builtin.lua.language, overriding.language⟩ ∈
      told empty ([⟨Builtin.lua.language, [".lua"]⟩] ++ [overriding]) ∧
    (told empty [⟨Builtin.lua.language, [".lua"]⟩, overriding]).length = 1 := by
  obtain ⟨-, -, hsilent⟩ := handovers_told
  have hbefore : Table.get? (ofRegistrations [⟨Builtin.lua.language, [".lua"]⟩]).owners ".lua" =
      some Builtin.lua.language := by decide +kernel
  have hafter : Table.get? (ofRegistrations ([⟨Builtin.lua.language, [".lua"]⟩] ++
      [overriding])).owners ".lua" ≠ some Builtin.lua.language := by decide +kernel
  obtain ⟨-, htold⟩ := hsilent _ [] overriding ".lua" _ hbefore hafter
  exact ⟨hbefore, htold, by decide +kernel⟩

end SourceCheck.Registry

import SourceCheck.Table

/-!
# Tables whose keys differ

Writing keeps the keys of a table apart.  In such a table a key has exactly one value, and the order
of the entries does not matter to a lookup.

* `nodup_keys_put`: writing keeps the keys apart.
* `get?_eq_some_iff`, `get?_eq_none_iff`: the value of a key stands beside it.
* `get?_perm`: the order of the entries.
-/

namespace SourceCheck.Table

variable {α : Type} {t : Table α} {key : String} {value : α}

theorem nodup_keys_put (h : (keys t).Nodup) : (keys (put key value t)).Nodup := by
  rw [keys_put]
  split
  · exact h
  · rename_i hnew
    rw [List.nodup_append]
    refine ⟨h, List.nodup_cons.mpr ⟨List.not_mem_nil, List.nodup_nil⟩, ?_⟩
    rintro k hk k' hk' rfl
    exact hnew (List.mem_singleton.mp hk' ▸ hk)

/-- **Where the keys differ**, a key has exactly the value that stands beside it. -/
theorem get?_eq_some_iff (h : (keys t).Nodup) : get? t key = some value ↔ (key, value) ∈ t := by
  induction t with
  | nil => simp
  | cons e rest ih =>
    obtain ⟨k, v⟩ := e
    obtain ⟨hnew, hrest⟩ := List.nodup_cons.mp h
    rw [get?_cons, List.mem_cons]
    by_cases hk : k = key
    · subst hk
      have hbehind : (k, value) ∉ rest := fun hm => hnew (List.mem_map.mpr ⟨_, hm, rfl⟩)
      simp [hbehind, eq_comm]
    · have hb : ((k, v).1 == key) = false := by simpa using hk
      rw [hb, if_neg Bool.false_ne_true, ih hrest]
      simp [Ne.symm hk]

/-- A key has no value exactly if it is not among the keys. -/
theorem get?_eq_none_iff : get? t key = none ↔ key ∉ keys t := by
  rw [← get?_isSome_iff, Option.not_isSome_iff_eq_none]

theorem get?_perm {t' : Table α} (h : t.Perm t') (hkeys : (keys t).Nodup) :
    get? t' key = get? t key := by
  have hkeys' : (keys t').Nodup := (h.map _).nodup_iff.mp hkeys
  refine Option.ext fun value => ?_
  rw [get?_eq_some_iff hkeys, get?_eq_some_iff hkeys', h.mem_iff]

/-- **The values of a table whose keys differ.** -/
theorem exists_get?_iff (h : (keys t).Nodup) :
    (∃ key, get? t key = some value) ↔ ∃ e ∈ t, e.2 = value := by
  simp only [get?_eq_some_iff h, Prod.exists, exists_eq_right]

end SourceCheck.Table

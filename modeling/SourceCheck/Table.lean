/-!
# Tables in the order of writing

A table gives a value to some keys and remembers the order in which the keys were first written.
Writing a key again replaces its value and keeps its place.

* `Table.put`, `Table.get?`: writing and looking up.
* `get?_put_self`, `get?_put_of_ne`: a lookup sees exactly the last writing of its key.
-/

namespace SourceCheck

/-- **A table of values**, each key once, in the order of first writing. -/
abbrev Table (α : Type) := List (String × α)

namespace Table

variable {α : Type}

/-- **Writes a value**: at the end, or over the value that the key already has. -/
def put (key : String) (value : α) : Table α → Table α
  | [] => [(key, value)]
  | (k, v) :: rest => if k == key then (k, value) :: rest else (k, v) :: put key value rest

/-- **The value of a key.** -/
def get? (t : Table α) (key : String) : Option α := (t.find? fun e => e.1 == key).map (·.2)

/-- The keys in order. -/
def keys (t : Table α) : List String := t.map (·.1)

/-! ## 1. Lookups after a writing -/

@[simp] theorem get?_nil (key : String) : get? ([] : Table α) key = none := rfl

theorem get?_cons (e : String × α) (t : Table α) (key : String) :
    get? (e :: t) key = if e.1 == key then some e.2 else get? t key := by
  by_cases h : (e.1 == key) = true <;> simp [get?, h]

theorem get?_put_self (key : String) (value : α) (t : Table α) :
    get? (put key value t) key = some value := by
  induction t with
  | nil => simp [put, get?]
  | cons e rest ih =>
    simp only [put]
    split
    · rename_i h; rw [get?_cons, h]; rfl
    · rename_i h
      rw [get?_cons]
      simp only [h]
      exact ih

theorem get?_put_of_ne {key key' : String} (h : key ≠ key') (value : α) (t : Table α) :
    get? (put key value t) key' = get? t key' := by
  induction t with
  | nil => simp [put, get?, h]
  | cons e rest ih =>
    simp only [put]
    split
    · rename_i hk
      have hk' : e.1 = key := by simpa using hk
      rw [get?_cons, get?_cons]
      simp [hk', h]
    · rw [get?_cons, get?_cons, ih]

/-- Writing adds the key at the end if it is new and else leaves the keys as they are. -/
theorem keys_put (key : String) (value : α) (t : Table α) :
    keys (put key value t) = if key ∈ keys t then keys t else keys t ++ [key] := by
  induction t with
  | nil => simp [put, keys]
  | cons e rest ih =>
    simp only [put]
    split
    · rename_i h
      have : e.1 = key := by simpa using h
      simp [keys, this]
    · rename_i h
      have hne : key ≠ e.1 := by rintro rfl; simp at h
      simp only [keys, List.map_cons, List.mem_cons, hne, false_or] at ih ⊢
      rw [ih]
      split <;> rename_i hm <;> simp [hm]

/-- A key has a value exactly if it is among the keys. -/
theorem get?_isSome_iff (t : Table α) (key : String) : (get? t key).isSome ↔ key ∈ keys t := by
  induction t with
  | nil => simp [keys]
  | cons e rest ih =>
    rw [get?_cons]
    by_cases h : e.1 = key
    · simp [h, keys]
    · have hb : (e.1 == key) = false := by simpa using h
      simp only [hb, keys, List.map_cons, List.mem_cons, Ne.symm h, false_or]
      exact ih

end Table

end SourceCheck

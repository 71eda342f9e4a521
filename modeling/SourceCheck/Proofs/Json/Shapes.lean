import SourceCheck.Json.Reader

/-!
# The shapes of documents

Arrays and objects are read alike: an opening mark, then either the closing mark or something
inside; behind each item a comma and more, or the closing mark; white space anywhere between.  Here
each of these shapes is a definition, and the readers of values, items and members are put together
from them, so that a law about reading has one case for each shape.

* `nested`, `continued`, `behind`, `quoted`: the shapes.
* `value_array`, `value_object`, `value_string`, `value_scalar`: what a value is by its first mark.
* `items_succ`, `members_succ`: one item, one member, and the rest.
-/

namespace SourceCheck.Json

variable {d : Dialect} {s : List Char}

/-! ## 1. Shapes -/

/-- An object, and nothing else. -/
def isObject : Json → Bool
  | object _ => true
  | _ => false

/-- A step, and what is read behind it. -/
def andThen {α : Type} (st : Step α) (more : α → List Char → Step Json) : Step Json :=
  match st with
  | .ok (a, rest) => more a rest
  | .error e => .error e

/-- **What an opening mark starts**: its closing mark right away, or something inside, if a further
level is allowed. -/
def nested (d : Dialect) (depth : Nat) (close : Char) (empty : Json)
    (inner : List Char → Step Json) (cs : List Char) : Step Json :=
  if d.countsEmpty && !d.allows depth then .error (.tooDeep empty.isObject)
  else if (skip cs).head? = some close then .ok (empty, (skip cs).tail)
  else if d.allows depth then d.inside (depth + 1) (inner (skip cs))
  else .error (.tooDeep empty.isObject)

/-- The room that is left does not matter for what is read. -/
@[simp] theorem inside_eq_ok_iff {depth : Nat} {st : Step Json} {x : Json × List Char} :
    d.inside depth st = .ok x ↔ st = .ok x := by
  unfold Dialect.inside
  split
  · split <;> simp
  · rfl

/-- An array or an object with nothing in it. -/
theorem nested_empty {depth : Nat} {close : Char} {empty : Json} {inner : List Char → Step Json}
    {cs : List Char} (h : d.countsEmpty = false ∨ d.allows depth = true)
    (hcs : (skip cs).head? = some close) :
    nested d depth close empty inner cs = .ok (empty, (skip cs).tail) := by
  have hcounts : (d.countsEmpty && !d.allows depth) = false := by
    rcases h with h | h <;> simp [h]
  rw [nested, hcounts, if_neg Bool.false_ne_true, if_pos hcs]

/-- What is read inside an opening mark is what is read behind it. -/
theorem nested_of_inner {depth : Nat} {close : Char} {empty : Json}
    {inner : List Char → Step Json} {cs : List Char} {x : Json × List Char}
    (hallows : d.allows depth = true) (hcs : (skip cs).head? ≠ some close)
    (h : inner (skip cs) = .ok x) : nested d depth close empty inner cs = .ok x := by
  rw [nested, hallows, Bool.not_true, Bool.and_false, if_neg Bool.false_ne_true, if_neg hcs,
    if_pos rfl, inside_eq_ok_iff, h]

/-- **What an opening mark can start**, if it is read. -/
theorem of_nested {depth : Nat} {close : Char} {empty : Json} {inner : List Char → Step Json}
    {cs : List Char} {v : Json} {r : List Char}
    (h : nested d depth close empty inner cs = .ok (v, r)) :
    (skip cs).head? = some close ∧ v = empty ∧ r = (skip cs).tail ∨
      inner (skip cs) = .ok (v, r) := by
  rw [nested] at h
  split at h
  · cases h
  · split at h
    · rename_i hclose
      cases h
      exact .inl ⟨hclose, rfl, rfl⟩
    · split at h
      · exact .inr (inside_eq_ok_iff.mp h)
      · cases h

/-- **What stands behind an item**: a comma and more, or the closing mark. -/
def continued (close : Char) (whole : Json) (more : List Char → Step Json) (s : List Char) :
    Step Json :=
  if (skip s).head? = some ',' then more (skip (skip s).tail)
  else if (skip s).head? = some close then .ok (whole, (skip s).tail)
  else .error .malformed

/-- What stands behind a mark. -/
def behind (mark : Char) (more : List Char → Step Json) (s : List Char) : Step Json :=
  if (skip s).head? = some mark then more (skip (skip s).tail) else .error .malformed

/-- What starts with a string. -/
def quoted (d : Dialect) (more : List Char → List Char → Step Json) (s : List Char) : Step Json :=
  if s.head? = some '"' then andThen (stringBody d s.tail) more else .error .malformed

/-! ## 2. Values, items and members -/

theorem value_array (fuel depth : Nat) (cs : List Char) :
    value d (fuel + 1) depth ('[' :: cs) =
      nested d depth ']' (.array []) (items d fuel (depth + 1) []) cs := by
  rw [nested, value.eq_def]
  rcases hcs : skip cs with _ | ⟨c, rest⟩
  · simp only [hcs, List.head?_nil, reduceCtorEq, if_false, isObject]
  · by_cases hc : c = ']'
    · simp only [hcs, hc, List.head?_cons, if_true, List.tail_cons, isObject]
    · simp [hcs, hc, isObject]

theorem value_object (fuel depth : Nat) (cs : List Char) :
    value d (fuel + 1) depth ('\x7b' :: cs) =
      nested d depth '\x7d' (.object []) (members d fuel (depth + 1) []) cs := by
  rw [nested, value.eq_def]
  rcases hcs : skip cs with _ | ⟨c, rest⟩
  · simp only [hcs, List.head?_nil, reduceCtorEq, if_false, isObject]
  · by_cases hc : c = '\x7d'
    · simp only [hcs, hc, List.head?_cons, if_true, List.tail_cons, isObject]
    · simp [hcs, hc, isObject]

theorem value_string (fuel depth : Nat) (cs : List Char) :
    value d (fuel + 1) depth ('"' :: cs) =
      andThen (stringBody d cs) fun text rest => .ok (.string (String.ofList text), rest) := by
  rw [value]
  cases stringBody d cs <;> rfl

/-- The marks that start a string, an array or an object. -/
def openingMarks : List Char := ['"', '[', '\x7b']

theorem value_scalar (fuel depth : Nat) (h : ∀ c ∈ s.head?, c ∉ openingMarks) :
    value d (fuel + 1) depth s = scalar d s := by
  rw [value.eq_def]
  dsimp only
  split
  · exact absurd (by simp [openingMarks]) (h _ rfl)
  · exact absurd (by simp [openingMarks]) (h _ rfl)
  · exact absurd (by simp [openingMarks]) (h _ rfl)
  · rfl

/-- How a text can start. -/
theorem opening_cases (s : List Char) :
    (∃ cs, s = '"' :: cs) ∨ (∃ cs, s = '[' :: cs) ∨ (∃ cs, s = '\x7b' :: cs) ∨
      ∀ c ∈ s.head?, c ∉ openingMarks := by
  cases s with
  | nil => exact .inr (.inr (.inr nofun))
  | cons c cs =>
    by_cases hquote : c = '"'
    · exact .inl ⟨cs, by rw [hquote]⟩
    · by_cases hopen : c = '['
      · exact .inr (.inl ⟨cs, by rw [hopen]⟩)
      · by_cases hbrace : c = '\x7b'
        · exact .inr (.inr (.inl ⟨cs, by rw [hbrace]⟩))
        · exact .inr (.inr (.inr (by simp [openingMarks, hquote, hopen, hbrace])))

theorem items_succ (fuel depth : Nat) (done : List Json) (s : List Char) :
    items d (fuel + 1) depth done s = andThen (value d fuel depth s) fun v =>
      continued ']' (.array (v :: done).reverse) (items d fuel depth (v :: done)) := by
  rw [items]
  cases hv : value d fuel depth s with
  | error e => rfl
  | ok p =>
    obtain ⟨v, rest⟩ := p
    simp only [andThen, continued]
    rcases skip rest with _ | ⟨c, r⟩
    · rfl
    · by_cases hcomma : c = ','
      · simp [hcomma]
      · by_cases hclose : c = ']' <;> simp [hcomma, hclose]

theorem members_succ (fuel depth : Nat) (done : Members) (s : List Char) :
    members d (fuel + 1) depth done s = quoted d (fun key => behind ':' fun s =>
      andThen (value d fuel depth s) fun v =>
        continued '\x7d' (.object (Table.put (String.ofList key) v done))
          (members d fuel depth (Table.put (String.ofList key) v done))) s := by
  rw [members.eq_def, quoted]
  dsimp only
  rcases s with _ | ⟨q, cs⟩
  · rfl
  · by_cases hquote : q = '"'
    · subst hquote
      simp only [List.head?_cons, if_true, List.tail_cons]
      cases hkey : stringBody d cs with
      | error e => rfl
      | ok k =>
        obtain ⟨key, rest⟩ := k
        simp only [andThen, behind]
        rcases skip rest with _ | ⟨c, r⟩
        · rfl
        · by_cases hcolon : c = ':'
          · subst hcolon
            simp only [List.head?_cons, if_true, List.tail_cons]
            cases hv : value d fuel depth (skip r) with
            | error e => rfl
            | ok p =>
              obtain ⟨v, rest⟩ := p
              simp only [continued]
              rcases skip rest with _ | ⟨c, r⟩
              · rfl
              · by_cases hcomma : c = ','
                · simp [hcomma]
                · by_cases hclose : c = '\x7d' <;> simp [hcomma, hclose]
          · simp [hcolon]
    · simp [hquote]

end SourceCheck.Json

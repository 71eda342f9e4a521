import SourceCheck.Json.Value

/-!
# Equality of documents

Two documents are compared member by member, so that a statement about a document that is given in
full can be computed.
-/

namespace SourceCheck.Json

mutual

/-- **Whether two documents are the same.** -/
def same : Json → Json → Bool
  | null, null => true
  | bool a, bool b => a == b
  | int a, int b => a == b
  | number x, number y => decide (x = y)
  | string s, string t => s == t
  | array vs, array ws => sameItems vs ws
  | object ms, object ns => sameMembers ms ns
  | _, _ => false

/-- Whether the items of two arrays are the same. -/
def sameItems : List Json → List Json → Bool
  | [], [] => true
  | v :: vs, w :: ws => same v w && sameItems vs ws
  | _, _ => false

/-- Whether the members of two objects are the same, in the same order. -/
def sameMembers : List (String × Json) → List (String × Json) → Bool
  | [], [] => true
  | (k, v) :: ms, (l, w) :: ns => k == l && same v w && sameMembers ms ns
  | _, _ => false

end

mutual

theorem same_iff : ∀ {v w : Json}, same v w = true ↔ v = w
  | null, w => by cases w <;> simp [same]
  | bool a, w => by cases w <;> simp [same]
  | int a, w => by cases w <;> simp [same]
  | number x, w => by cases w <;> simp [same]
  | string s, w => by cases w <;> simp [same]
  | array vs, w => by cases w <;> simp [same, sameItems_iff]
  | object ms, w => by cases w <;> simp [same, sameMembers_iff]

theorem sameItems_iff : ∀ {vs ws : List Json}, sameItems vs ws = true ↔ vs = ws
  | [], ws => by cases ws <;> simp [sameItems]
  | v :: vs, ws => by cases ws <;> simp [sameItems, same_iff, sameItems_iff]

theorem sameMembers_iff :
    ∀ {ms ns : List (String × Json)}, sameMembers ms ns = true ↔ ms = ns
  | [], ns => by cases ns <;> simp [sameMembers]
  | (k, v) :: ms, ns => by
    cases ns <;> simp [sameMembers, Prod.ext_iff, same_iff, sameMembers_iff, and_assoc]

end

instance : DecidableEq Json := fun _ _ => decidable_of_iff _ same_iff

end SourceCheck.Json

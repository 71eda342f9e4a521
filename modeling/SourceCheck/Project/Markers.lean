import SourceCheck.Machine.Basic

/-!
# Markers in a directory

A project shows its root by files or directories with certain names.
-/

namespace SourceCheck.Machine

/-- **Whether a directory holds an entry with one of some names.**  The names are tried in order,
and nothing is asked beyond the first one that is there. -/
def holdsAny (m : Machine) (directory : Path) : List String → Except Fault Bool
  | [] => .ok false
  | name :: rest =>
    match m.exists? (directory.child name) with
    | .ok true => .ok true
    | .ok false => holdsAny m directory rest
    | .error f => .error f

/-- If every question is answered, so is whether one of the names is there. -/
theorem holdsAny_eq_ok {m : Machine} {directory : Path} {names : List String}
    {there : String → Bool}
    (h : ∀ name ∈ names, m.exists? (directory.child name) = .ok (there name)) :
    m.holdsAny directory names = .ok (names.any there) := by
  induction names with
  | nil => rfl
  | cons name rest ih =>
    rw [holdsAny, h name (by simp)]
    cases hn : there name with
    | true => simp [hn]
    | false => simp [hn, ih fun n hm => h n (by simp [hm])]

end SourceCheck.Machine

import SourceCheck.Project.Markers
import SourceCheck.Proofs.Machine.Directories

/-!
# Questions that are refused

A question about a path has a plain answer also where the path leads nowhere: then the answer is no.
Two refusals come through, because then the system does not say whether anything is there: a
directory on the way that may not be searched, and a name that is too long.

* `FileTree.walk_error`: the reasons why names lead nowhere.
* `Machine.Refuses`: paths that the system refuses to follow.
* `Machine.holds?_eq_error_iff`: the questions that have no answer.
* `Machine.holdsAny_eq_iff`: the first of some names for which the answer is not no.
-/

namespace SourceCheck

/-! ## 1. Why names lead nowhere -/

namespace FileTree

variable {t : FileTree} {followLast : Bool}
  {onLink : Location → List String → Except SystemError Place} {here : Location}
  {names : List String} {e : SystemError}

/-- The reasons that do not say whether anything is there. -/
def refusals : List SystemError := [.forbidden, .nameTooLong]

/-- **The reasons why names lead nowhere.** -/
def reasons : List SystemError := [.missing, .notADirectory, .linkLoop] ++ refusals

theorem closed?_reason (h : t.closed? here = some e) : e ∈ reasons := by
  rw [closed?] at h
  split at h
  · split at h
    · cases h
    · cases h
      decide
  · cases h
    decide
  · cases h
    decide

theorem scan_error (hlink : ∀ here names, onLink here names = .error e → e ∈ reasons)
    (h : scan t followLast onLink here names = .error e) : e ∈ reasons := by
  induction names generalizing here with
  | nil => cases h
  | cons name rest ih =>
    rw [scan] at h
    split at h
    · exact ih h
    · split at h
      · rename_i hclosed
        cases h
        exact closed?_reason hclosed
      · split at h
        · exact ih h
        · split at h
          · exact ih h
          · split at h
            · cases h
              decide
            · dsimp only at h
              split at h
              · split at h
                · cases h
                · cases h
                  decide
              · split at h
                · cases h
                · split at h
                  · exact hlink _ _ h
                  · exact hlink _ _ h
              · exact ih h
              · split at h
                · cases h
                · cases h
                  decide

theorem walk_error {n : Nat} (h : walk t followLast n here names = .error e) : e ∈ reasons := by
  induction n generalizing here names with
  | zero =>
    refine scan_error (fun _ _ hlink => ?_) h
    cases hlink
    decide
  | succ n ih => exact scan_error (fun _ _ hlink => ih hlink) h

end FileTree

namespace Machine

variable {m : Machine} {p directory : Path} {f : Fault} {property : Entry → Bool}
  {names : List String} {r : Except Fault Bool}

/-! ## 2. Single questions -/

/-- **A path that the system refuses to follow**, and why: it does not say whether anything is
there. -/
structure Refuses (m : Machine) (p : Path) (f : Fault) : Prop where
  refused : m.find p true = .error f
  unsaid : leadsNowhere f = false

/-- **A question about a path is refused** exactly if the system refuses to follow the path. -/
theorem holds?_eq_error_iff : m.holds? p property = .error f ↔ m.Refuses p f := by
  rw [holds?, entry?]
  cases hfind : m.find p true with
  | ok place =>
    constructor
    · intro h
      cases h
    · intro h
      cases hfind.symm.trans h.refused
  | error g =>
    dsimp only
    cases hg : leadsNowhere g with
    | true =>
      constructor
      · intro h
        cases h
      · intro h
        cases hfind.symm.trans h.refused
        cases hg.symm.trans h.unsaid
    | false =>
      constructor
      · intro h
        cases h
        exact ⟨hfind, hg⟩
      · intro h
        cases hfind.symm.trans h.refused
        rfl

/-- **Why a path is refused**: it is not allowed, or a name or the whole path is too long. -/
theorem Refuses.cause (h : m.Refuses p f) :
    ∃ e ∈ FileTree.refusals, f = .system e p.text := by
  obtain ⟨hrefused, hunsaid⟩ := h
  rw [find] at hrefused
  split at hrefused
  · cases hrefused
    cases hunsaid
  · split at hrefused
    · cases hrefused
      exact ⟨.nameTooLong, by decide, rfl⟩
    · split at hrefused
      · cases hrefused
      · rename_i e hwalk
        cases hrefused
        rcases List.mem_append.mp (FileTree.walk_error hwalk) with hnowhere | hmem
        · simp only [List.mem_cons, List.not_mem_nil, or_false] at hnowhere
          rcases hnowhere with rfl | rfl | rfl <;> cases hunsaid
        · exact ⟨e, hmem, rfl⟩

/-- **A path whose first name is too long** is refused, whatever is there. -/
theorem refuses_of_first {anchor : Anchor} {name : String}
    (hnull : Path.hasNull ⟨anchor, name :: names⟩ = false)
    (hopen : m.files.closed? (m.startOf ⟨anchor, name :: names⟩) = none)
    (hlong : FileTree.nameLimit < name.utf8ByteSize) :
    m.Refuses ⟨anchor, name :: names⟩
      (.system .nameTooLong (Path.text ⟨anchor, name :: names⟩)) := by
  have hne : ∀ s : String, s.utf8ByteSize ≤ FileTree.nameLimit → (name == s) = false := by
    intro s hs
    rw [beq_eq_false_iff_ne]
    rintro rfl
    exact absurd hlong (Nat.not_lt.mpr hs)
  have hwalk : m.files.walk true FileTree.linkLimit (m.startOf ⟨anchor, name :: names⟩)
      (name :: names) = .error .nameTooLong := by
    rw [FileTree.linkLimit, FileTree.walk, FileTree.scan, hne "" (by decide), hopen,
      hne "." (by decide), hne ".." (by decide), if_pos hlong]
    rfl
  refine ⟨?_, rfl⟩
  rw [find, hnull, if_neg Bool.false_ne_true]
  split
  · rfl
  · rw [hwalk]

/-! ## 3. One question after the other -/

/-- **The answer is no up to one of some names**, and for that name it is another one. -/
def FirstAnswer (m : Machine) (directory : Path) (names : List String) (r : Except Fault Bool) :
    Prop :=
  ∃ before name after, names = before ++ name :: after ∧
    (∀ other ∈ before, m.exists? (directory.child other) = .ok false) ∧
    m.exists? (directory.child name) = r

/-- **Names are tried until the answer is not no**, and that answer counts. -/
theorem holdsAny_eq_iff (hr : r ≠ .ok false) :
    m.holdsAny directory names = r ↔ m.FirstAnswer directory names r := by
  induction names with
  | nil =>
    refine iff_of_false (fun h => hr h.symm) ?_
    rintro ⟨before, name, after, hnames, -⟩
    exact List.append_ne_nil_of_right_ne_nil before (List.cons_ne_nil name after) hnames.symm
  | cons name rest ih =>
    rw [holdsAny]
    constructor
    · intro h
      split at h
      · rename_i hyes
        exact ⟨[], name, rest, rfl, List.forall_mem_nil _, hyes.trans h⟩
      · rename_i hno
        obtain ⟨before, hit, after, rfl, hbefore, hhit⟩ := ih.mp h
        exact ⟨name :: before, hit, after, rfl, List.forall_mem_cons.mpr ⟨hno, hbefore⟩, hhit⟩
      · rename_i hrefused
        exact ⟨[], name, rest, rfl, List.forall_mem_nil _, hrefused.trans h⟩
    · rintro ⟨before, hit, after, hnames, hbefore, hhit⟩
      cases before with
      | nil =>
        obtain ⟨rfl, rfl⟩ := List.cons.inj hnames
        rw [hhit]
        cases r with
        | error f => rfl
        | ok there =>
          cases there with
          | true => rfl
          | false => exact absurd rfl hr
      | cons other before =>
        obtain ⟨rfl, rfl⟩ := List.cons.inj hnames
        obtain ⟨hno, hbefore⟩ := List.forall_mem_cons.mp hbefore
        rw [hno]
        exact ih.mpr ⟨before, hit, after, rfl, hbefore, hhit⟩

theorem holdsAny_eq_true_iff : m.holdsAny directory names = .ok true ↔
    m.FirstAnswer directory names (.ok true) := holdsAny_eq_iff (by simp)

theorem holdsAny_eq_error_iff : m.holdsAny directory names = .error f ↔
    m.FirstAnswer directory names (.error f) := holdsAny_eq_iff (by simp)

theorem holdsAny_eq_false_iff : m.holdsAny directory names = .ok false ↔
    ∀ name ∈ names, m.exists? (directory.child name) = .ok false := by
  refine ⟨fun h => ?_, fun h => (holdsAny_eq_ok h).trans (by simp)⟩
  induction names with
  | nil => exact List.forall_mem_nil _
  | cons name rest ih =>
    rw [holdsAny] at h
    split at h
    · cases h
    · rename_i hno
      exact List.forall_mem_cons.mpr ⟨hno, ih h⟩
    · cases h

end Machine

end SourceCheck

import SourceCheck.Proofs.Machine.Writing

/-!
# Directories that are made are there

Making a directory and those above it ends at the directory itself, so afterwards the path leads to
one.  It still does when a file is written somewhere else, and making it again changes nothing.  So
a file can be written a second time as it was written the first time.

* `FileTree.Leads.frame`: names lead where they led when something is put elsewhere.
* `Machine.isDirectory?_of_makeDirectories`: after making a directory it is there.
* `Machine.on_makeDirectories_of_isDirectory?`: making a directory that is there.
-/

namespace SourceCheck

/-! ## 1. Where names lead, once more -/

namespace FileTree

variable {t : FileTree} {followLast : Bool}
  {onLink onLink' : Location → List String → Except SystemError Place} {here l : Location}
  {names : List String} {e : Option Entry} {p : Place}

/-- **Names lead where they led** when something is put in place of a file, or of nothing, that does
not stand at their end. -/
theorem Leads.frame (entry : Entry) (h : Leads t followLast onLink here names p)
    (hrep : Replaceable (t.lookup l)) (haway : l ≠ p.location)
    (hlink : ∀ here names, onLink here names = .ok p → onLink' here names = .ok p) :
    Leads (t.put l entry) followLast onLink' here names p := by
  induction h with
  | here l' => exact lookup_put_of_ne haway t entry ▸ .here l'
  | empty h ih => exact .empty (ih haway hlink)
  | same hopen h ih => exact .same (closed?_put hopen entry hrep) (ih haway hlink)
  | up hopen h ih => exact .up (closed?_put hopen entry hrep) (ih haway hlink)
  | down hopen hname hdir h ih =>
    exact .down (closed?_put hopen entry hrep) hname
      (lookup_put_of_lasting hdir (fun hr => hr) hrep) (ih haway hlink)
  | link hopen hname htarget hfollow h =>
    exact .link (closed?_put hopen entry hrep) hname
      (lookup_put_of_lasting htarget (fun hr => hr) hrep) hfollow (hlink _ _ h)
  | last hopen hname he hends =>
    exact .last (closed?_put hopen entry hrep) hname
      ((lookup_put_of_ne haway t entry).trans he) hends

theorem walk_frame (entry : Entry) (hrep : Replaceable (t.lookup l)) (haway : l ≠ p.location)
    {n : Nat} (h : walk t followLast n here names = .ok p) :
    walk (t.put l entry) followLast n here names = .ok p := by
  induction n generalizing here names with
  | zero =>
    refine scan_of_leads ((leads_of_scan h).frame entry hrep haway fun _ _ hlink => ?_)
    cases hlink
  | succ n ih =>
    exact scan_of_leads ((leads_of_scan h).frame entry hrep haway fun _ _ hlink => ih hlink)

/-- Names that lead to no link lead there also when a link at the end is followed. -/
theorem Leads.following (h : Leads t false onLink here names p)
    (hp : ∀ target, p.entry ≠ some (.link target))
    (hlink : ∀ here names, onLink here names = .ok p → onLink' here names = .ok p) :
    Leads t true onLink' here names p := by
  induction h with
  | here l => exact .here l
  | empty h ih => exact .empty (ih hp hlink)
  | same hopen h ih => exact .same hopen (ih hp hlink)
  | up hopen h ih => exact .up hopen (ih hp hlink)
  | down hopen hname hdir h ih => exact .down hopen hname hdir (ih hp hlink)
  | link hopen hname htarget hfollow h =>
    exact .link hopen hname htarget (by rw [Bool.not_true, Bool.and_false]) (hlink _ _ h)
  | @last _ _ e hopen hname he hends =>
    refine .last hopen hname he ?_
    match e, hends, hp with
    | none, _, _ => trivial
    | some (.file _ _), _, _ => trivial
    | some (.program _), _, _ => trivial
    | some .nullDevice, _, _ => trivial
    | some (.link target), _, hp => exact absurd rfl (hp target)

theorem walk_following (hp : ∀ target, p.entry ≠ some (.link target)) {n : Nat}
    (h : walk t false n here names = .ok p) : walk t true n here names = .ok p := by
  induction n generalizing here names with
  | zero => exact scan_of_leads ((leads_of_scan h).following hp fun _ _ hlink => hlink)
  | succ n ih => exact scan_of_leads ((leads_of_scan h).following hp fun _ _ hlink => ih hlink)

/-- Names that lead to an entry lead to one also when a link at the end is not followed. -/
theorem Leads.halting (h : Leads t true onLink here names p) (hp : p.entry.isSome = true)
    (hlink : ∀ here names, onLink here names = .ok p →
      ∃ q, onLink' here names = .ok q ∧ q.entry.isSome = true) :
    ∃ q, Leads t false onLink' here names q ∧ q.entry.isSome = true := by
  induction h with
  | here l => exact ⟨_, .here l, hp⟩
  | empty h ih =>
    obtain ⟨q, hq, hsome⟩ := ih hp hlink
    exact ⟨q, .empty hq, hsome⟩
  | same hopen h ih =>
    obtain ⟨q, hq, hsome⟩ := ih hp hlink
    exact ⟨q, .same hopen hq, hsome⟩
  | up hopen h ih =>
    obtain ⟨q, hq, hsome⟩ := ih hp hlink
    exact ⟨q, .up hopen hq, hsome⟩
  | down hopen hname hdir h ih =>
    obtain ⟨q, hq, hsome⟩ := ih hp hlink
    exact ⟨q, .down hopen hname hdir hq, hsome⟩
  | @link here name rest _ target hopen hname htarget hfollow h =>
    by_cases hrest : rest = []
    · subst hrest
      exact ⟨_, .last hopen hname htarget rfl, rfl⟩
    · obtain ⟨q, hq, hsome⟩ := hlink _ _ h
      exact ⟨q, .link hopen hname htarget (by simp [hrest]) hq, hsome⟩
  | @last _ _ e hopen hname he hends =>
    refine ⟨_, .last hopen hname he ?_, hp⟩
    match e, hends with
    | none, _ => trivial
    | some (.file _ _), _ => trivial
    | some (.program _), _ => trivial
    | some .nullDevice, _ => trivial
    | some (.link _), _ => rfl

theorem walk_halting (hp : p.entry.isSome = true) {n : Nat}
    (h : walk t true n here names = .ok p) :
    ∃ q, walk t false n here names = .ok q ∧ q.entry.isSome = true := by
  induction n generalizing here names with
  | zero =>
    have hnolink : ∀ (_ : Location) (_ : List String),
        (.error .linkLoop : Except SystemError Place) = .ok p →
        ∃ q, (.error .linkLoop : Except SystemError Place) = .ok q ∧ q.entry.isSome = true :=
      fun _ _ => nofun
    obtain ⟨q, hq, hsome⟩ := (leads_of_scan h).halting hp hnolink
    exact ⟨q, scan_of_leads hq, hsome⟩
  | succ n ih =>
    obtain ⟨q, hq, hsome⟩ := (leads_of_scan h).halting hp fun _ _ hlink => ih hlink
    exact ⟨q, scan_of_leads hq, hsome⟩

end FileTree

namespace Machine

open FileAction

variable {m m' : Machine} {p q : Path} {l : Location} {e : Option Entry} {followLast : Bool}

theorem find_frame {place : Place} (entry : Entry) (hfind : m.find p followLast = .ok place)
    (hrep : FileTree.Replaceable (m.files.lookup l)) (haway : l ≠ place.location) :
    Machine.find { m with files := m.files.put l entry } p followLast = .ok place := by
  obtain ⟨hnull, hshort, hwalk⟩ := find_eq_ok_iff.mp hfind
  exact find_eq_ok_iff.mpr ⟨hnull, hshort, FileTree.walk_frame entry hrep haway hwalk⟩

/-- A path that leads to no link leads there also when a link at its end is followed. -/
theorem find_following {place : Place} (h : m.find p false = .ok place)
    (hplace : ∀ target, place.entry ≠ some (.link target)) : m.find p true = .ok place := by
  obtain ⟨hnull, hshort, hwalk⟩ := find_eq_ok_iff.mp h
  exact find_eq_ok_iff.mpr ⟨hnull, hshort, FileTree.walk_following hplace hwalk⟩

theorem lookup_of_find {place : Place} (h : m.find p followLast = .ok place) :
    m.files.lookup place.location = place.entry :=
  FileTree.lookup_of_walk (find_eq_ok_iff.mp h).2.2

theorem isDirectory?_iff :
    m.isDirectory? p = .ok true ↔ ∃ l mode, m.find p true = .ok ⟨l, some (.directory mode)⟩ := by
  rw [isDirectory?, holds?, entry?]
  cases m.find p true with
  | error f => cases hf : leadsNowhere f <;> simp [Except.map, hf]
  | ok place =>
    obtain ⟨l, e⟩ := place
    cases e with
    | none => simp [Except.map]
    | some e => cases e <;> simp [Except.map, Entry.isDirectory]

/-- **A directory is still there** when something is put in place of a file, or of nothing. -/
theorem isDirectory?_frame (entry : Entry) (h : m.isDirectory? p = .ok true)
    (hrep : FileTree.Replaceable (m.files.lookup l)) :
    Machine.isDirectory? { m with files := m.files.put l entry } p = .ok true := by
  obtain ⟨l', mode, hfind⟩ := isDirectory?_iff.mp h
  refine isDirectory?_iff.mpr ⟨l', mode, find_frame entry hfind hrep ?_⟩
  rintro rfl
  rw [lookup_of_find hfind] at hrep
  exact hrep

/-! ## 2. Directories that have been made -/

theorem isDirectory?_of_makeDirectory (h : on (makeDirectory p) m = (.ok (), m')) :
    m'.isDirectory? p = .ok true := by
  rw [makeDirectory, on_bind, on_get] at h
  dsimp only at h
  split at h
  · cases h
  · rename_i l hfind
    split at h
    · rw [on_changeFiles] at h
      cases h
      have hfollowing := find_following hfind fun _ => nofun
      exact isDirectory?_iff.mpr ⟨l, _, find_put (e := none) nofun trivial hfollowing⟩
    · cases h
  · cases h

theorem isDirectory?_of_unlessThere {f : Fault} (h : on (unlessThere p f) m = (.ok (), m')) :
    m'.isDirectory? p = .ok true := by
  rw [unlessThere, on_bind, on_get] at h
  dsimp only at h
  split at h
  · rename_i hthere
    cases h
    exact hthere
  · cases h
  · cases h

theorem isDirectory?_of_ensureDirectory (h : on (ensureDirectory p) m = (.ok (), m')) :
    m'.isDirectory? p = .ok true := by
  rcases of_on_tryCatch h with hmade | ⟨e, m₁, -, hthere⟩
  · exact isDirectory?_of_makeDirectory hmade
  · exact isDirectory?_of_unlessThere hthere

/-- **After making a directory** and those above it, it is there. -/
theorem isDirectory?_of_makeDirectories (h : on (makeDirectories p) m = (.ok (), m')) :
    m'.isDirectory? p = .ok true := by
  rw [makeDirectories] at h
  cases hparts : p.parts.length with
  | zero =>
    rw [hparts] at h
    have hroot : p = ⟨p.anchor, []⟩ := by rw [← List.length_eq_zero_iff.mp hparts]
    rw [hroot]
    exact isDirectory?_of_ensureDirectory h
  | succ n =>
    have hwhole : (⟨p.anchor, p.parts.take (n + 1)⟩ : Path) = p := by
      rw [← hparts, List.take_length]
    rw [hparts, makeDirectoriesUpTo, hwhole] at h
    rcases of_on_tryCatch h with hmade | ⟨e, m₁, -, hdealt⟩
    · exact isDirectory?_of_makeDirectory hmade
    · split at hdealt
      · obtain ⟨_, m₂, -, hensured⟩ := of_on_bind hdealt
        exact isDirectory?_of_ensureDirectory hensured
      · exact isDirectory?_of_unlessThere hdealt

/-! ## 3. Directories that are there -/

theorem on_makeDirectory_of_isDirectory? (h : m.isDirectory? p = .ok true) :
    on (makeDirectory p) m = (.error (.system .alreadyThere p.text), m) := by
  obtain ⟨l, mode, hfind⟩ := isDirectory?_iff.mp h
  obtain ⟨hnull, hshort, hwalk⟩ := find_eq_ok_iff.mp hfind
  obtain ⟨⟨l', e⟩, hhalting, hsome⟩ := FileTree.walk_halting rfl hwalk
  obtain ⟨entry, rfl⟩ := Option.isSome_iff_exists.mp hsome
  have hfind' : m.find p false = .ok ⟨l', some entry⟩ :=
    find_eq_ok_iff.mpr ⟨hnull, hshort, hhalting⟩
  rw [makeDirectory, on_bind, on_get]
  dsimp only
  rw [hfind']
  rfl

theorem on_unlessThere_of_isDirectory? (h : m.isDirectory? p = .ok true) (f : Fault) :
    on (unlessThere p f) m = (.ok (), m) := by
  rw [unlessThere, on_bind, on_get]
  dsimp only
  rw [h]
  rfl

/-- **Making a directory that is there** changes nothing. -/
theorem on_makeDirectories_of_isDirectory? (h : m.isDirectory? p = .ok true) :
    on (makeDirectories p) m = (.ok (), m) := by
  have hmade := on_makeDirectory_of_isDirectory? h
  rw [makeDirectories]
  cases hparts : p.parts.length with
  | zero =>
    have hroot : (⟨p.anchor, []⟩ : Path) = p := by rw [← List.length_eq_zero_iff.mp hparts]
    rw [makeDirectoriesUpTo, hroot, ensureDirectory, on_tryCatch, hmade]
    exact on_unlessThere_of_isDirectory? h _
  | succ n =>
    have hwhole : (⟨p.anchor, p.parts.take (n + 1)⟩ : Path) = p := by
      rw [← hparts, List.take_length]
    rw [makeDirectoriesUpTo, hwhole, on_tryCatch, hmade]
    exact on_unlessThere_of_isDirectory? h _

end Machine

end SourceCheck

import SourceCheck.Proofs.Machine.Directories

/-!
# Machines that only grow

Making directories leaves everything that is there where it is, also when it fails half way: the
directories that were made by then stay, and nothing else has changed.  They stand where the
beginnings of the path lead, which need not be above the place where the whole path leads.  So a
path that led to something leads there still.  Writing a file fails in one of two ways.  Either the
file is not opened, and nothing happens to it; or it is opened, which empties it, and then the bytes
do not fit.

* `FileTree.walk_mono`: names lead where they led in a tree that has more entries.
* `Machine.Grown`: a machine that has more directories along a path, and is the same otherwise.
* `FileAction.GrowsOn`: actions that make directories or fail with a refusal.
* `Machine.growsOn_makeDirectories`, `Machine.writeBytes_fails`: the two halves of storing a file.
-/

namespace SourceCheck

/-! ## 1. Trees with more entries -/

namespace FileTree

variable {t t' : FileTree} {followLast : Bool}
  {onLink onLink' : Location → List String → Except SystemError Place} {here : Location}
  {names : List String} {p : Place} {e : Entry}

/-- A directory that may be searched stays one. -/
theorem closed?_mono (hkept : ∀ l e, t.lookup l = some e → t'.lookup l = some e) {l : Location}
    (hopen : t.closed? l = none) : t'.closed? l = none := by
  rw [closed?] at hopen ⊢
  cases hl : t.lookup l with
  | none =>
    rw [hl] at hopen
    cases hopen
  | some e =>
    rw [hkept l e hl]
    rw [hl] at hopen
    exact hopen

/-- **Names that lead to an entry** lead there also in a tree that has all entries of the first. -/
theorem Leads.mono (hkept : ∀ l e, t.lookup l = some e → t'.lookup l = some e)
    (h : Leads t followLast onLink here names p) (hp : p.entry = some e)
    (hlink : ∀ here names, onLink here names = .ok p → onLink' here names = .ok p) :
    Leads t' followLast onLink' here names p := by
  induction h with
  | here l =>
    have hsame : t'.lookup l = t.lookup l := (hkept l e hp).trans hp.symm
    exact hsame ▸ .here l
  | empty h ih => exact .empty (ih hp hlink)
  | same hopen h ih => exact .same (closed?_mono hkept hopen) (ih hp hlink)
  | up hopen h ih => exact .up (closed?_mono hkept hopen) (ih hp hlink)
  | down hopen hname hdir h ih =>
    exact .down (closed?_mono hkept hopen) hname (hkept _ _ hdir) (ih hp hlink)
  | link hopen hname htarget hfollow h =>
    exact .link (closed?_mono hkept hopen) hname (hkept _ _ htarget) hfollow (hlink _ _ h)
  | last hopen hname he hends =>
    cases hp
    exact .last (closed?_mono hkept hopen) hname (hkept _ _ he) hends

theorem walk_mono (hkept : ∀ l e, t.lookup l = some e → t'.lookup l = some e)
    (hp : p.entry = some e) {n : Nat} (h : walk t followLast n here names = .ok p) :
    walk t' followLast n here names = .ok p := by
  induction n generalizing here names with
  | zero =>
    refine scan_of_leads ((leads_of_scan h).mono hkept hp fun _ _ hlink => ?_)
    cases hlink
  | succ n ih =>
    exact scan_of_leads ((leads_of_scan h).mono hkept hp fun _ _ hlink => ih hlink)

end FileTree

/-! ## 2. Machines with more directories -/

/-- A refusal of the operating system. -/
def Fault.IsRefusal : Fault → Prop
  | .system _ _ => True
  | _ => False

theorem Fault.isRefusal_system (e : SystemError) (path : String) : (system e path).IsRefusal :=
  trivial

namespace Machine

variable {m m' m'' : Machine} {p q : Path} {followLast : Bool} {l : Location} {e : Entry}

/-- **A machine that has grown along a path**: it is the same but for more directories, and each of
these stands where a beginning of the path leads, as the path is written. -/
structure Grown (p : Path) (m m' : Machine) : Prop where
  rest : m' = { m with files := m'.files }
  kept : ∀ l e, m.files.lookup l = some e → m'.files.lookup l = some e
  made : ∀ l e, m'.files.lookup l = some e → m.files.lookup l = some e ∨
    e.isDirectory = true ∧ ∃ n, m'.find ⟨p.anchor, p.parts.take n⟩ true = .ok ⟨l, some e⟩

/-- **A path that led to something** leads there still on a machine that has all entries of the
first one. -/
theorem find_mono (hrest : m' = { m with files := m'.files })
    (hkept : ∀ l e, m.files.lookup l = some e → m'.files.lookup l = some e)
    (hfind : m.find q followLast = .ok ⟨l, some e⟩) : m'.find q followLast = .ok ⟨l, some e⟩ := by
  obtain ⟨hnull, hshort, hwalk⟩ := find_eq_ok_iff.mp hfind
  have hstart : m'.startOf q = m.startOf q := by
    rw [hrest]
    rfl
  refine find_eq_ok_iff.mpr ⟨hnull, hshort, ?_⟩
  rw [hstart]
  exact FileTree.walk_mono hkept rfl hwalk

theorem Grown.find (h : Grown p m m') (hfind : m.find q followLast = .ok ⟨l, some e⟩) :
    m'.find q followLast = .ok ⟨l, some e⟩ :=
  find_mono h.rest h.kept hfind

theorem Grown.refl (p : Path) (m : Machine) : Grown p m m :=
  ⟨rfl, fun _ _ h => h, fun _ _ h => .inl h⟩

theorem Grown.trans (h : Grown p m m') (h' : Grown p m' m'') : Grown p m m'' where
  rest := by
    rw [h'.rest, h.rest]
  kept l e hl := h'.kept l e (h.kept l e hl)
  made l e hl := by
    rcases h'.made l e hl with hl' | hmade
    · exact (h.made l e hl').imp_right (And.imp_right fun ⟨n, hn⟩ => ⟨n, h'.find hn⟩)
    · exact .inr hmade

/-- A machine grows by a directory where a beginning of the path led to nothing. -/
theorem grown_put {n : Nat} (hfind : m.find ⟨p.anchor, p.parts.take n⟩ false = .ok ⟨l, none⟩)
    (mode : Nat) : Grown p m { m with files := m.files.put l (.directory mode) } := by
  have hnone : m.files.lookup l = none := lookup_of_find hfind
  have hroot : l ≠ [] := by
    rintro rfl
    cases hnone
  refine ⟨rfl, fun l' e hl' => ?_, fun l' e hl' => ?_⟩
  · have hne : l ≠ l' := by
      rintro rfl
      rw [hnone] at hl'
      cases hl'
    rw [FileTree.lookup_put_of_ne hne]
    exact hl'
  · by_cases hne : l = l'
    · subst hne
      rw [FileTree.lookup_put_self hroot] at hl'
      cases hl'
      exact .inr ⟨rfl, n, find_put (e := none) nofun trivial (find_following hfind fun _ => nofun)⟩
    · rw [FileTree.lookup_put_of_ne hne] at hl'
      exact .inl hl'

/-- What was read is read again. -/
theorem Grown.readBytes (h : Grown p m m') {bytes : List UInt8}
    (hread : m.readBytes q = .ok bytes) : m'.readBytes q = .ok bytes := by
  rw [Machine.readBytes] at hread ⊢
  split at hread
  · cases hread
  · cases hread
  · rename_i l e hfind
    rw [h.find hfind]
    exact hread

/-- A path without the null character is refused by the operating system, or not at all. -/
theorem isRefusal_of_find {f : Fault} (hnull : p.hasNull = false)
    (h : m.find p followLast = .error f) : f.IsRefusal := by
  rw [Machine.find, hnull, if_neg Bool.false_ne_true] at h
  split at h
  · cases h
    exact trivial
  · split at h
    · cases h
    · cases h
      exact trivial

theorem isRefusal_of_isDirectory? {f : Fault} (hnull : p.hasNull = false)
    (h : m.isDirectory? p = .error f) : f.IsRefusal := by
  rw [isDirectory?, holds?, entry?] at h
  split at h
  · cases h
  · rename_i g hfind
    split at h
    · cases h
    · cases h
      exact isRefusal_of_find hnull hfind

end Machine

/-! ## 3. Actions that make directories -/

namespace FileAction

variable {α β : Type} {m : Machine} {p : Path} {a : FileAction α}

/-- **An action that only makes directories along a path** on a machine, and fails only with a
refusal. -/
def GrowsOn (p : Path) (a : FileAction α) (m : Machine) : Prop :=
  m.Grown p (on a m).2 ∧ ∀ f, (on a m).1 = .error f → f.IsRefusal

theorem growsOn_pure (x : α) (m : Machine) : GrowsOn p (pure x) m := ⟨.refl p m, nofun⟩

theorem growsOn_throw {f : Fault} (hf : f.IsRefusal) (m : Machine) :
    GrowsOn p (throw f : FileAction α) m := by
  refine ⟨.refl p m, fun g hg => ?_⟩
  cases hg
  exact hf

theorem growsOn_get_bind {f : Machine → FileAction α} (h : GrowsOn p (f m) m) :
    GrowsOn p (get >>= f) m := by
  rw [GrowsOn, on_bind, on_get]
  exact h

theorem growsOn_bind {f : α → FileAction β} (ha : GrowsOn p a m)
    (hf : ∀ x m', GrowsOn p (f x) m') : GrowsOn p (a >>= f) m := by
  obtain ⟨hgrown, hfails⟩ := ha
  rw [GrowsOn, on_bind]
  rcases hr : on a m with ⟨r, m'⟩
  rw [hr] at hgrown hfails
  cases r with
  | ok x => exact ⟨hgrown.trans (hf x m').1, (hf x m').2⟩
  | error e =>
    refine ⟨hgrown, fun f h => ?_⟩
    cases h
    exact hfails e rfl

theorem growsOn_tryCatch {f : Fault → FileAction α} (ha : GrowsOn p a m)
    (hf : ∀ e m', e.IsRefusal → GrowsOn p (f e) m') : GrowsOn p (tryCatch a f) m := by
  obtain ⟨hgrown, hfails⟩ := ha
  rw [GrowsOn, on_tryCatch]
  rcases hr : on a m with ⟨r, m'⟩
  rw [hr] at hgrown hfails
  cases r with
  | ok x => exact ⟨hgrown, nofun⟩
  | error e =>
    have hhandled := hf e m' (hfails e rfl)
    exact ⟨hgrown.trans hhandled.1, hhandled.2⟩

end FileAction

namespace Machine

open FileAction

variable {m m' : Machine} {p : Path} {n : Nat} {bytes : List UInt8}

/-- A beginning of a path without the null character has none. -/
theorem hasNull_take (hnull : p.hasNull = false) (n : Nat) :
    Path.hasNull ⟨p.anchor, p.parts.take n⟩ = false := by
  rw [Path.hasNull, List.any_eq_false] at hnull ⊢
  exact fun part hpart => hnull part (List.mem_of_mem_take hpart)

theorem growsOn_makeDirectory (hnull : p.hasNull = false) (n : Nat) (m : Machine) :
    GrowsOn p (makeDirectory ⟨p.anchor, p.parts.take n⟩) m := by
  refine growsOn_get_bind ?_
  split
  · rename_i f hfind
    exact growsOn_throw (isRefusal_of_find (hasNull_take hnull n) hfind) m
  · rename_i l hfind
    split
    · exact ⟨grown_put hfind _, nofun⟩
    · exact growsOn_throw (Fault.isRefusal_system _ _) m
  · exact growsOn_throw (Fault.isRefusal_system _ _) m

theorem growsOn_unlessThere (hnull : p.hasNull = false) {f : Fault} (hf : f.IsRefusal)
    (n : Nat) (m : Machine) : GrowsOn p (unlessThere ⟨p.anchor, p.parts.take n⟩ f) m := by
  refine growsOn_get_bind ?_
  split
  · exact growsOn_pure _ m
  · exact growsOn_throw hf m
  · rename_i g hasked
    exact growsOn_throw (isRefusal_of_isDirectory? (hasNull_take hnull n) hasked) m

theorem growsOn_ensureDirectory (hnull : p.hasNull = false) (n : Nat) (m : Machine) :
    GrowsOn p (ensureDirectory ⟨p.anchor, p.parts.take n⟩) m :=
  growsOn_tryCatch (growsOn_makeDirectory hnull n m) fun _ m' hf =>
    growsOn_unlessThere hnull hf n m'

/-- **Making a directory and those above it** leaves all that is there, whether or not it
succeeds. -/
theorem growsOn_makeDirectoriesUpTo (hnull : p.hasNull = false) (n : Nat) (m : Machine) :
    GrowsOn p (makeDirectoriesUpTo p n) m := by
  induction n generalizing m with
  | zero => exact growsOn_ensureDirectory hnull 0 m
  | succ n ih =>
    refine growsOn_tryCatch (growsOn_makeDirectory hnull (n + 1) m) fun e m' he => ?_
    split
    · exact growsOn_bind (ih m') fun _ m'' => growsOn_ensureDirectory hnull (n + 1) m''
    · exact growsOn_unlessThere hnull he (n + 1) m'

theorem growsOn_makeDirectories (hnull : p.hasNull = false) (m : Machine) :
    GrowsOn p (makeDirectories p) m :=
  growsOn_makeDirectoriesUpTo hnull _ m

/-! ## 4. Writing that fails -/

/-- **A file that was cut short**: it was emptied, and only its first bytes were written. -/
inductive CutShort (m : Machine) (p : Path) (bytes : List UInt8) : Machine → Prop
  | intro (l : Location) (e : Option Entry) (limit : Nat) (hfind : m.find p true = .ok ⟨l, e⟩)
    (hwritable : m.Writable l e) (hlimit : m.fileLimit = some limit)
    (hlong : limit < bytes.length) :
    CutShort m p bytes
      { m with files := m.files.put l (.file (modeOver e) (bytes.take limit)) }

/-- Where the bytes do not fit, the first of them are written. -/
theorem on_fill_of_long {l : Location} {mode limit : Nat} (hlimit : m.fileLimit = some limit)
    (hlong : limit < bytes.length) :
    on (fill l mode bytes) m = (.error .fileTooLarge,
      { m with files := m.files.put l (.file mode (bytes.take limit)) }) := by
  rw [fill, on_bind, on_get]
  dsimp only
  rw [hlimit]
  simp only [on_bind, on_changeFiles]
  rw [if_pos hlong, hlimit]
  rfl

/-- **Filling a file fails** only where the bytes do not fit. -/
theorem fill_fails {l : Location} {mode : Nat} {f : Fault}
    (h : on (fill l mode bytes) m = (.error f, m')) :
    f = .fileTooLarge ∧ ∃ limit, m.fileLimit = some limit ∧ limit < bytes.length ∧
      m' = { m with files := m.files.put l (.file mode (bytes.take limit)) } := by
  by_cases hroom : m.HasRoom bytes
  · rw [on_fill_iff.mpr ⟨hroom, rfl⟩] at h
    cases h
  · obtain ⟨limit, hlimit, hlong⟩ : ∃ limit, m.fileLimit = some limit ∧ limit < bytes.length := by
      simpa [HasRoom] using hroom
    rw [on_fill_of_long hlimit hlong] at h
    cases h
    exact ⟨rfl, limit, hlimit, hlong, rfl⟩

/-- **Writing a file fails** before the file is touched, or cuts it short. -/
theorem writeBytes_fails {f : Fault} (hnull : p.hasNull = false)
    (h : on (writeBytes p bytes) m = (.error f, m')) :
    (f.IsRefusal ∧ m' = m) ∨ (f = .fileTooLarge ∧ CutShort m p bytes m') := by
  rw [writeBytes, on_bind, on_get] at h
  dsimp only at h
  split at h
  · rename_i g hfind
    cases h
    exact .inl ⟨isRefusal_of_find hnull hfind, rfl⟩
  · rename_i l hfind
    split at h
    · rename_i hwritable
      obtain ⟨rfl, limit, hlimit, hlong, rfl⟩ := fill_fails h
      exact .inr ⟨rfl, .intro l none limit hfind hwritable hlimit hlong⟩
    · cases h
      exact .inl ⟨trivial, rfl⟩
  · rename_i l mode old hfind
    split at h
    · rename_i hwritable
      obtain ⟨rfl, limit, hlimit, hlong, rfl⟩ := fill_fails h
      exact .inr ⟨rfl, .intro l (some (.file mode old)) limit hfind hwritable hlimit hlong⟩
    · cases h
      exact .inl ⟨trivial, rfl⟩
  · cases h
    exact .inl ⟨trivial, rfl⟩
  · cases h
    exact .inl ⟨trivial, rfl⟩
  · cases h

end Machine

end SourceCheck

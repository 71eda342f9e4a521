import SourceCheck.Machine.Basic

/-!
# Files that are written are there

A file that was written through a path is found through the same path.  That is not plain from the
tree as a map, because the path leads through directories and links: it holds because what is
written stands at the end of the path, where before there was nothing or a file, so no step on the
way there looks at it.

* `FileTree.Leads`: the ways in which names lead to a place.
* `FileTree.walk_put`: a path leads to what is put at its end.
* `FileAction.OnlyFiles`: actions that change nothing but the files.
* `Machine.find_writeBytes`: after writing, the path leads to a file with the bytes, or to a device
  that took them.
-/

namespace SourceCheck

/-! ## 1. Where names lead -/

namespace FileTree

/-- What may give way to a file: nothing, or a file. -/
def Replaceable : Option Entry → Prop
  | none | some (.file _ _) => True
  | _ => False

/-- What ends a walk under the last name: anything but a directory, and a link only if it is not to
be followed. -/
def Ends (followLast : Bool) : Option Entry → Prop
  | some (.directory _) => False
  | some (.link _) => followLast = false
  | _ => True

/-- A name that leads down. -/
def Proper (name : String) : Prop :=
  (name == "" || name == ".") = false ∧ (name == "..") = false ∧ name.utf8ByteSize ≤ nameLimit

/-- Where the target of a link starts from. -/
def targetStart (here : Location) (target : String) : Location :=
  if target.toList.head? = some '/' then [] else here

variable {t : FileTree} {followLast : Bool}
  {onLink : Location → List String → Except SystemError Place} {here l : Location}
  {names : List String} {e : Option Entry} {p : Place}

/-- **The ways in which names lead to a place.**  Whatever is looked up, is looked up in a directory
that may be searched. -/
inductive Leads (t : FileTree) (followLast : Bool)
    (onLink : Location → List String → Except SystemError Place) :
    Location → List String → Place → Prop
  | here (l : Location) : Leads t followLast onLink l [] ⟨l, t.lookup l⟩
  | empty {here : Location} {rest : List String} {p : Place}
    (h : Leads t followLast onLink here rest p) : Leads t followLast onLink here ("" :: rest) p
  | same {here : Location} {rest : List String} {p : Place} (hopen : t.closed? here = none)
    (h : Leads t followLast onLink here rest p) : Leads t followLast onLink here ("." :: rest) p
  | up {here : Location} {rest : List String} {p : Place} (hopen : t.closed? here = none)
    (h : Leads t followLast onLink here.dropLast rest p) :
    Leads t followLast onLink here (".." :: rest) p
  | down {here : Location} {name : String} {rest : List String} {p : Place} {mode : Nat}
    (hopen : t.closed? here = none) (hname : Proper name)
    (hdir : t.lookup (here ++ [name]) = some (.directory mode))
    (h : Leads t followLast onLink (here ++ [name]) rest p) :
    Leads t followLast onLink here (name :: rest) p
  | link {here : Location} {name : String} {rest : List String} {p : Place} {target : String}
    (hopen : t.closed? here = none) (hname : Proper name)
    (hlink : t.lookup (here ++ [name]) = some (.link target))
    (hfollow : (decide (rest = []) && !followLast) = false)
    (h : onLink (targetStart here target) (slashFields target ++ rest) = .ok p) :
    Leads t followLast onLink here (name :: rest) p
  | last {here : Location} {name : String} {e : Option Entry} (hopen : t.closed? here = none)
    (hname : Proper name) (he : t.lookup (here ++ [name]) = e) (hends : Ends followLast e) :
    Leads t followLast onLink here [name] ⟨here ++ [name], e⟩

/-- A name that says something is looked up. -/
theorem scan_meaning {name : String} {rest : List String} (hname : (name == "") = false) :
    scan t followLast onLink here (name :: rest) =
      match t.closed? here with
      | some e => .error e
      | none =>
        if name == "." then scan t followLast onLink here rest
        else if name == ".." then scan t followLast onLink here.dropLast rest
        else if nameLimit < name.utf8ByteSize then .error .nameTooLong
        else
          match t.lookup (here ++ [name]) with
          | none => if rest = [] then .ok ⟨here ++ [name], none⟩ else .error .missing
          | some (.link target) =>
            if rest = [] && !followLast then .ok ⟨here ++ [name], some (.link target)⟩
            else if target.toList.head? = some '/' then onLink [] (slashFields target ++ rest)
            else onLink here (slashFields target ++ rest)
          | some (.directory _) => scan t followLast onLink (here ++ [name]) rest
          | some e =>
            if rest = [] then .ok ⟨here ++ [name], some e⟩ else .error .notADirectory :=
  if_neg (Bool.eq_false_iff.mp hname)

/-- A name that leads down asks what stands there. -/
theorem scan_proper {name : String} {rest : List String} (hopen : t.closed? here = none)
    (hname : Proper name) :
    scan t followLast onLink here (name :: rest) =
      match t.lookup (here ++ [name]) with
      | none => if rest = [] then .ok ⟨here ++ [name], none⟩ else .error .missing
      | some (.link target) =>
        if rest = [] && !followLast then .ok ⟨here ++ [name], some (.link target)⟩
        else if target.toList.head? = some '/' then onLink [] (slashFields target ++ rest)
        else onLink here (slashFields target ++ rest)
      | some (.directory _) => scan t followLast onLink (here ++ [name]) rest
      | some e =>
        if rest = [] then .ok ⟨here ++ [name], some e⟩ else .error .notADirectory := by
  obtain ⟨hsame, hup, hshort⟩ := hname
  obtain ⟨hempty, hdot⟩ := Bool.or_eq_false_iff.mp hsame
  rw [scan_meaning hempty, hopen]
  exact (if_neg (Bool.eq_false_iff.mp hdot)).trans
    ((if_neg (Bool.eq_false_iff.mp hup)).trans (if_neg (Nat.not_lt.mpr hshort)))

/-- What stands under a name that leads down decides the way. -/
theorem leads_of_scan_proper {name : String} {rest : List String} (hopen : t.closed? here = none)
    (hname : Proper name)
    (ih : ∀ {here}, scan t followLast onLink here rest = .ok p →
      Leads t followLast onLink here rest p)
    (h : scan t followLast onLink here (name :: rest) = .ok p) :
    Leads t followLast onLink here (name :: rest) p := by
  rw [scan_proper hopen hname] at h
  cases hn : t.lookup (here ++ [name]) with
  | none =>
    simp only [hn] at h
    split at h
    · rename_i hlast
      cases h
      cases hlast
      exact .last hopen hname hn trivial
    · cases h
  | some entry =>
    cases entry with
    | directory mode =>
      simp only [hn] at h
      exact .down hopen hname hn (ih h)
    | link target =>
      simp only [hn] at h
      split at h
      · rename_i hlast
        obtain ⟨hrest, hfollow⟩ := Bool.and_eq_true_iff.mp hlast
        have hkept : followLast = false := by simpa using hfollow
        cases h
        cases of_decide_eq_true hrest
        exact .last hopen hname hn hkept
      · rename_i hlast
        refine .link hopen hname hn (Bool.eq_false_iff.mpr hlast) ?_
        unfold targetStart
        split at h
        · rename_i habs
          rw [if_pos habs]
          exact h
        · rename_i habs
          rw [if_neg habs]
          exact h
    | _ =>
      simp only [hn] at h
      split at h
      · rename_i hlast
        cases h
        cases hlast
        exact .last hopen hname hn trivial
      · cases h

/-- **Names that are followed to a place lead there** in one of the ways. -/
theorem leads_of_scan (h : scan t followLast onLink here names = .ok p) :
    Leads t followLast onLink here names p := by
  induction names generalizing here with
  | nil =>
    cases h
    exact .here here
  | cons name rest ih =>
    by_cases hempty : (name == "") = true
    · rw [scan, if_pos hempty] at h
      cases beq_iff_eq.mp hempty
      exact .empty (ih h)
    · have hstep := h
      rw [scan_meaning (Bool.eq_false_iff.mpr hempty)] at hstep
      split at hstep
      · cases hstep
      · rename_i hopen
        split at hstep
        · rename_i hdot
          cases beq_iff_eq.mp hdot
          exact .same hopen (ih hstep)
        · rename_i hdot
          split at hstep
          · rename_i hup
            cases beq_iff_eq.mp hup
            exact .up hopen (ih hstep)
          · rename_i hup
            split at hstep
            · cases hstep
            · rename_i hshort
              have hsame : (name == "" || name == ".") = false :=
                Bool.or_eq_false_iff.mpr ⟨Bool.eq_false_iff.mpr hempty, Bool.eq_false_iff.mpr hdot⟩
              exact leads_of_scan_proper hopen
                ⟨hsame, Bool.eq_false_iff.mpr hup, Nat.not_lt.mp hshort⟩ ih h

/-- Each of the ways is followed. -/
theorem scan_of_leads (h : Leads t followLast onLink here names p) :
    scan t followLast onLink here names = .ok p := by
  induction h with
  | here l => rfl
  | empty h ih => exact ih
  | same hopen h ih =>
    rw [scan_meaning rfl, hopen]
    exact ih
  | up hopen h ih =>
    rw [scan_meaning rfl, hopen]
    exact ih
  | down hopen hname hdir h ih =>
    rw [scan_proper hopen hname, hdir]
    exact ih
  | link hopen hname hlink hfollow h =>
    rw [scan_proper hopen hname, hlink]
    refine (if_neg (Bool.eq_false_iff.mp hfollow)).trans ?_
    unfold targetStart at h
    split at h
    · rename_i habs
      rw [if_pos habs, h]
    · rename_i habs
      rw [if_neg habs, h]
  | @last _ name e hopen hname he hends =>
    rw [scan_proper hopen hname, he]
    match e, hends with
    | none, _ => rfl
    | some (.file _ _), _ => rfl
    | some (.program _), _ => rfl
    | some .nullDevice, _ => rfl
    | some (.link _), hends =>
      cases hends
      rfl

/-- The entry at the end of names is the one that stands there. -/
theorem Leads.lookup (h : Leads t followLast onLink here names p)
    (hlink : ∀ here names, onLink here names = .ok p → t.lookup p.location = p.entry) :
    t.lookup p.location = p.entry := by
  induction h with
  | here l => rfl
  | empty h ih => exact ih hlink
  | same hopen h ih => exact ih hlink
  | up hopen h ih => exact ih hlink
  | down hopen hname hdir h ih => exact ih hlink
  | link hopen hname htarget hfollow h => exact hlink _ _ h
  | last hopen hname he hends => exact he

theorem lookup_of_walk {n : Nat} (h : walk t followLast n here names = .ok p) :
    t.lookup p.location = p.entry := by
  induction n generalizing here names with
  | zero =>
    refine (leads_of_scan h).lookup fun here names hl => ?_
    cases hl
  | succ n ih => exact (leads_of_scan h).lookup fun here names hl => ih hl

/-- What is not replaced still stands after something was put in place of another entry. -/
theorem lookup_put_of_lasting {entry e : Entry} (hl : t.lookup l = some e)
    (hlasting : ¬ Replaceable (some e)) {l' : Location} (hrep : Replaceable (t.lookup l')) :
    (t.put l' entry).lookup l = some e := by
  rw [lookup_put_of_ne _ t, hl]
  rintro rfl
  exact hlasting (hl ▸ hrep)

/-- A directory that may be searched stays one when something is put in place of a file, or of
nothing. -/
theorem closed?_put {l' : Location} (hopen : t.closed? l = none) (entry : Entry)
    (hrep : Replaceable (t.lookup l')) : (t.put l' entry).closed? l = none := by
  rw [closed?] at hopen ⊢
  cases hl : t.lookup l with
  | none =>
    rw [hl] at hopen
    cases hopen
  | some e =>
    cases e with
    | directory mode =>
      rw [lookup_put_of_lasting hl (fun hr => hr) hrep]
      rw [hl] at hopen
      exact hopen
    | _ =>
      rw [hl] at hopen
      cases hopen

/-- **Names lead to what is put at their end**, unless it is a link: what leads on is not what is
replaced, so it still stands in the new tree. -/
theorem Leads.put {entry : Entry} (hentry : ∀ target, entry ≠ .link target)
    {onLink' : Location → List String → Except SystemError Place}
    (h : Leads t followLast onLink here names p) (hroot : p.location ≠ [])
    (hrep : Replaceable (t.lookup p.location))
    (hlink : ∀ here names, onLink here names = .ok p →
      onLink' here names = .ok ⟨p.location, some entry⟩) :
    Leads (t.put p.location entry) followLast onLink' here names ⟨p.location, some entry⟩ := by
  induction h with
  | here l =>
    have hl := lookup_put_self hroot t entry
    exact hl ▸ .here l
  | empty h ih => exact .empty (ih hroot hrep hlink)
  | same hopen h ih => exact .same (closed?_put hopen entry hrep) (ih hroot hrep hlink)
  | up hopen h ih => exact .up (closed?_put hopen entry hrep) (ih hroot hrep hlink)
  | down hopen hname hdir h ih =>
    exact .down (closed?_put hopen entry hrep) hname
      (lookup_put_of_lasting hdir (fun hr => hr) hrep) (ih hroot hrep hlink)
  | link hopen hname htarget hfollow h =>
    exact .link (closed?_put hopen entry hrep) hname
      (lookup_put_of_lasting htarget (fun hr => hr) hrep) hfollow (hlink _ _ h)
  | @last here name _ hopen hname he hends =>
    have hopen' := closed?_put hopen entry hrep
    have hl := lookup_put_self hroot t entry
    cases entry with
    | directory mode =>
      refine .down hopen' hname hl ?_
      rw [← hl]
      exact .here (here ++ [name])
    | link target => exact absurd rfl (hentry target)
    | _ => exact .last hopen' hname hl trivial

/-- **A path leads to what is put at its end**, where there was nothing or a file. -/
theorem walk_put {entry : Entry} (hentry : ∀ target, entry ≠ .link target) (hrep : Replaceable e)
    {n : Nat} (h : walk t followLast n here names = .ok ⟨l, e⟩) :
    walk (t.put l entry) followLast n here names = .ok ⟨l, some entry⟩ := by
  have hl : t.lookup l = e := lookup_of_walk h
  have hroot : l ≠ [] := by
    rintro rfl
    rw [← hl] at hrep
    exact hrep
  induction n generalizing here names with
  | zero =>
    refine scan_of_leads ((leads_of_scan h).put hentry hroot (hl ▸ hrep) fun _ _ hlink => ?_)
    cases hlink
  | succ n ih =>
    exact scan_of_leads ((leads_of_scan h).put hentry hroot (hl ▸ hrep) fun _ _ hlink => ih hlink)

end FileTree

/-! ## 2. Actions on files -/

namespace FileAction

variable {α β : Type}

/-- What an action gives on a machine, and the machine that it leaves behind. -/
def on (a : FileAction α) (m : Machine) : Except Fault α × Machine := a.run.run m

theorem on_get (m : Machine) : on get m = (.ok m, m) := rfl

theorem on_changeFiles (f : FileTree → FileTree) (m : Machine) :
    on (Machine.changeFiles f) m = (.ok (), { m with files := f m.files }) := rfl

theorem on_bind (a : FileAction α) (f : α → FileAction β) (m : Machine) :
    on (a >>= f) m = match on a m with
      | (.ok x, m') => on (f x) m'
      | (.error e, m') => (.error e, m') := by
  simp only [on, ExceptT.run_bind, StateT.run_bind]
  rcases h : a.run.run m with ⟨r, m'⟩
  cases r <;> rfl

theorem on_tryCatch (a : FileAction α) (f : Fault → FileAction α) (m : Machine) :
    on (tryCatch a f) m = match on a m with
      | (.ok x, m') => (.ok x, m')
      | (.error e, m') => on (f e) m' := by
  simp only [on, ExceptT.run_tryCatch, StateT.run_bind]
  rcases h : a.run.run m with ⟨r, m'⟩
  cases r <;> rfl

/-- Where two actions succeed, one after the other, the first one does. -/
theorem of_on_bind {a : FileAction α} {f : α → FileAction β} {m m' : Machine} {y : β}
    (h : on (a >>= f) m = (.ok y, m')) :
    ∃ x m₁, on a m = (.ok x, m₁) ∧ on (f x) m₁ = (.ok y, m') := by
  rw [on_bind] at h
  rcases hr : on a m with ⟨r, m₁⟩
  simp only [hr] at h
  cases r with
  | ok x => exact ⟨x, m₁, rfl, h⟩
  | error e => cases h

/-- An attempt that succeeds does so at once, or after its failure is dealt with. -/
theorem of_on_tryCatch {a : FileAction α} {f : Fault → FileAction α} {m m' : Machine} {x : α}
    (h : on (tryCatch a f) m = (.ok x, m')) :
    on a m = (.ok x, m') ∨ ∃ e m₁, on a m = (.error e, m₁) ∧ on (f e) m₁ = (.ok x, m') := by
  rw [on_tryCatch] at h
  rcases hr : on a m with ⟨r, m₁⟩
  simp only [hr] at h
  cases r with
  | ok y => exact .inl h
  | error e => exact .inr ⟨e, m₁, rfl, h⟩

/-- A failure that is told in other words is still a failure. -/
theorem of_on_tryCatch_throw {a : FileAction α} {g : Fault → Fault} {m m' : Machine} {x : α}
    (h : on (tryCatch a fun f => throw (g f)) m = (.ok x, m')) : on a m = (.ok x, m') := by
  rcases of_on_tryCatch h with hok | ⟨e, m₁, -, hthrow⟩
  · exact hok
  · cases hthrow

/-- **An action that changes nothing but the files.** -/
def OnlyFiles (a : FileAction α) : Prop :=
  ∀ m, ∃ files, (on a m).2 = { m with files := files }

theorem OnlyFiles.eq {a : FileAction α} (ha : OnlyFiles a) {m m' : Machine} {r : Except Fault α}
    (h : on a m = (r, m')) : m' = { m with files := m'.files } := by
  obtain ⟨files, hfiles⟩ := ha m
  rw [h] at hfiles
  cases hfiles
  rfl

theorem onlyFiles_pure (x : α) : OnlyFiles (pure x) := fun m => ⟨m.files, rfl⟩

theorem onlyFiles_throw (f : Fault) : OnlyFiles (throw f : FileAction α) := fun m => ⟨m.files, rfl⟩

theorem onlyFiles_changeFiles (f : FileTree → FileTree) : OnlyFiles (Machine.changeFiles f) :=
  fun m => ⟨f m.files, rfl⟩

theorem onlyFiles_get_bind {f : Machine → FileAction α} (h : ∀ m, OnlyFiles (f m)) :
    OnlyFiles (get >>= f) := by
  intro m
  rw [on_bind, on_get]
  exact h m m

theorem onlyFiles_bind {a : FileAction α} {f : α → FileAction β} (ha : OnlyFiles a)
    (hf : ∀ x, OnlyFiles (f x)) : OnlyFiles (a >>= f) := by
  intro m
  obtain ⟨files, hm⟩ := ha m
  rw [on_bind]
  rcases hr : on a m with ⟨r, m'⟩
  rw [hr] at hm
  cases hm
  cases r with
  | ok x => exact hf x _
  | error e => exact ⟨files, rfl⟩

theorem onlyFiles_tryCatch {a : FileAction α} {f : Fault → FileAction α} (ha : OnlyFiles a)
    (hf : ∀ e, OnlyFiles (f e)) : OnlyFiles (tryCatch a f) := by
  intro m
  obtain ⟨files, hm⟩ := ha m
  rw [on_tryCatch]
  rcases hr : on a m with ⟨r, m'⟩
  rw [hr] at hm
  cases hm
  cases r with
  | ok x => exact ⟨files, rfl⟩
  | error e => exact hf e _

end FileAction

namespace Machine

open FileAction

variable {p : Path}

/-! ## 3. Making directories -/

theorem onlyFiles_makeDirectory (p : Path) : OnlyFiles (makeDirectory p) := by
  refine onlyFiles_get_bind fun m => ?_
  split
  · exact onlyFiles_throw _
  · split
    · exact onlyFiles_changeFiles _
    · exact onlyFiles_throw _
  · exact onlyFiles_throw _

theorem onlyFiles_unlessThere (p : Path) (e : Fault) : OnlyFiles (unlessThere p e) := by
  refine onlyFiles_get_bind fun m => ?_
  split
  · exact onlyFiles_pure _
  · exact onlyFiles_throw _
  · exact onlyFiles_throw _

theorem onlyFiles_ensureDirectory (p : Path) : OnlyFiles (ensureDirectory p) :=
  onlyFiles_tryCatch (onlyFiles_makeDirectory p) (onlyFiles_unlessThere p)

theorem onlyFiles_makeDirectoriesUpTo (p : Path) (n : Nat) :
    OnlyFiles (makeDirectoriesUpTo p n) := by
  induction n with
  | zero => exact onlyFiles_ensureDirectory _
  | succ n ih =>
    refine onlyFiles_tryCatch (onlyFiles_makeDirectory _) fun e => ?_
    split
    · exact onlyFiles_bind ih fun _ => onlyFiles_ensureDirectory _
    · exact onlyFiles_unlessThere _ _

theorem onlyFiles_makeDirectories (p : Path) : OnlyFiles (makeDirectories p) :=
  onlyFiles_makeDirectoriesUpTo p _

/-! ## 4. Writing a file -/

/-- Whether a file with some bytes keeps within the limit. -/
def HasRoom (m : Machine) (bytes : List UInt8) : Prop :=
  ∀ limit, m.fileLimit = some limit → bytes.length ≤ limit

/-- **Filling a file** either fits or fails. -/
theorem on_fill_iff {l : Location} {mode : Nat} {bytes : List UInt8} {m m' : Machine} :
    on (fill l mode bytes) m = (.ok (), m') ↔
      m.HasRoom bytes ∧ m' = { m with files := m.files.put l (.file mode bytes) } := by
  rw [fill, on_bind, on_get]
  dsimp only
  cases hlimit : m.fileLimit with
  | none =>
    have hroom : m.HasRoom bytes := fun limit h => by
      rw [hlimit] at h
      cases h
    dsimp only
    rw [on_changeFiles, ← hlimit]
    simp only [Prod.mk.injEq, true_and, hroom, eq_comm (b := m')]
  | some limit =>
    simp only [on_bind, on_changeFiles]
    rw [← hlimit]
    by_cases hlong : limit < bytes.length
    · have hroom : ¬ m.HasRoom bytes := fun h => absurd (h limit hlimit) (Nat.not_le.mpr hlong)
      rw [if_pos hlong]
      refine iff_of_false (fun h => ?_) (fun h => hroom h.1)
      cases h
    · have hroom : m.HasRoom bytes := fun limit' h => by
        rw [hlimit, Option.some.injEq] at h
        exact h ▸ Nat.not_lt.mp hlong
      rw [if_neg hlong, List.take_of_length_le (Nat.not_lt.mp hlong)]
      constructor
      · intro h
        cases h
        exact ⟨hroom, rfl⟩
      · rintro ⟨-, rfl⟩
        rfl

theorem onlyFiles_fill (l : Location) (mode : Nat) (bytes : List UInt8) :
    OnlyFiles (fill l mode bytes) := by
  refine onlyFiles_get_bind fun m => ?_
  split
  · exact onlyFiles_changeFiles _
  · refine onlyFiles_bind (onlyFiles_changeFiles _) fun _ => ?_
    split
    · exact onlyFiles_throw _
    · exact onlyFiles_pure _

theorem onlyFiles_writeBytes (p : Path) (bytes : List UInt8) : OnlyFiles (writeBytes p bytes) := by
  refine onlyFiles_get_bind fun m => ?_
  split
  · exact onlyFiles_throw _
  · split
    · exact onlyFiles_fill _ _ _
    · exact onlyFiles_throw _
  · split
    · exact onlyFiles_fill _ _ _
    · exact onlyFiles_throw _
  · exact onlyFiles_throw _
  · exact onlyFiles_throw _
  · exact onlyFiles_pure _

/-- What it takes for a path to lead to a place. -/
theorem find_eq_ok_iff {m : Machine} {followLast : Bool} {place : Place} :
    m.find p followLast = .ok place ↔
      p.hasNull = false ∧ p.text.utf8ByteSize < FileTree.pathLimit ∧
      m.files.walk followLast FileTree.linkLimit (m.startOf p) p.parts = .ok place := by
  rw [find]
  cases p.hasNull with
  | true => simp
  | false =>
    by_cases hlong : FileTree.pathLimit ≤ p.text.utf8ByteSize
    · simp [hlong, Nat.not_lt.mpr hlong]
    · have hshort := Nat.lt_of_not_le hlong
      rw [if_neg Bool.false_ne_true, if_neg hlong]
      cases m.files.walk followLast FileTree.linkLimit (m.startOf p) p.parts with
      | ok place' => simp [hshort]
      | error e => simp

/-- The path leads to what is put at its end, unless it is a link. -/
theorem find_put {m : Machine} {l : Location} {e : Option Entry} {entry : Entry}
    {followLast : Bool} (hentry : ∀ target, entry ≠ .link target)
    (hrep : FileTree.Replaceable e) (h : m.find p followLast = .ok ⟨l, e⟩) :
    Machine.find { m with files := m.files.put l entry } p followLast = .ok ⟨l, some entry⟩ := by
  obtain ⟨hnull, hshort, hwalk⟩ := find_eq_ok_iff.mp h
  exact find_eq_ok_iff.mpr ⟨hnull, hshort, FileTree.walk_put hentry hrep hwalk⟩

/-- The permission bits of a file that takes the place of an entry. -/
def modeOver : Option Entry → Nat
  | some (.file mode _) => mode
  | _ => FileTree.fileMode

/-- **Where a file may be written**: over a file that may be, or in a directory that may be. -/
def Writable (m : Machine) (l : Location) : Option Entry → Prop
  | none => m.files.isWritable l.dropLast = true
  | some (.file mode _) => mode.testBit 7 = true
  | _ => False

theorem Writable.replaceable {m : Machine} {l : Location} {e : Option Entry}
    (h : m.Writable l e) : FileTree.Replaceable e := by
  match e, h with
  | none, _ => trivial
  | some (.file _ _), _ => trivial

/-- Where a file may be written, one with the bytes comes to stand. -/
theorem on_writeBytes_of_find {bytes : List UInt8} {m : Machine} {l : Location} {e : Option Entry}
    (hfind : m.find p true = .ok ⟨l, e⟩) (h : m.Writable l e) :
    on (writeBytes p bytes) m = on (fill l (modeOver e) bytes) m := by
  rw [writeBytes, on_bind, on_get]
  dsimp only
  rw [hfind]
  match e, h with
  | none, h => exact congrArg (on · m) (if_pos h)
  | some (.file mode old), h => exact congrArg (on · m) (if_pos h)

/-- **How a file is written**: a file with the bytes comes to stand where a file may be written; or
a device takes them. -/
theorem writeBytes_cases {bytes : List UInt8} {m m' : Machine}
    (h : on (writeBytes p bytes) m = (.ok (), m')) :
    (∃ l e, m.find p true = .ok ⟨l, e⟩ ∧ m.Writable l e ∧ m.HasRoom bytes ∧
      m' = { m with files := m.files.put l (.file (modeOver e) bytes) }) ∨
    (∃ l e, m.find p true = .ok ⟨l, some e⟩ ∧ e.isFile = false ∧ m' = m) := by
  rw [writeBytes, on_bind, on_get] at h
  dsimp only at h
  split at h
  · cases h
  · rename_i l hfind
    split at h
    · rename_i hwritable
      obtain ⟨hroom, rfl⟩ := on_fill_iff.mp h
      exact .inl ⟨l, none, hfind, hwritable, hroom, rfl⟩
    · cases h
  · rename_i l mode old hfind
    split at h
    · rename_i hwritable
      obtain ⟨hroom, rfl⟩ := on_fill_iff.mp h
      exact .inl ⟨l, some (.file mode old), hfind, hwritable, hroom, rfl⟩
    · cases h
  · cases h
  · cases h
  · rename_i l e hfile hdir hprogram hfind
    cases h
    refine .inr ⟨l, e, hfind, ?_, rfl⟩
    cases e with
    | file mode old => exact absurd rfl (hfile mode old)
    | program q => exact absurd rfl (hprogram q)
    | _ => rfl

/-- **After a file is written** the path leads to a file with the bytes, or to a device that took
them. -/
theorem find_writeBytes {bytes : List UInt8} {m m' : Machine}
    (h : on (writeBytes p bytes) m = (.ok (), m')) :
    ∃ l e, m'.find p true = .ok ⟨l, some e⟩ ∧
      ((∃ mode, e = .file mode bytes) ∨ e.isFile = false) := by
  rcases writeBytes_cases h with ⟨l, e, hfind, hwritable, -, rfl⟩ | ⟨l, e, hfind, hnone, rfl⟩
  · exact ⟨l, _, find_put nofun hwritable.replaceable hfind, .inl ⟨modeOver e, rfl⟩⟩
  · exact ⟨l, e, hfind, .inr hnone⟩

/-! ## 5. What the file gives afterwards -/

/-- A question about the entry at the end of a path. -/
theorem isFile?_of_find {m : Machine} {l : Location} {e : Entry}
    (h : m.find p true = .ok ⟨l, some e⟩) : m.isFile? p = .ok e.isFile := by
  simp only [isFile?, holds?, entry?, h, Except.map, Option.any]

theorem readBytes_of_find {m : Machine} {l : Location} {mode : Nat} {bytes : List UInt8}
    (h : m.find p true = .ok ⟨l, some (.file mode bytes)⟩) :
    (∃ bytes', m.readBytes p = .ok bytes') ↔ m.readBytes p = .ok bytes := by
  simp only [readBytes, h, Entry.contents]
  cases mode.testBit 8 <;> simp

end Machine

end SourceCheck

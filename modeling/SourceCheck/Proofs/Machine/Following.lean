import Mathlib.Data.List.Nodup
import SourceCheck.Machine.Resolve
import SourceCheck.Proofs.Machine.Directories
import SourceCheck.Proofs.Path

/-!
# Resolved paths lead where the paths lead

A path is followed in two ways.  A request follows it name by name, puts the target of a link in
front of what is left, gives up after forty links and asks that everything on the way be there.
Resolving it asks for nothing: it resolves the target of a link by itself, remembers what came out,
and stops where a link turns up inside itself.  Where a request comes to an end, the two agree.

The proof counts steps.  A link that turns up inside itself would have to be followed in fewer steps
than it takes, and links that are being followed are all different, so their number bounds how deep
they nest.

* `FileTree.Goes`: where names lead, without a limit and without asking.
* `FileTree.goes_of_walk`: a request goes there.
* `Machine.resolveNames_of_goes`: so does resolving.
* `Machine.resolve_of_find`: the resolved path of a path that leads somewhere is the place where it
  leads.
-/

namespace SourceCheck

/-! ## 1. Locations that can be looked at -/

namespace Machine

variable {m : Machine} {here : Location} {name target : String}

theorem reaches_root (m : Machine) : m.reaches [] = true := rfl

theorem reaches_concat (m : Machine) (here : Location) (name : String) :
    m.reaches (here ++ [name]) =
      (((here.isPrefixOf m.workingDirectory && here != m.workingDirectory) ||
        (m.files.closed? here).isNone) && m.reaches here) := by
  have hall : Path.shrinking here = here :: (Path.shrinking here).tail := by
    cases here using List.reverseRecOn with
    | nil => rfl
    | append_singleton here name => rw [Path.shrinking_concat, List.tail_cons]
  rw [reaches, Path.shrinking_concat, List.tail_cons, hall, List.all_cons]
  rfl

theorem reaches_down (hreach : m.reaches here = true) (hopen : m.files.closed? here = none)
    (name : String) : m.reaches (here ++ [name]) = true := by
  rw [reaches_concat, hopen, hreach]
  simp

theorem reaches_up (hreach : m.reaches here = true) : m.reaches here.dropLast = true := by
  cases here using List.reverseRecOn with
  | nil => exact hreach
  | append_singleton here name =>
    rw [reaches_concat, Bool.and_eq_true] at hreach
    rw [List.dropLast_concat]
    exact hreach.2

theorem reaches_workingDirectory (m : Machine) : m.reaches m.workingDirectory = true := by
  rw [reaches, List.all_eq_true]
  intro d hd
  have hbegins : d <+: m.workingDirectory :=
    Path.prefix_of_mem_shrinking (List.mem_of_mem_tail hd)
  have hne : d ≠ m.workingDirectory := by
    rintro rfl
    exact Nat.lt_irrefl _ (Path.length_lt_of_mem_tail hd)
  simp [hbegins, hne]

theorem reaches_startOf (m : Machine) (p : Path) : m.reaches (m.startOf p) = true := by
  rw [startOf]
  split
  · exact reaches_root m
  · exact reaches_workingDirectory m

theorem reaches_targetStart (hreach : m.reaches here = true) (target : String) :
    m.reaches (FileTree.targetStart here target) = true := by
  rw [FileTree.targetStart]
  split
  · exact reaches_root m
  · exact hreach

theorem linkAt?_eq_some_iff {l : Location} : m.linkAt? l = some target ↔
    m.files.lookup l = some (.link target) ∧ m.reaches l = true := by
  rw [linkAt?]
  split
  · rename_i other hlink
    rw [hlink]
    cases m.reaches l <;> simp
  · rename_i hother
    exact iff_of_false nofun fun h => hother target h.1

theorem linkAt?_of_not_link {l : Location}
    (h : ∀ target, m.files.lookup l ≠ some (.link target)) : m.linkAt? l = none := by
  cases hl : m.linkAt? l with
  | none => rfl
  | some target => exact absurd (linkAt?_eq_some_iff.mp hl).1 (h target)

end Machine

namespace FileTree

variable {m : Machine} {n n' k : Nat} {here via l l' : Location} {name : String}
  {names rest xs ys : List String}

/-! ## 2. Where names lead -/

/-- A name that leads down, however long it is. -/
def Named (name : String) : Prop := (name == "" || name == ".") = false ∧ (name == "..") = false

/-- **Where names lead, and in how many steps.**  A link is followed to its end before the names
behind it are. -/
inductive Goes (m : Machine) : Nat → Location → List String → Location → Prop
  | here (l : Location) : Goes m 0 l [] l
  | same {n : Nat} {here l : Location} {name : String} {rest : List String}
    (hname : (name == "" || name == ".") = true) (h : Goes m n here rest l) :
    Goes m (n + 1) here (name :: rest) l
  | up {n : Nat} {here l : Location} {rest : List String} (h : Goes m n here.dropLast rest l) :
    Goes m (n + 1) here (".." :: rest) l
  | down {n : Nat} {here l : Location} {name : String} {rest : List String} (hname : Named name)
    (hplain : m.linkAt? (here ++ [name]) = none)
    (h : Goes m n (here ++ [name]) rest l) : Goes m (n + 1) here (name :: rest) l
  | link {k n : Nat} {here via l : Location} {name : String} {rest : List String}
    {target : String} (hname : Named name)
    (hlink : m.linkAt? (here ++ [name]) = some target)
    (htarget : Goes m k (targetStart here target) (slashFields target) via)
    (hrest : Goes m n via rest l) : Goes m (k + n + 1) here (name :: rest) l

/-- Names lead to one location, in one number of steps. -/
theorem Goes.unique (h : Goes m n here names l) (h' : Goes m n' here names l') :
    n' = n ∧ l' = l := by
  induction h generalizing n' l' with
  | here l =>
    cases h'
    exact ⟨rfl, rfl⟩
  | same hname h ih =>
    cases h' with
    | same _ h' =>
      obtain ⟨rfl, rfl⟩ := ih h'
      exact ⟨rfl, rfl⟩
    | up => exact absurd hname (by decide)
    | down hname' => exact absurd hname (Bool.eq_false_iff.mp hname'.1)
    | link hname' => exact absurd hname (Bool.eq_false_iff.mp hname'.1)
  | up h ih =>
    cases h' with
    | same hname' => exact absurd hname' (by decide)
    | up h' =>
      obtain ⟨rfl, rfl⟩ := ih h'
      exact ⟨rfl, rfl⟩
    | down hname' => exact absurd hname'.2 (by decide)
    | link hname' => exact absurd hname'.2 (by decide)
  | down hname hplain h ih =>
    cases h' with
    | same hname' => exact absurd hname' (Bool.eq_false_iff.mp hname.1)
    | up => exact absurd hname.2 (by decide)
    | down _ _ h' =>
      obtain ⟨rfl, rfl⟩ := ih h'
      exact ⟨rfl, rfl⟩
    | link _ hlink' => cases hplain.symm.trans hlink'
  | link hname hlink htarget hrest iht ihr =>
    cases h' with
    | same hname' => exact absurd hname' (Bool.eq_false_iff.mp hname.1)
    | up => exact absurd hname.2 (by decide)
    | down _ hplain' => cases hplain'.symm.trans hlink
    | link _ hlink' htarget' hrest' =>
      cases hlink.symm.trans hlink'
      obtain ⟨rfl, rfl⟩ := iht htarget'
      obtain ⟨rfl, rfl⟩ := ihr hrest'
      exact ⟨rfl, rfl⟩

/-- Names that are followed one part after another. -/
theorem Goes.split (h : Goes m n here (xs ++ ys) l) :
    ∃ i j via, Goes m i here xs via ∧ Goes m j via ys l := by
  generalize hnames : xs ++ ys = names at h
  induction h generalizing xs with
  | here l =>
    obtain ⟨rfl, rfl⟩ := List.append_eq_nil_iff.mp hnames
    exact ⟨0, 0, l, .here l, .here l⟩
  | same hname h ih =>
    rcases List.append_eq_cons_iff.mp hnames with ⟨rfl, rfl⟩ | ⟨zs, rfl, hzs⟩
    · exact ⟨0, _, _, .here _, .same hname h⟩
    · obtain ⟨i, j, via, hxs, hys⟩ := ih hzs.symm
      exact ⟨i + 1, j, via, .same hname hxs, hys⟩
  | up h ih =>
    rcases List.append_eq_cons_iff.mp hnames with ⟨rfl, rfl⟩ | ⟨zs, rfl, hzs⟩
    · exact ⟨0, _, _, .here _, .up h⟩
    · obtain ⟨i, j, via, hxs, hys⟩ := ih hzs.symm
      exact ⟨i + 1, j, via, .up hxs, hys⟩
  | down hname hplain h ih =>
    rcases List.append_eq_cons_iff.mp hnames with ⟨rfl, rfl⟩ | ⟨zs, rfl, hzs⟩
    · exact ⟨0, _, _, .here _, .down hname hplain h⟩
    · obtain ⟨i, j, via, hxs, hys⟩ := ih hzs.symm
      exact ⟨i + 1, j, via, .down hname hplain hxs, hys⟩
  | @link k j _ via _ _ _ _ hname hlink htarget hrest _ ih =>
    rcases List.append_eq_cons_iff.mp hnames with ⟨rfl, rfl⟩ | ⟨zs, rfl, hzs⟩
    · exact ⟨0, _, _, .here _, .link hname hlink htarget hrest⟩
    · obtain ⟨i, j, via', hxs, hys⟩ := ih hzs.symm
      exact ⟨k + i + 1, j, via', .link hname hlink htarget hxs, hys⟩

/-! ## 3. Requests -/

/-- **A request goes where its names lead.** -/
theorem goes_of_leads {onLink : Location → List String → Except SystemError Place} {p : Place}
    (h : Leads m.files true onLink here names p) (hreach : m.reaches here = true)
    (hlink : ∀ here names, m.reaches here = true → onLink here names = .ok p →
      ∃ n, Goes m n here names p.location) :
    ∃ n, Goes m n here names p.location := by
  induction h with
  | here l => exact ⟨0, .here l⟩
  | empty h ih =>
    obtain ⟨n, hn⟩ := ih hreach hlink
    exact ⟨n + 1, .same rfl hn⟩
  | same hopen h ih =>
    obtain ⟨n, hn⟩ := ih hreach hlink
    exact ⟨n + 1, .same rfl hn⟩
  | up hopen h ih =>
    obtain ⟨n, hn⟩ := ih (Machine.reaches_up hreach) hlink
    exact ⟨n + 1, .up hn⟩
  | down hopen hname hdir h ih =>
    obtain ⟨n, hn⟩ := ih (Machine.reaches_down hreach hopen _) hlink
    refine ⟨n + 1, .down ⟨hname.1, hname.2.1⟩ (Machine.linkAt?_of_not_link fun _ htarget => ?_) hn⟩
    cases hdir.symm.trans htarget
  | link hopen hname htarget hfollow h =>
    obtain ⟨n, hn⟩ := hlink _ _ (Machine.reaches_targetStart hreach _) h
    obtain ⟨k, j, via, hvia, hrest⟩ := hn.split
    have hseen := Machine.linkAt?_eq_some_iff.mpr ⟨htarget, Machine.reaches_down hreach hopen _⟩
    exact ⟨k + j + 1, .link ⟨hname.1, hname.2.1⟩ hseen hvia hrest⟩
  | last hopen hname he hends =>
    refine ⟨1, .down ⟨hname.1, hname.2.1⟩ (Machine.linkAt?_of_not_link fun _ htarget => ?_)
      (.here _)⟩
    cases he.symm.trans htarget
    cases hends

theorem goes_of_walk {p : Place} (h : walk m.files true n here names = .ok p)
    (hreach : m.reaches here = true) : ∃ k, Goes m k here names p.location := by
  induction n generalizing here names with
  | zero =>
    refine goes_of_leads (leads_of_scan h) hreach fun here names _ hl => ?_
    cases hl
  | succ n ih =>
    exact goes_of_leads (leads_of_scan h) hreach fun here names hthere hl => ih hl hthere

/-- Where names lead to an entry, there is one where they start. -/
theorem Leads.isSome_start {t : FileTree} {followLast : Bool}
    {onLink : Location → List String → Except SystemError Place} {p : Place}
    (h : Leads t followLast onLink here names p) (hp : p.entry.isSome = true) :
    (t.lookup here).isSome = true := by
  have isSome_of_open {l : Location} (hopen : t.closed? l = none) :
      (t.lookup l).isSome = true := by
    rw [closed?] at hopen
    cases hl : t.lookup l with
    | some e => rfl
    | none =>
      rw [hl] at hopen
      cases hopen
  induction h with
  | here l => exact hp
  | empty h ih => exact ih hp
  | same hopen => exact isSome_of_open hopen
  | up hopen => exact isSome_of_open hopen
  | down hopen => exact isSome_of_open hopen
  | link hopen => exact isSome_of_open hopen
  | last hopen => exact isSome_of_open hopen

theorem isSome_start_of_walk {t : FileTree} {p : Place} (h : walk t true n here names = .ok p)
    (hp : p.entry.isSome = true) : (t.lookup here).isSome = true := by
  cases n with
  | zero => exact (leads_of_scan h).isSome_start hp
  | succ n => exact (leads_of_scan h).isSome_start hp

/-! ## 4. Links -/

/-- Following a link, and the steps that this takes. -/
def Follows (m : Machine) (k : Nat) (x via : Location) : Prop :=
  ∃ target, m.linkAt? x = some target ∧
    Goes m k (targetStart x.dropLast target) (slashFields target) via

theorem Follows.unique {x via' : Location} {k' : Nat} (h : Follows m k x via)
    (h' : Follows m k' x via') : k' = k ∧ via' = via := by
  obtain ⟨target, hx, hgoes⟩ := h
  obtain ⟨target', hx', hgoes'⟩ := h'
  cases hx.symm.trans hx'
  exact hgoes.unique hgoes'

/-- The locations of the links. -/
def linkLocations (t : FileTree) : List Location :=
  (t.entries.filter fun x => match x.2 with
    | .link _ => true
    | _ => false).map (·.1)

theorem length_linkLocations (t : FileTree) : t.linkLocations.length = t.linkCount :=
  List.length_map _

theorem mem_linkLocations {t : FileTree} {x : Location} {target : String}
    (h : t.lookup x = some (.link target)) : x ∈ t.linkLocations := by
  rw [lookup] at h
  split at h
  · cases h
  · obtain ⟨entry, hfound, hentry⟩ := Option.map_eq_some_iff.mp h
    have hmem := List.mem_of_find?_eq_some hfound
    have hx : entry.1 = x := by simpa using List.find?_some hfound
    refine List.mem_map.mpr ⟨entry, List.mem_filter.mpr ⟨hmem, ?_⟩, hx⟩
    rw [hentry]

/-- Different links are at most as many as there are links. -/
theorem length_le_linkCount {pending : List Location} (hnodup : pending.Nodup)
    (hlinks : ∀ x ∈ pending, ∃ target, m.linkAt? x = some target) :
    pending.length ≤ m.files.linkCount := by
  rw [← length_linkLocations]
  refine hnodup.length_le_of_subset fun x hx => ?_
  obtain ⟨target, htarget⟩ := hlinks x hx
  exact mem_linkLocations (Machine.linkAt?_eq_some_iff.mp htarget).1

end FileTree

namespace Machine

open FileTree

variable {m : Machine} {n d : Nat} {here l x : Location} {name : String}
  {names rest : List String} {pending : List Location} {p : Path} {seen : Seen}
  {value : Option Location} {onLink : Location → List String → Seen → Resolving}

/-! ## 5. What is remembered of links -/

/-- What is remembered of the link at a location. -/
def recalled (seen : Seen) (x : Location) :
    Option (Option Location) :=
  (seen.find? fun s => s.1 == x).map (·.2)

theorem recalled_note_self : recalled (Resolving.note x value seen) x = some value := by
  simp [recalled, Resolving.note]

theorem recalled_note_of_ne {y : Location} (h : y ≠ x) :
    recalled (Resolving.note x value seen) y = recalled seen y := by
  have hxy : (x == y) = false := by simpa using h.symm
  have hsame : (fun s : Location × Option Location =>
      decide ((s.1 != x) = true ∧ (s.1 == y) = true)) = fun s => s.1 == y := by
    funext s
    by_cases hs : s.1 = y
    · simp [hs, h]
    · simp [hs]
  rw [recalled, Resolving.note, List.find?_cons, hxy]
  dsimp only
  rw [List.find?_filter, hsame, recalled]

/-- **What is remembered is right**: a link is either known by the location where it leads, or it is
one of those that are being followed, which are all different and take at least `n` steps each. -/
structure Remembers (m : Machine) (n : Nat) (pending : List Location)
    (seen : Seen) : Prop where
  known : ∀ x via, recalled seen x = some (some via) → ∃ k, Follows m k x via
  unknown : ∀ x, recalled seen x = some none ↔ x ∈ pending
  different : pending.Nodup
  steps : ∀ x ∈ pending, ∃ k via, n ≤ k ∧ Follows m k x via

namespace Remembers

variable {k : Nat} {via : Location}

theorem empty (m : Machine) (n : Nat) : Remembers m n [] [] where
  known := nofun
  unknown x := by simp [recalled]
  different := List.nodup_nil
  steps := nofun

/-- Fewer steps are left, and the links that are being followed are the same. -/
theorem anti {n' : Nat} (h : Remembers m n pending seen) (hle : n' ≤ n) :
    Remembers m n' pending seen := by
  refine ⟨h.known, h.unknown, h.different, fun x hx => ?_⟩
  obtain ⟨k, via, hk, hfollows⟩ := h.steps x hx
  exact ⟨k, via, Nat.le_trans hle hk, hfollows⟩

/-- What is remembered later is right for the same steps. -/
theorem later {n' : Nat} {seen' : Seen}
    (h : Remembers m n pending seen) (h' : Remembers m n' pending seen') :
    Remembers m n pending seen' :=
  ⟨h'.known, h'.unknown, h.different, h.steps⟩

/-- A link that is followed from now on. -/
theorem start (h : Remembers m n pending seen) (hnew : recalled seen x = none)
    (hfollows : Follows m k x via) (hk : k ≤ n) :
    Remembers m k (x :: pending) (Resolving.note x none seen) where
  known y via' hy := by
    by_cases hyx : y = x
    · rw [hyx, recalled_note_self] at hy
      cases hy
    · rw [recalled_note_of_ne hyx] at hy
      exact h.known y via' hy
  unknown y := by
    rw [List.mem_cons, ← h.unknown]
    by_cases hyx : y = x
    · simp [hyx, recalled_note_self]
    · simp [hyx, recalled_note_of_ne hyx]
  different := by
    refine List.nodup_cons.mpr ⟨fun hx => ?_, h.different⟩
    rw [(h.unknown x).mpr hx] at hnew
    cases hnew
  steps := by
    refine List.forall_mem_cons.mpr ⟨⟨k, via, Nat.le_refl k, hfollows⟩, fun y hy => ?_⟩
    obtain ⟨k', via', hk', hfollows'⟩ := h.steps y hy
    exact ⟨k', via', Nat.le_trans hk hk', hfollows'⟩

/-- A link that has been followed. -/
theorem finish {seen' : Seen}
    (h : Remembers m n pending seen) (h' : Remembers m k (x :: pending) seen')
    (hfollows : Follows m k x via) :
    Remembers m n pending (Resolving.note x (some via) seen') where
  known y via' hy := by
    by_cases hyx : y = x
    · rw [hyx, recalled_note_self] at hy
      cases hy
      exact ⟨k, hyx ▸ hfollows⟩
    · rw [recalled_note_of_ne hyx] at hy
      exact h'.known y via' hy
  unknown y := by
    by_cases hyx : y = x
    · have hx : x ∉ pending := (List.nodup_cons.mp h'.different).1
      simp [hyx, recalled_note_self, hx]
    · rw [recalled_note_of_ne hyx, h'.unknown, List.mem_cons, or_iff_right hyx]
  different := h.different
  steps := h.steps

/-- **A link that is being followed does not turn up again** before it has been followed: that would
take fewer steps than it takes. -/
theorem not_pending (h : Remembers m n pending seen) (hfollows : Follows m k x via) (hk : k < n) :
    recalled seen x ≠ some none := by
  intro hx
  obtain ⟨k', via', hk', hfollows'⟩ := h.steps x ((h.unknown x).mp hx)
  obtain ⟨rfl, -⟩ := hfollows.unique hfollows'
  omega

/-- Links that are being followed leave room for one more. -/
theorem room (h : Remembers m n pending seen) (hnew : recalled seen x = none)
    (hfollows : Follows m k x via) : pending.length + 1 ≤ m.files.linkCount := by
  rw [← List.length_cons (a := x)]
  refine length_le_linkCount ?_ ?_
  · refine List.nodup_cons.mpr ⟨fun hx => ?_, h.different⟩
    rw [(h.unknown x).mpr hx] at hnew
    cases hnew
  · refine List.forall_mem_cons.mpr ⟨hfollows.imp fun _ => And.left, fun y hy => ?_⟩
    obtain ⟨_, _, -, hfollows'⟩ := h.steps y hy
    exact hfollows'.imp fun _ => And.left

end Remembers

/-! ## 6. Resolving -/

/-- A name that leads down is resolved by what stands there. -/
theorem resolveNames_named (hname : Named name) :
    resolveNames m onLink here seen (name :: rest) =
      match m.linkAt? (here ++ [name]) with
      | some target =>
        match recalled seen (here ++ [name]) with
        | some (some known) => resolveNames m onLink known seen rest
        | some none =>
          ⟨.text (textBehind (Path.ofLocation (here ++ [name])).text (Path.withSlashes rest)), seen⟩
        | none =>
          let inner := onLink (targetStart here target) (slashFields target)
            (Resolving.note (here ++ [name]) none seen)
          match inner.place with
          | .text s => ⟨.text (textBehind s (Path.withSlashes rest)), inner.seen⟩
          | .location l =>
            resolveNames m onLink l (Resolving.note (here ++ [name]) (some l) inner.seen) rest
      | none => resolveNames m onLink (here ++ [name]) seen rest :=
  (if_neg (Bool.eq_false_iff.mp hname.1)).trans (if_neg (Bool.eq_false_iff.mp hname.2))

theorem resolveNames_plain (hname : Named name) (hplain : m.linkAt? (here ++ [name]) = none) :
    resolveNames m onLink here seen (name :: rest) =
      resolveNames m onLink (here ++ [name]) seen rest := by
  rw [resolveNames_named hname, hplain]

/-- A link of which nothing is remembered is resolved first. -/
theorem resolveNames_link {target : String} {via : Location} {seen₁ : Seen} (hname : Named name)
    (hlink : m.linkAt? (here ++ [name]) = some target)
    (hrecall : recalled seen (here ++ [name]) = none)
    (hinner : onLink (targetStart here target) (slashFields target)
      (Resolving.note (here ++ [name]) none seen) = ⟨.location via, seen₁⟩) :
    resolveNames m onLink here seen (name :: rest) =
      resolveNames m onLink via (Resolving.note (here ++ [name]) (some via) seen₁) rest := by
  rw [resolveNames_named hname, hlink]
  simp only [hrecall, hinner]

/-- **Names are resolved to the location where they lead**, if links may nest as deep as there are
links that are not being followed. -/
theorem resolveNames_of_goes (h : Goes m n here names l)
    (hseen : Remembers m n pending seen) (hdeep : m.files.linkCount ≤ pending.length + d) :
    ∃ seen', resolveNames m (resolveDeep m d) here seen names = ⟨.location l, seen'⟩ ∧
      Remembers m n pending seen' := by
  -- The induction is on the steps, since a link's target is no part of the names.
  induction h generalizing d pending seen with
  | here l => exact ⟨seen, rfl, hseen⟩
  | same hname h ih =>
    obtain ⟨seen', hrun, hseen'⟩ := ih (hseen.anti (Nat.le_succ _)) hdeep
    refine ⟨seen', ?_, hseen.later hseen'⟩
    rw [resolveNames, if_pos hname, hrun]
  | up h ih =>
    obtain ⟨seen', hrun, hseen'⟩ := ih (hseen.anti (Nat.le_succ _)) hdeep
    exact ⟨seen', hrun, hseen.later hseen'⟩
  | down hname hplain h ih =>
    obtain ⟨seen', hrun, hseen'⟩ := ih (hseen.anti (Nat.le_succ _)) hdeep
    refine ⟨seen', ?_, hseen.later hseen'⟩
    rw [resolveNames_plain hname hplain, hrun]
  | @link k n here via l name rest target hname hlink htarget hrest iht ihr =>
    have hfollows : Follows m k (here ++ [name]) via :=
      ⟨target, hlink, by rwa [List.dropLast_concat]⟩
    have hpending := hseen.not_pending hfollows (by omega)
    cases hrecall : recalled seen (here ++ [name]) with
    | some value =>
      cases value with
      | none => exact absurd hrecall hpending
      | some known =>
        obtain ⟨k', hknown⟩ := hseen.known _ _ hrecall
        obtain ⟨-, rfl⟩ := hfollows.unique hknown
        obtain ⟨seen', hrun, hseen'⟩ := ihr (hseen.anti (by omega)) hdeep
        refine ⟨seen', ?_, hseen.later hseen'⟩
        rw [resolveNames_named hname, hlink]
        simp only [hrecall]
        exact hrun
    | none =>
      have hroom := hseen.room hrecall hfollows
      cases d with
      | zero => omega
      | succ d =>
        have hstart := hseen.start hrecall hfollows (by omega)
        have hdeeper : m.files.linkCount ≤ ((here ++ [name]) :: pending).length + d := by
          rw [List.length_cons]
          omega
        obtain ⟨seen₁, hinner, hseen₁⟩ := iht hstart hdeeper
        have hfinish := hseen.finish hseen₁ hfollows
        obtain ⟨seen', hrun, hseen'⟩ := ihr (hfinish.anti (by omega)) hdeep
        refine ⟨seen', ?_, hseen.later hseen'⟩
        rw [resolveNames_link hname hlink hrecall hinner, hrun]

/-- A path starts from a place that is there: from the root, or from a working directory that is not
gone. -/
def Starts (m : Machine) (p : Path) : Prop :=
  p.isAbsolute = true ∨ (m.files.lookup m.workingDirectory).isSome = true

theorem Starts.present (h : m.Starts p) :
    (!p.isAbsolute && (m.files.lookup m.workingDirectory).isNone) = false := by
  rcases h with habsolute | hthere
  · rw [habsolute]
    rfl
  · rw [Option.isNone_eq_false_iff.mpr hthere, Bool.and_false]

/-- Whatever the names of a location are taken for, the empty one and dots say nothing. -/
theorem resolve_of_goes (hnull : p.hasNull = false) (hstarts : m.Starts p)
    (h : Goes m n (m.startOf p) p.parts l) :
    m.resolve p = .ok (collapsed (Path.ofLocation l)) := by
  have hdeep : m.files.linkCount ≤ ([] : List Location).length + (m.files.linkCount + 1) := by
    rw [List.length_nil]
    omega
  obtain ⟨seen', hrun, -⟩ := resolveNames_of_goes h (Remembers.empty _ _) hdeep
  have hparts : m.resolveParts p = .location l := congrArg Resolving.place hrun
  rw [resolve, hnull, hstarts.present, hparts]
  rfl

/-- A path that starts nowhere has no resolved path, and it is the system that says so. -/
theorem resolve_of_not_starts (hnull : p.hasNull = false) (h : ¬ m.Starts p) :
    m.resolve p = .error (.refused .missing) := by
  have habsent : (!p.isAbsolute && (m.files.lookup m.workingDirectory).isNone) = true := by
    rw [Starts, not_or, Bool.not_eq_true, Bool.not_eq_true] at h
    rw [h.1, Option.isSome_eq_false_iff.mp h.2]
    rfl
  rw [resolve, hnull, habsent]
  rfl

/-! ## 7. Where the working directory is one -/

/-- A name that says something and leads down. -/
def Plain (name : String) : Prop := Path.isPart name = true ∧ name ≠ ".."

/-- **A machine whose working directory is a place**: none of its names is empty or made of dots. -/
def Grounded (m : Machine) : Prop := ∀ name ∈ m.workingDirectory, Plain name

theorem plain_of_named (h : Named name) : Plain name := by
  obtain ⟨hpart, hup⟩ := h
  simp only [Bool.or_eq_false_iff, beq_eq_false_iff_ne] at hpart hup
  refine ⟨?_, hup⟩
  rw [Path.isPart, Bool.and_eq_true, bne_iff_ne, bne_iff_ne]
  exact hpart

theorem plain_of_goes (h : Goes m n here names l) (hhere : ∀ name ∈ here, Plain name) :
    ∀ name ∈ l, Plain name := by
  induction h with
  | here l => exact hhere
  | same hname h ih => exact ih hhere
  | up h ih => exact ih fun name hmem => hhere name ((List.dropLast_sublist _).subset hmem)
  | down hname hplain h ih =>
    refine ih (List.forall_mem_append.mpr ⟨hhere, ?_⟩)
    exact List.forall_mem_singleton.mpr (plain_of_named hname)
  | link hname hlink htarget hrest iht ihr =>
    refine ihr (iht ?_)
    rw [targetStart]
    split
    · nofun
    · exact hhere

/-- Names that lead down stay, whatever is behind them. -/
theorem foldl_collapse (h : ∀ name ∈ l, Plain name) (done : List String) :
    l.foldl (fun done part => if part == ".." then done.dropLast else done ++ [part]) done =
      done ++ l := by
  induction l generalizing done with
  | nil => rw [List.foldl_nil, List.append_nil]
  | cons name l ih =>
    obtain ⟨hname, hl⟩ := List.forall_mem_cons.mp h
    have hup : (name == "..") = false := beq_eq_false_iff_ne.mpr hname.2
    rw [List.foldl_cons, hup, ih hl]
    simp

theorem collapse_plain (h : ∀ name ∈ l, Plain name) :
    Path.collapse (l.filter Path.isPart) = l := by
  have hparts : l.filter Path.isPart = l :=
    List.filter_eq_self.mpr fun name hname => (h name hname).1
  rw [hparts, Path.collapse, foldl_collapse h, List.nil_append]

/-! ## 8. Paths that lead somewhere -/

/-- **A path that leads to something has a resolved path**, and where the working directory is a
place, this is the place where it leads. -/
theorem resolve_of_find {entry : Entry} (h : m.find p true = .ok ⟨l, some entry⟩) :
    ∃ file, m.resolve p = .ok file ∧ (m.Grounded → file = Path.ofLocation l) := by
  obtain ⟨hnull, -, hwalk⟩ := find_eq_ok_iff.mp h
  have hstarts : m.Starts p := by
    have hthere := isSome_start_of_walk hwalk rfl
    rw [startOf] at hthere
    split at hthere
    · exact .inl ‹_›
    · exact .inr hthere
  obtain ⟨n, hgoes⟩ := goes_of_walk hwalk (reaches_startOf m p)
  refine ⟨_, resolve_of_goes hnull hstarts hgoes, fun hgrounded => ?_⟩
  rw [collapsed, Path.ofLocation, collapse_plain (plain_of_goes hgoes ?_)]
  rw [startOf]
  split
  · nofun
  · exact hgrounded

/-! ## 9. Paths without links -/

/-- **Names that lead past no link**, from a place on. -/
def Unlinked (t : FileTree) : Location → List String → Prop
  | _, [] => True
  | here, name :: rest =>
    if name == "" || name == "." then Unlinked t here rest
    else if name == ".." then Unlinked t here.dropLast rest
    else (∀ target, t.lookup (here ++ [name]) ≠ some (.link target)) ∧
      Unlinked t (here ++ [name]) rest

theorem unlinked_of_no_links {t : FileTree} (h : ∀ l target, t.lookup l ≠ some (.link target)) :
    Unlinked t here names := by
  fun_induction Unlinked t here names with
  | case1 => trivial
  | case2 here name rest hname ih => exact ih
  | case3 here name rest hname hup ih => exact ih
  | case4 here name rest hname hup ih => exact ⟨h (here ++ [name]), ih⟩

theorem goes_of_unlinked (h : Unlinked m.files here names) : ∃ n l, Goes m n here names l := by
  fun_induction Unlinked m.files here names with
  | case1 here => exact ⟨0, here, .here here⟩
  | case2 here name rest hname ih =>
    obtain ⟨n, l, hgoes⟩ := ih h
    exact ⟨n + 1, l, .same hname hgoes⟩
  | case3 here name rest hname hup ih =>
    obtain ⟨n, l, hgoes⟩ := ih h
    obtain rfl := beq_iff_eq.mp hup
    exact ⟨n + 1, l, .up hgoes⟩
  | case4 here name rest hname hup ih =>
    obtain ⟨hplain, hrest⟩ := h
    obtain ⟨n, l, hgoes⟩ := ih hrest
    exact ⟨n + 1, l, .down ⟨Bool.eq_false_iff.mpr hname, Bool.eq_false_iff.mpr hup⟩
      (linkAt?_of_not_link hplain) hgoes⟩

/-- **A path that resolves**, or that the system refuses to resolve. -/
def Resolves (m : Machine) (p : Path) : Prop := ∀ f, m.resolve p = .error f → f.isOfSystem = true

/-- **A path that leads past no link resolves**, whether or not it leads anywhere. -/
theorem resolves_of_unlinked (hnull : p.hasNull = false)
    (h : Unlinked m.files (m.startOf p) p.parts) : m.Resolves p := by
  intro f hf
  by_cases hstarts : m.Starts p
  · obtain ⟨n, l, hgoes⟩ := goes_of_unlinked h
    cases (resolve_of_goes hnull hstarts hgoes).symm.trans hf
  · cases (resolve_of_not_starts hnull hstarts).symm.trans hf
    rfl

end Machine

end SourceCheck

import SourceCheck.Machine.Resolve
import SourceCheck.Proofs.Path

/-!
# Resolved paths are legible

A resolved path is put together from the names of the working directory, the parts of the path and
the fields of the links' targets.  If no slash stands in the first two, none stands in what comes
out, because no field holds one.

* `Machine.Resolving.Clean`: resolving that has met no slash.
* `Machine.clean_resolveDeep`: it stays like that.
* `Machine.legible_resolve`, `Machine.legible_expandHome`: the paths that come out.
-/

namespace SourceCheck.Machine

variable {m : Machine} {p q : Path} {names : List String} {seen : Seen}
  {onLink : Location → List String → Seen → Resolving}

/-! ## 1. Names without slashes -/

/-- **Names without slashes.** -/
def Slashless (names : List String) : Prop := ∀ name ∈ names, '/' ∉ name.toList

theorem Slashless.append {names' : List String} (h : Slashless names) (h' : Slashless names') :
    Slashless (names ++ names') :=
  fun name hname => (List.mem_append.mp hname).elim (h name) (h' name)

theorem slashless_slashFields (s : String) : Slashless (slashFields s) := by
  intro name hname
  obtain ⟨f, hf, rfl⟩ := List.mem_map.mp hname
  rw [String.toList_ofList]
  exact Text.not_mem_of_mem_fields hf

/-- Links that resolve to names without slashes, as far as it is known. -/
def SlashlessLinks (seen : Seen) : Prop :=
  ∀ s ∈ seen, ∀ known, s.2 = some known → Slashless known

theorem SlashlessLinks.note (h : SlashlessLinks seen) (l : Location) {value : Option Location}
    (hvalue : ∀ known, value = some known → Slashless known) :
    SlashlessLinks (Resolving.note l value seen) := by
  intro s hs
  rcases List.mem_cons.mp hs with rfl | hs
  · exact hvalue
  · exact h s (List.mem_filter.mp hs).1

/-! ## 2. Resolving -/

/-- **Resolving that has met no slash**, except in a text, where it stands between two names. -/
structure Resolving.Clean (r : Resolving) : Prop where
  place : ∀ l, r.place = .location l → Slashless l
  seen : SlashlessLinks r.seen

/-- One name after the other keeps slashes away, if the targets of links do. -/
theorem clean_resolveNames
    (honLink : ∀ here names seen, Slashless here → Slashless names → SlashlessLinks seen →
      (onLink here names seen).Clean) {here : List String} (hhere : Slashless here)
    (hseen : SlashlessLinks seen) (hnames : Slashless names) :
    (resolveNames m onLink here seen names).Clean := by
  induction names generalizing here seen with
  | nil => exact ⟨fun l hl => Replaced.location.inj hl ▸ hhere, hseen⟩
  | cons name rest ih =>
    obtain ⟨hname, hrest⟩ := List.forall_mem_cons.mp hnames
    have hnext : Slashless (here ++ [name]) :=
      hhere.append fun other hother => List.mem_singleton.mp hother ▸ hname
    rw [resolveNames]
    split
    · exact ih hhere hseen hrest
    · split
      · exact ih (fun other hother => hhere other (List.dropLast_subset _ hother)) hseen hrest
      · dsimp only
        split
        · rename_i target hlink
          split
          · rename_i known hknown
            obtain ⟨s, hs, hvalue⟩ := Option.map_eq_some_iff.mp hknown
            exact ih (hseen s (List.mem_of_find?_eq_some hs) known hvalue) hseen hrest
          · exact ⟨nofun, hseen⟩
          · have hstart : Slashless (if target.toList.head? = some '/' then [] else here) := by
              split
              · exact fun _ => nofun
              · exact hhere
            have hnoted : SlashlessLinks (Resolving.note (here ++ [name]) none seen) :=
              hseen.note _ fun _ => nofun
            have hinner := honLink _ _ _ hstart (slashless_slashFields target) hnoted
            generalize onLink _ (slashFields target) _ = inner at hinner ⊢
            split
            · exact ⟨nofun, hinner.seen⟩
            · rename_i l hplace
              have hl : Slashless l := hinner.place l hplace
              refine ih hl (hinner.seen.note _ fun known hknown => ?_) hrest
              exact Option.some.inj hknown ▸ hl
        · exact ih hnext hseen hrest

theorem clean_resolveDeep (n : Nat) {here : List String} (hhere : Slashless here)
    (hnames : Slashless names) (hseen : SlashlessLinks seen) :
    (resolveDeep m n here names seen).Clean := by
  induction n generalizing here names seen with
  | zero => exact ⟨nofun, hseen⟩
  | succ n ih =>
    exact clean_resolveNames (fun _ _ _ hhere hnames hseen => ih hhere hnames hseen) hhere hseen
      hnames

/-! ## 3. Paths that come out -/

/-- Nothing comes in when parts that point up are taken out. -/
theorem collapse_subset (parts : List String) : Path.collapse parts ⊆ parts := by
  have hfold : ∀ done : List String,
      parts.foldl (fun done part => if part == ".." then done.dropLast else done ++ [part]) done ⊆
        done ++ parts := by
    induction parts with
    | nil => exact fun done => (List.append_nil done).symm ▸ List.Subset.refl done
    | cons part rest ih =>
      intro done name hname
      rcases List.mem_append.mp (ih _ hname) with hdone | hrest
      · dsimp only at hdone
        split at hdone
        · exact List.mem_append_left _ (List.dropLast_subset _ hdone)
        · rw [List.append_cons]
          exact List.mem_append_left _ hdone
      · exact List.mem_append_right _ (List.mem_cons_of_mem part hrest)
  exact hfold []

theorem slashless_startOf (hworking : Slashless m.workingDirectory) (p : Path) :
    Slashless (m.startOf p) := by
  rw [startOf]
  split
  · exact fun _ => nofun
  · exact hworking

/-- **A resolved path is legible**, if no slash stands in a name of the working directory. -/
theorem legible_resolve (hworking : Slashless m.workingDirectory) (hp : p.Legible)
    (h : m.resolve p = .ok q) : q.Legible := by
  have hclean : (resolveDeep m (m.files.linkCount + 2) (m.startOf p) p.parts []).Clean :=
    clean_resolveDeep _ (slashless_startOf hworking p) (fun part hpart => (hp part hpart).2)
      fun _ => nofun
  have hplace : Slashless ((m.resolveParts p).path m).parts := by
    cases hreplaced : m.resolveParts p with
    | location l => exact hclean.place l hreplaced
    | text s =>
      -- A text is taken apart at its slashes.
      rw [Replaced.path, Path.join]
      split
      · exact fun part hpart => (Path.legible_ofString s part hpart).2
      · exact Slashless.append hworking fun part hpart => (Path.legible_ofString s part hpart).2
  rw [eq_of_resolve h]
  intro part hpart
  obtain ⟨hmem, hmeaning⟩ := List.mem_filter.mp (collapse_subset _ hpart)
  exact ⟨hmeaning, hplace part hmem⟩

/-- A path with the home directory filled in is legible. -/
theorem legible_expandHome (hp : p.Legible) (h : m.expandHome p = .ok q) : q.Legible := by
  rw [expandHome] at h
  split at h
  · rename_i first rest hanchor hparts
    split at h
    · split at h
      · split at h
        · cases h
        · cases h
          refine (Path.legible_ofString _).join fun part hpart => hp part ?_
          rw [hparts]
          exact List.mem_cons_of_mem first hpart
      · cases h
    · cases h
      exact hp
  · cases h
    exact hp

end SourceCheck.Machine

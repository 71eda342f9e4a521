import SourceCheck.Project.Root
import SourceCheck.Proofs.Check.Running
import SourceCheck.Proofs.Machine.Refusing
import SourceCheck.Proofs.Path

/-!
# The search for the project root

The search goes up from the file's own directory, one directory after the other.  In each of them
markers come first, and only where none is the detector is asked.  So it is asked once in every
directory that the search comes to, and what it fails with comes out of the search only there; so
does the machine's refusal to say whether a marker is there.

A detector may change the world while it is asked.  What is said of a directory is therefore said of
the world in which the search arrives there.

* `Path.upward_eq`, `nodup_upward`, `getLast?_upward`: the directories that the search goes through.
* `Project.Passes`: directories that the search has gone past.
* `Project.Way`: the five ways in which a search can end.
* `Project.noting`: a detector that notes where it is asked.
* `Project.searched`: what holds of every search.
-/

namespace SourceCheck

/-! ## 1. Going up -/

namespace Path

variable {p : Path}

/-- **A directory and those above it**: the directory, and, unless it is the topmost one, its parent
and those above that. -/
theorem upward_eq (p : Path) : p.upward = p :: if p.parts = [] then [] else p.parent.upward := by
  obtain ⟨anchor, parts⟩ := p
  cases parts using List.reverseRecOn with
  | nil => rfl
  | append_singleton parts part =>
    have hne : parts ++ [part] ≠ [] := List.append_ne_nil_of_right_ne_nil parts (by simp)
    rw [if_neg hne, upward, Path.shrinking_concat, parent, List.dropLast_concat]
    rfl

theorem nodup_shrinking (parts : List String) : (shrinking parts).Nodup := by
  induction parts with
  | nil => exact List.nodup_cons.mpr ⟨List.not_mem_nil, List.nodup_nil⟩
  | cons x xs ih =>
    rw [shrinking, List.nodup_append]
    refine ⟨List.Pairwise.map _ (fun _ _ hne h => hne (List.cons.inj h).2) ih,
      List.nodup_cons.mpr ⟨List.not_mem_nil, List.nodup_nil⟩, ?_⟩
    rintro _ hmem _ hnil rfl
    obtain ⟨ys, -, hys⟩ := List.mem_map.mp hmem
    exact List.cons_ne_nil _ _ (hys.trans (List.mem_singleton.mp hnil))

/-- No directory is gone through twice. -/
theorem nodup_upward (p : Path) : p.upward.Nodup :=
  List.Pairwise.map _ (fun _ _ hne h => hne (Path.mk.inj h).2) (nodup_shrinking p.parts)

/-- Going up ends at the anchor, which is the root of the file system if the path is absolute. -/
theorem getLast?_upward (p : Path) : p.upward.getLast? = some ⟨p.anchor, []⟩ := by
  have hlast : (shrinking p.parts).getLast? = some [] := by
    cases p.parts with
    | nil => rfl
    | cons x xs => exact List.getLast?_concat
  rw [upward, List.getLast?_map, hlast]
  rfl

/-- Going up from a directory that is come to goes through the rest. -/
theorem upward_of_append {p q : Path} {below above : List Path}
    (h : p.upward = below ++ q :: above) : q.upward = q :: above := by
  induction below generalizing p with
  | nil =>
    have hp := p.upward_eq
    rw [h] at hp
    obtain ⟨rfl, -⟩ := List.cons.inj hp
    exact h
  | cons x below ih =>
    have hp := p.upward_eq
    rw [h] at hp
    obtain ⟨-, hrest⟩ := List.cons.inj hp
    split at hrest
    · exact absurd hrest (List.append_ne_nil_of_right_ne_nil below (List.cons_ne_nil q above))
    · exact ih hrest.symm

end Path

/-! ## 2. Actions that end -/

/-- A world with something kept beside what others keep. -/
def World.beside {τ σ : Type} (w : World τ) (x : σ) : World (τ × σ) := ⟨w.machine, (w.own, x)⟩

namespace Action

variable {τ α β : Type} {a : Action τ α} {k : α → Action τ β} {v : α} {f : Fault}
  {r r' : Except Fault α} {s : Except Fault β} {w w₁ w₂ : World τ}

/-- **What an action comes to, and the world that it leaves.** -/
def Ends (a : Action τ α) (w : World τ) (r : Except Fault α) (w₁ : World τ) : Prop :=
  a.outcome w = r ∧ a.final w = w₁

theorem Ends.bind (h : a.Ends w (.ok v) w₁) (hk : (k v).Ends w₁ s w₂) :
    (a >>= k).Ends w s w₂ := by
  obtain ⟨ha, rfl⟩ := h
  refine ⟨?_, (final_bind ha).trans hk.2⟩
  rw [outcome_bind, ha]
  exact hk.1

theorem Ends.bind_error (h : a.Ends w (.error f) w₁) (k : α → Action τ β) :
    (a >>= k).Ends w (.error f) w₁ := by
  obtain ⟨ha, rfl⟩ := h
  refine ⟨by rw [outcome_bind, ha]; rfl, ?_⟩
  unfold outcome at ha
  unfold final
  rw [ExceptT.run_bind, StateT.run_bind]
  rcases hrun : a.run.run w with ⟨r, w'⟩
  rw [hrun] at ha
  cases ha
  rfl

theorem ends_pure (v : α) (w : World τ) : (pure v : Action τ α).Ends w (.ok v) w := ⟨rfl, rfl⟩

theorem ends_ask (q : Machine → Except Fault α) (w : World τ) : (ask q).Ends w (q w.machine) w :=
  ⟨outcome_ask q w, final_ask q w⟩

end Action

namespace Project

variable {τ : Type} {detect : Path → Action τ Bool} {directory fallback file root : Path}
  {below above places asked notes : List Path} {m : Machine} {w w' : World τ} {f : Fault}
  {r : Except Fault Path}

/-! ## 3. What is met in a directory -/

/-- **A directory that holds a marker.** -/
def Marked (m : Machine) (directory : Path) : Prop := m.FirstAnswer directory markers (.ok true)

/-- **A directory that holds no marker.** -/
def Unmarked (m : Machine) (directory : Path) : Prop :=
  ∀ name ∈ markers, m.exists? (directory.child name) = .ok false

/-- A directory whose markers the machine refuses to look for. -/
def Refused (m : Machine) (directory : Path) (f : Fault) : Prop :=
  m.FirstAnswer directory markers (.error f)

theorem marking_cases (m : Machine) (directory : Path) :
    Marked m directory ∨ Unmarked m directory ∨ ∃ f, Refused m directory f := by
  cases h : m.holdsAny directory markers with
  | error f => exact .inr (.inr ⟨f, Machine.holdsAny_eq_error_iff.mp h⟩)
  | ok there =>
    cases there with
    | true => exact .inl (Machine.holdsAny_eq_true_iff.mp h)
    | false => exact .inr (.inl (Machine.holdsAny_eq_false_iff.mp h))

theorem ends_isRoot_of_marked (h : Marked w.machine directory) :
    (isRoot detect directory).Ends w (.ok true) w := by
  have hask := Action.ends_ask (fun m => m.holdsAny directory markers) w
  rw [Machine.holdsAny_eq_true_iff.mpr h] at hask
  exact hask.bind (Action.ends_pure true w)

theorem ends_isRoot_of_refused (h : Refused w.machine directory f) :
    (isRoot detect directory).Ends w (.error f) w := by
  have hask := Action.ends_ask (fun m => m.holdsAny directory markers) w
  rw [Machine.holdsAny_eq_error_iff.mpr h] at hask
  exact hask.bind_error _

/-- **Where no marker is, the detector decides.** -/
theorem ends_isRoot_of_unmarked (detect : Path → Action τ Bool)
    (h : Unmarked w.machine directory) :
    (isRoot detect directory).Ends w ((detect directory).outcome w)
      ((detect directory).final w) := by
  have hask := Action.ends_ask (fun m => m.holdsAny directory markers) w
  rw [Machine.holdsAny_eq_false_iff.mpr h] at hask
  exact hask.bind ⟨rfl, rfl⟩

/-! ## 4. The search -/

/-- **Directories that a search has gone past**: none of them holds a marker, and the detector,
asked once in each of them and in this order, has accepted none. -/
inductive Passes (detect : Path → Action τ Bool) : World τ → List Path → World τ → Prop
  | start (w : World τ) : Passes detect w [] w
  | past {w w' : World τ} {directory : Path} {rest : List Path}
    (hmarkers : Unmarked w.machine directory)
    (hdetect : (detect directory).outcome w = .ok false)
    (hrest : Passes detect ((detect directory).final w) rest w') :
    Passes detect w (directory :: rest) w'

/-- **The ways in which a search can end**, each with what comes of it, the directories in which the
detector was asked, and the world that is left. -/
inductive Way (detect : Path → Action τ Bool) (fallback : Path) (places : List Path)
    (w : World τ) : Except Fault Path → List Path → World τ → Prop
  | marked {below above : List Path} {directory : Path} {w' : World τ}
    (hplaces : places = below ++ directory :: above) (hbelow : Passes detect w below w')
    (h : Marked w'.machine directory) :
    Way detect fallback places w (.ok directory) below w'
  | refused {below above : List Path} {directory : Path} {w' : World τ} {f : Fault}
    (hplaces : places = below ++ directory :: above) (hbelow : Passes detect w below w')
    (h : Refused w'.machine directory f) :
    Way detect fallback places w (.error f) below w'
  | detected {below above : List Path} {directory : Path} {w' : World τ}
    (hplaces : places = below ++ directory :: above) (hbelow : Passes detect w below w')
    (h : Unmarked w'.machine directory) (hdetect : (detect directory).outcome w' = .ok true) :
    Way detect fallback places w (.ok directory) (below ++ [directory])
      ((detect directory).final w')
  | raised {below above : List Path} {directory : Path} {w' : World τ} {f : Fault}
    (hplaces : places = below ++ directory :: above) (hbelow : Passes detect w below w')
    (h : Unmarked w'.machine directory) (hdetect : (detect directory).outcome w' = .error f) :
    Way detect fallback places w (.error f) (below ++ [directory]) ((detect directory).final w')
  | exhausted {w' : World τ} (h : Passes detect w places w') :
    Way detect fallback places w (.ok fallback) places w'

/-- A search that has gone past one more directory. -/
theorem Way.after (hmarkers : Unmarked w.machine directory)
    (hdetect : (detect directory).outcome w = .ok false)
    (h : Way detect fallback places ((detect directory).final w) r asked w') :
    Way detect fallback (directory :: places) w r (directory :: asked) w' := by
  cases h with
  | marked hplaces hbelow h =>
    exact .marked (congrArg (directory :: ·) hplaces) (.past hmarkers hdetect hbelow) h
  | refused hplaces hbelow h =>
    exact .refused (congrArg (directory :: ·) hplaces) (.past hmarkers hdetect hbelow) h
  | detected hplaces hbelow h hd =>
    exact .detected (congrArg (directory :: ·) hplaces) (.past hmarkers hdetect hbelow) h hd
  | raised hplaces hbelow h hd =>
    exact .raised (congrArg (directory :: ·) hplaces) (.past hmarkers hdetect hbelow) h hd
  | exhausted h => exact .exhausted (.past hmarkers hdetect h)

/-- **Every search ends in one of the ways.** -/
theorem exists_way (detect : Path → Action τ Bool) (fallback : Path) (places : List Path)
    (w : World τ) : ∃ r asked w', Way detect fallback places w r asked w' := by
  induction places generalizing w with
  | nil => exact ⟨_, _, _, .exhausted (.start w)⟩
  | cons directory rest ih =>
    have hhere : directory :: rest = [] ++ directory :: rest := rfl
    rcases marking_cases w.machine directory with hmarked | hunmarked | ⟨f, hrefused⟩
    · exact ⟨_, _, _, .marked hhere (.start w) hmarked⟩
    · cases hdetect : (detect directory).outcome w with
      | error f => exact ⟨_, _, _, .raised hhere (.start w) hunmarked hdetect⟩
      | ok accepted =>
        cases accepted with
        | true => exact ⟨_, _, _, .detected hhere (.start w) hunmarked hdetect⟩
        | false =>
          obtain ⟨r, asked, w', hway⟩ := ih ((detect directory).final w)
          exact ⟨_, _, _, hway.after hunmarked hdetect⟩
    · exact ⟨_, _, _, .refused hhere (.start w) hrefused⟩

/-- What a search comes to behind directories that it goes past. -/
theorem ends_firstRoot_of_passes (h : Passes detect w below w') {w₁ : World τ}
    (hrest : (firstRoot detect fallback places).Ends w' r w₁) :
    (firstRoot detect fallback (below ++ places)).Ends w r w₁ := by
  induction h with
  | start w => exact hrest
  | past hmarkers hdetect _ ih =>
    have hroot := ends_isRoot_of_unmarked detect hmarkers
    rw [hdetect] at hroot
    exact hroot.bind (ih hrest)

/-- **A way tells what the search comes to.** -/
theorem Way.ends (h : Way detect fallback places w r asked w') :
    (firstRoot detect fallback places).Ends w r w' := by
  cases h with
  | marked hplaces hbelow h =>
    rw [hplaces]
    refine ends_firstRoot_of_passes hbelow ?_
    exact (ends_isRoot_of_marked h).bind (Action.ends_pure _ _)
  | refused hplaces hbelow h =>
    rw [hplaces]
    exact ends_firstRoot_of_passes hbelow ((ends_isRoot_of_refused h).bind_error _)
  | detected hplaces hbelow h hdetect =>
    rw [hplaces]
    have hroot := ends_isRoot_of_unmarked detect h
    rw [hdetect] at hroot
    exact ends_firstRoot_of_passes hbelow (hroot.bind (Action.ends_pure _ _))
  | raised hplaces hbelow h hdetect =>
    rw [hplaces]
    have hroot := ends_isRoot_of_unmarked detect h
    rw [hdetect] at hroot
    exact ends_firstRoot_of_passes hbelow (hroot.bind_error _)
  | exhausted h =>
    have hrest : (firstRoot detect fallback []).Ends w' (.ok fallback) w' :=
      Action.ends_pure fallback w'
    have hall := ends_firstRoot_of_passes h hrest
    rwa [List.append_nil] at hall

/-! ## 5. Where the detector is asked -/

/-- **A detector that notes where it is asked**, beside what it keeps for itself. -/
def noting (detect : Path → Action τ Bool) (directory : Path) : Action (τ × List Path) Bool :=
  .mk fun w =>
    let plain : World τ := ⟨w.machine, w.own.1⟩
    ((detect directory).outcome plain,
      ((detect directory).final plain).beside (w.own.2 ++ [directory]))

/-- **Noting changes nothing but the notes.** -/
theorem ends_noting (detect : Path → Action τ Bool) (directory : Path) (w : World τ)
    (notes : List Path) : (noting detect directory).Ends (w.beside notes)
      ((detect directory).outcome w) (((detect directory).final w).beside (notes ++ [directory])) :=
  ⟨rfl, rfl⟩

theorem Passes.noting (h : Passes detect w places w') (notes : List Path) :
    Passes (noting detect) (w.beside notes) places (w'.beside (notes ++ places)) := by
  induction h generalizing notes with
  | start w =>
    rw [List.append_nil]
    exact .start _
  | @past w w' directory rest hmarkers hdetect _ ih =>
    obtain ⟨houtcome, hfinal⟩ := ends_noting detect directory w notes
    have hrest := ih (notes ++ [directory])
    rw [List.append_assoc, ← hfinal] at hrest
    exact .past hmarkers (houtcome.trans hdetect) hrest

theorem Way.noting (h : Way detect fallback places w r asked w') (notes : List Path) :
    Way (noting detect) fallback places (w.beside notes) r asked (w'.beside (notes ++ asked)) := by
  cases h with
  | marked hplaces hbelow h => exact .marked hplaces (hbelow.noting notes) h
  | refused hplaces hbelow h => exact .refused hplaces (hbelow.noting notes) h
  | detected hplaces hbelow h hdetect =>
    obtain ⟨houtcome, hfinal⟩ := ends_noting detect _ _ (notes ++ _)
    rw [← List.append_assoc, ← hfinal]
    exact .detected hplaces (hbelow.noting notes) h (houtcome.trans hdetect)
  | raised hplaces hbelow h hdetect =>
    obtain ⟨houtcome, hfinal⟩ := ends_noting detect _ _ (notes ++ _)
    rw [← List.append_assoc, ← hfinal]
    exact .raised hplaces (hbelow.noting notes) h (houtcome.trans hdetect)
  | exhausted h => exact .exhausted (h.noting notes)

/-- A search ends in one way: the notes of the two are the same. -/
theorem Way.unique {r' : Except Fault Path} {asked' : List Path} {w₁ : World τ}
    (h : Way detect fallback places w r asked w') (h' : Way detect fallback places w r' asked' w₁) :
    r' = r ∧ asked' = asked ∧ w₁ = w' := by
  have hends := (h.noting []).ends
  have hends' := (h'.noting []).ends
  have hworld := hends'.2.symm.trans hends.2
  obtain ⟨hmachine, hown⟩ := World.mk.inj hworld
  obtain ⟨hown, hasked⟩ := Prod.mk.inj hown
  refine ⟨hends'.1.symm.trans hends.1, hasked, ?_⟩
  obtain ⟨m', o'⟩ := w'
  obtain ⟨m₁, o₁⟩ := w₁
  exact congr (congrArg World.mk hmachine) hown

/-! ## 6. The search from a file -/

/-- **The search comes to a directory**: it has gone past all directories from the file's own up to
there, and left a world. -/
def Arrives (detect : Path → Action τ Bool) (file : Path) (w : World τ) (directory : Path)
    (w' : World τ) : Prop :=
  ∃ below above, file.parent.upward = below ++ directory :: above ∧ Passes detect w below w'

/-- **A directory that qualifies as a root**: it holds a marker, or the detector accepts it. -/
def Qualifies (detect : Path → Action τ Bool) (w : World τ) (directory : Path) : Prop :=
  Marked w.machine directory ∨
    Unmarked w.machine directory ∧ (detect directory).outcome w = .ok true

/-- **A directory at which the search fails**: the machine refuses to say whether a marker is there,
or there is none and the detector fails. -/
def Fails (detect : Path → Action τ Bool) (w : World τ) (directory : Path) (f : Fault) : Prop :=
  Refused w.machine directory f ∨
    Unmarked w.machine directory ∧ (detect directory).outcome w = .error f

/-- **What holds of a search**, with the directories in which the detector was asked. -/
structure Searched (detect : Path → Action τ Bool) (file : Path) (w : World τ)
    (asked : List Path) : Prop where
  /-- The root is the first directory on the way that qualifies, and the file's own if none does. -/
  found (root : Path) : (findRoot detect file).outcome w = .ok root ↔
    (∃ w', Arrives detect file w root w' ∧ Qualifies detect w' root) ∨
      (∃ w', Passes detect w file.parent.upward w') ∧ root = file.parent
  /-- The search fails exactly where it comes to a directory at which it fails, and with the failure
  of this one. -/
  raised (f : Fault) : (findRoot detect file).outcome w = .error f ↔
    ∃ directory w', Arrives detect file w directory w' ∧ Fails detect w' directory f
  /-- A detector that notes where it is asked leads to the same. -/
  noted : (findRoot (noting detect) file).Ends (w.beside []) ((findRoot detect file).outcome w)
    (((findRoot detect file).final w).beside asked)
  once : asked.Nodup
  goingUp : asked <+: file.parent.upward
  unmarked : ∀ directory ∈ asked,
    ∃ w', Arrives detect file w directory w' ∧ Unmarked w'.machine directory
  notAbove (root : Path) (w' : World τ) (harrives : Arrives detect file w root w')
    (hqualifies : Qualifies detect w' root) :
    ∀ directory ∈ asked, directory ∈ root.upward → directory = root
  /-- Where no directory qualifies, the detector was asked in all of them. -/
  everywhere (w' : World τ) (h : Passes detect w file.parent.upward w') :
    asked = file.parent.upward

/-- Whether a directory holds a marker, where the machine answers. -/
theorem marked_iff
    (hanswers : ∀ name ∈ markers, ∃ there, m.exists? (directory.child name) = .ok there) :
    Marked m directory ↔ ∃ name ∈ markers, m.exists? (directory.child name) = .ok true := by
  constructor
  · rintro ⟨before, name, after, hmarkers, -, hyes⟩
    exact ⟨name, hmarkers ▸ List.mem_append_right before List.mem_cons_self, hyes⟩
  · rintro ⟨name, hname, hyes⟩
    rcases marking_cases m directory with hmarked | hunmarked | ⟨f, hrefused⟩
    · exact hmarked
    · cases (hunmarked name hname).symm.trans hyes
    · obtain ⟨before, other, after, hmarkers, -, hrefused⟩ := hrefused
      have hother : other ∈ markers := hmarkers ▸ List.mem_append_right before List.mem_cons_self
      obtain ⟨there, hthere⟩ := hanswers other hother
      cases hrefused.symm.trans hthere

theorem Passes.unmarked (h : Passes detect w places w') (hmem : directory ∈ places) :
    ∃ below above w₁, places = below ++ directory :: above ∧ Passes detect w below w₁ ∧
      Unmarked w₁.machine directory := by
  induction h with
  | start w => cases hmem
  | @past w w' first rest hmarkers hdetect hrest ih =>
    rcases List.mem_cons.mp hmem with rfl | hmem
    · exact ⟨[], rest, w, rfl, .start w, hmarkers⟩
    · obtain ⟨below, above, w₁, rfl, hbelow, hunmarked⟩ := ih hmem
      exact ⟨first :: below, above, w₁, rfl, .past hmarkers hdetect hbelow, hunmarked⟩

/-- The detector is asked only where the search comes to and no marker is. -/
theorem Way.unmarked (h : Way detect fallback places w r asked w') (hmem : directory ∈ asked) :
    ∃ below above w₁, places = below ++ directory :: above ∧ Passes detect w below w₁ ∧
      Unmarked w₁.machine directory := by
  have past : ∀ {below above : List Path} {last : Path} {w₁ : World τ},
      places = below ++ last :: above → Passes detect w below w₁ → directory ∈ below →
      ∃ below above w₁, places = below ++ directory :: above ∧ Passes detect w below w₁ ∧
        Unmarked w₁.machine directory := by
    intro below above last w₁ hplaces hbelow hmem
    obtain ⟨below', above', w₂, rfl, hbelow', hunmarked⟩ := hbelow.unmarked hmem
    refine ⟨below', above' ++ last :: above, w₂, ?_, hbelow', hunmarked⟩
    rw [hplaces, List.append_assoc, List.cons_append]
  have last : ∀ {below above : List Path} {last : Path} {w₁ : World τ},
      places = below ++ last :: above → Passes detect w below w₁ → Unmarked w₁.machine last →
      directory ∈ below ++ [last] →
      ∃ below above w₁, places = below ++ directory :: above ∧ Passes detect w below w₁ ∧
        Unmarked w₁.machine directory := by
    intro below above last w₁ hplaces hbelow hunmarked hmem
    rcases List.mem_append.mp hmem with hmem | hmem
    · exact past hplaces hbelow hmem
    · obtain rfl := List.mem_singleton.mp hmem
      exact ⟨below, above, w₁, hplaces, hbelow, hunmarked⟩
  cases h with
  | marked hplaces hbelow _ => exact past hplaces hbelow hmem
  | refused hplaces hbelow _ => exact past hplaces hbelow hmem
  | detected hplaces hbelow h _ => exact last hplaces hbelow h hmem
  | raised hplaces hbelow h _ => exact last hplaces hbelow h hmem
  | exhausted h => exact h.unmarked hmem

theorem Way.begins (h : Way detect fallback places w r asked w') : asked <+: places := by
  cases h with
  | marked hplaces _ _ => exact ⟨_, hplaces.symm⟩
  | refused hplaces _ _ => exact ⟨_, hplaces.symm⟩
  | detected hplaces _ _ _ => exact ⟨_, by rw [hplaces, List.append_assoc]; rfl⟩
  | raised hplaces _ _ _ => exact ⟨_, by rw [hplaces, List.append_assoc]; rfl⟩
  | exhausted _ => exact List.prefix_rfl

/-- The way of a search that has come to a directory which qualifies. -/
theorem Arrives.way (h : Arrives detect file w root w') (hqualifies : Qualifies detect w' root) :
    ∃ below above asked w₁, file.parent.upward = below ++ root :: above ∧
      Way detect file.parent file.parent.upward w (.ok root) asked w₁ ∧
      asked ⊆ below ++ [root] := by
  obtain ⟨below, above, hupward, hbelow⟩ := h
  rcases hqualifies with hmarked | ⟨hunmarked, hdetect⟩
  · exact ⟨below, above, _, _, hupward, .marked hupward hbelow hmarked,
      List.subset_append_left below [root]⟩
  · exact ⟨below, above, _, _, hupward, .detected hupward hbelow hunmarked hdetect,
      List.Subset.refl _⟩

/-- **What holds of every search**, whatever the detector does. -/
theorem searched (detect : Path → Action τ Bool) (file : Path) (w : World τ) :
    ∃ asked, Searched detect file w asked := by
  obtain ⟨r, asked, w', hway⟩ := exists_way detect file.parent file.parent.upward w
  have hends : (findRoot detect file).Ends w r w' := hway.ends
  have hnodup := file.parent.nodup_upward
  refine ⟨asked, fun root => ⟨fun hroot => ?_, ?_⟩, fun f => ⟨fun hfailed => ?_, ?_⟩, ?_,
    hway.begins.sublist.nodup hnodup, hway.begins, fun directory hmem => ?_, ?_, fun w₁ h => ?_⟩
  · cases hends.1.symm.trans hroot
    cases hway with
    | marked hplaces hbelow h => exact .inl ⟨_, ⟨_, _, hplaces, hbelow⟩, .inl h⟩
    | detected hplaces hbelow h hdetect =>
      exact .inl ⟨_, ⟨_, _, hplaces, hbelow⟩, .inr ⟨h, hdetect⟩⟩
    | exhausted h => exact .inr ⟨⟨_, h⟩, rfl⟩
  · rintro (⟨w₁, harrives, hqualifies⟩ | ⟨⟨w₁, h⟩, rfl⟩)
    · obtain ⟨below, above, asked', w₂, -, hway', -⟩ := harrives.way hqualifies
      exact hway'.ends.1
    · exact (Way.exhausted h).ends.1
  · cases hends.1.symm.trans hfailed
    cases hway with
    | refused hplaces hbelow h => exact ⟨_, _, ⟨_, _, hplaces, hbelow⟩, .inl h⟩
    | raised hplaces hbelow h hdetect =>
      exact ⟨_, _, ⟨_, _, hplaces, hbelow⟩, .inr ⟨h, hdetect⟩⟩
  · rintro ⟨directory, w₁, ⟨below, above, hplaces, hbelow⟩, hrefused | ⟨hunmarked, hdetect⟩⟩
    · exact (Way.refused hplaces hbelow hrefused).ends.1
    · exact (Way.raised hplaces hbelow hunmarked hdetect).ends.1
  · have hnoted := (hway.noting []).ends
    rw [List.nil_append, ← hends.1, ← hends.2] at hnoted
    exact hnoted
  · obtain ⟨below, above, w₁, hplaces, hbelow, hunmarked⟩ := hway.unmarked hmem
    exact ⟨w₁, ⟨below, above, hplaces, hbelow⟩, hunmarked⟩
  · intro root w₁ harrives hqualifies directory hmem habove
    obtain ⟨below, above, asked', w₂, hupward, hway', hsubset⟩ := harrives.way hqualifies
    obtain ⟨-, rfl, -⟩ := hway.unique hway'
    rw [Path.upward_of_append hupward] at habove
    rcases List.mem_cons.mp habove with rfl | habove
    · rfl
    · rw [hupward, List.append_cons] at hnodup
      have hapart := (List.nodup_append.mp hnodup).2.2 directory (hsubset hmem) directory
      exact absurd rfl (hapart habove)
  · exact (hway.unique (.exhausted h)).2.1.symm

end Project

end SourceCheck

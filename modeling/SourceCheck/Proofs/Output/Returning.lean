import Mathlib.Data.List.Forall2
import SourceCheck.Output.Position
import SourceCheck.Proofs.Text.Trimming

/-!
# Readings that return

A reading of tool output returns a value or fails with a cause.  A reading that is put together from
smaller ones returns exactly if they do: each way of putting readings together has its lemma here,
and the numbers of positions, with which every failure of a line reader begins, have theirs.

* `Returns`: the reading gives a value.
* `returns_bind`, `returns_mapM`, `returns_filterM`: readings put together.
* `mapM_eq_ok_iff`: the values of a list that is read.
* `returns_ofDigits`: the number of a position is read if it is not too long.
* `RunsShort`: texts in which every number is short.
-/

namespace SourceCheck

variable {α β γ : Type}

instance instDecidableEqExcept [DecidableEq α] [DecidableEq β] : DecidableEq (Except α β)
  | .ok a, .ok b => decidable_of_iff (a = b) (Iff.of_eq (Except.ok.injEq a b).symm)
  | .error e, .error f => decidable_of_iff (e = f) (Iff.of_eq (Except.error.injEq e f).symm)
  | .ok _, .error _ => isFalse nofun
  | .error _, .ok _ => isFalse nofun

/-! ## 1. Readings put together -/

/-- **The reading gives a value.** -/
def Returns (r : Except Fault α) : Prop := ∃ v, r = .ok v

@[simp] theorem returns_ok (v : α) : Returns (.ok v) := ⟨v, rfl⟩

@[simp] theorem returns_pure (v : α) : Returns (pure v) := ⟨v, rfl⟩

@[simp] theorem not_returns_error (f : Fault) : ¬ Returns (.error f : Except Fault α) := by
  rintro ⟨v, hv⟩
  cases hv

theorem returns_bind {r : Except Fault α} {k : α → Except Fault β} :
    Returns (r >>= k) ↔ ∃ v, r = .ok v ∧ Returns (k v) := by
  cases r with
  | ok v =>
    constructor
    · exact fun h => ⟨v, rfl, h⟩
    · rintro ⟨v', hv, h⟩
      cases hv
      exact h
  | error f =>
    constructor
    · exact fun h => absurd h (not_returns_error f)
    · rintro ⟨v, hv, -⟩
      cases hv

/-- A reading whose continuation returns for every value. -/
theorem returns_bind_of_forall {r : Except Fault α} {k : α → Except Fault β}
    (h : ∀ v, Returns (k v)) : Returns (r >>= k) ↔ Returns r := by
  rw [returns_bind]
  exact ⟨fun ⟨v, hv, _⟩ => ⟨v, hv⟩, fun ⟨v, hv⟩ => ⟨v, hv, h v⟩⟩

/-- Two readings one after the other, the second of which does not look at the first. -/
theorem returns_bind_const {r : Except Fault α} {k : α → Except Fault β} {s : Except Fault γ}
    (h : ∀ v, Returns (k v) ↔ Returns s) : Returns (r >>= k) ↔ Returns r ∧ Returns s := by
  rw [returns_bind]
  constructor
  · rintro ⟨v, hv, hk⟩
    exact ⟨⟨v, hv⟩, (h v).mp hk⟩
  · rintro ⟨⟨v, hv⟩, hs⟩
    exact ⟨v, hv, (h v).mpr hs⟩

/-- A reading whose value is made into another. -/
theorem returns_bind_pure {r : Except Fault α} {k : α → β} :
    Returns (do let v ← r; return k v) ↔ Returns r :=
  returns_bind_of_forall fun v => returns_pure (k v)

/-- Two readings whose values are put together. -/
theorem returns_both {r : Except Fault α} {s : Except Fault β} {k : α → β → γ} :
    Returns (do let v ← r; let w ← s; return k v w) ↔ Returns r ∧ Returns s :=
  returns_bind_const fun v => returns_bind_of_forall fun w => returns_pure (k v w)

@[simp] theorem returns_map {r : Except Fault α} {g : α → β} :
    Returns (r.map g) ↔ Returns r := by
  cases r with
  | ok v => simp [Except.map]
  | error f => simp [Except.map]

/-- **Reading each item of a list** returns if every item is read. -/
theorem returns_mapM {f : α → Except Fault β} {l : List α} :
    Returns (l.mapM f) ↔ ∀ a ∈ l, Returns (f a) := by
  induction l with
  | nil => simp
  | cons a l ih =>
    rw [List.mapM_cons, List.forall_mem_cons, ← ih]
    exact returns_both

/-- The values of a list that is read are those of its items. -/
theorem mapM_eq_ok_iff {f : α → Except Fault β} {l : List α} {bs : List β} :
    l.mapM f = .ok bs ↔ List.Forall₂ (fun a b => f a = .ok b) l bs := by
  induction l generalizing bs with
  | nil =>
    rw [List.mapM_nil, List.forall₂_nil_left_iff]
    exact ⟨fun h => (Except.ok.inj h).symm, fun h => congrArg Except.ok h.symm⟩
  | cons a l ih =>
    rw [List.mapM_cons, List.forall₂_cons_left_iff]
    constructor
    · intro h
      cases ha : f a with
      | error fault =>
        rw [ha] at h
        cases h
      | ok b =>
        cases hl : l.mapM f with
        | error fault =>
          rw [ha, hl] at h
          cases h
        | ok bs' =>
          rw [ha, hl] at h
          exact ⟨b, bs', rfl, ih.mp hl, (Except.ok.inj h).symm⟩
    · rintro ⟨b, bs', ha, hbs', rfl⟩
      rw [ha, ih.mpr hbs']
      rfl

/-- The items that are found and read are all the items, each with its value, exactly if each is
found and read as that. -/
theorem mapM_filterMap_eq_ok_iff {find : α → Option β} {read : β → Except Fault γ} {g : α → γ}
    {l : List α} :
    (l.filterMap find).mapM read = .ok (l.map g) ↔
      ∀ a ∈ l, ∃ b, find a = some b ∧ read b = .ok (g a) := by
  rw [mapM_eq_ok_iff]
  induction l with
  | nil => simp
  | cons a l ih =>
    rw [List.forall_mem_cons, ← ih, List.map_cons]
    cases ha : find a with
    | none =>
      rw [List.filterMap_cons_none ha]
      constructor
      · intro h
        have hlength := h.length_eq
        have hle := List.length_filterMap_le find l
        rw [List.length_cons, List.length_map] at hlength
        omega
      · rintro ⟨⟨b, hb, -⟩, -⟩
        cases hb
    | some b =>
      rw [List.filterMap_cons_some ha, List.forall₂_cons]
      simp

/-- Whether a choice accepts; one that fails does not. -/
def accepts : Except Fault Bool → Bool
  | .ok b => b
  | .error _ => false

theorem filterAuxM_eq_ok {p : α → Except Fault Bool} {l : List α}
    (h : ∀ a ∈ l, Returns (p a)) (chosen : List α) :
    l.filterAuxM p chosen = .ok ((l.filter fun a => accepts (p a)).reverse ++ chosen) := by
  induction l generalizing chosen with
  | nil => rfl
  | cons a l ih =>
    obtain ⟨b, hb⟩ := h a List.mem_cons_self
    have htail := ih fun x hx => h x (List.mem_cons_of_mem _ hx)
    rw [List.filterAuxM, hb]
    change l.filterAuxM p (cond b (a :: chosen) chosen) = _
    rw [htail]
    cases b <;> simp [hb, accepts]

/-- **Choosing items of a list** comes to the items that the choice accepts, if it answers for
each. -/
theorem filterM_eq_ok {p : α → Except Fault Bool} {l : List α}
    (h : ∀ a ∈ l, Returns (p a)) :
    l.filterM p = .ok (l.filter fun a => accepts (p a)) := by
  rw [List.filterM, filterAuxM_eq_ok h]
  simp [bind, Except.bind, pure, Except.pure]

theorem forall_returns_of_filterAuxM {p : α → Except Fault Bool} {l : List α} {chosen : List α}
    (h : Returns (l.filterAuxM p chosen)) : ∀ a ∈ l, Returns (p a) := by
  induction l generalizing chosen with
  | nil => simp
  | cons a l ih =>
    rw [List.filterAuxM, returns_bind] at h
    obtain ⟨b, hb, hk⟩ := h
    exact List.forall_mem_cons.mpr ⟨⟨b, hb⟩, ih hk⟩

/-- Choosing items of a list returns if the choice answers for each. -/
theorem returns_filterM {p : α → Except Fault Bool} {l : List α} :
    Returns (l.filterM p) ↔ ∀ a ∈ l, Returns (p a) := by
  constructor
  · intro h
    rw [List.filterM, returns_bind_of_forall fun _ => returns_pure _] at h
    exact forall_returns_of_filterAuxM h
  · exact fun h => ⟨_, filterM_eq_ok h⟩

/-! ## 2. Numbers of positions -/

/-- **A run of digits that is not too long to be read.** -/
def Short (digits : List Char) : Prop := digits.length ≤ Fault.digitLimit

instance (digits : List Char) : Decidable (Short digits) :=
  inferInstanceAs (Decidable (digits.length ≤ Fault.digitLimit))

/-- **A text each of whose runs of some characters is short.** -/
def RunsShort (p : Char → Bool) (s : List Char) : Prop :=
  ∀ ds, ds <:+: s → (∀ c ∈ ds, p c = true) → Short ds

theorem RunsShort.mono {p : Char → Bool} {s t : List Char} (h : RunsShort p t) (hst : s <:+: t) :
    RunsShort p s :=
  fun ds hds => h ds (hds.trans hst)

/-- Trimming leaves a part of the text. -/
theorem RunsShort.trim {p : Char → Bool} {s : List Char} (h : RunsShort p s) :
    RunsShort p (Text.trim s) := by
  obtain ⟨pre, post, hs, -⟩ := Text.exists_trim s
  exact h.mono ⟨pre, post, by rw [List.append_assoc]; exact hs.symm⟩

/-- No run is longer than the text. -/
theorem runsShort_of_short {s : List Char} (h : Short s) (p : Char → Bool) : RunsShort p s :=
  fun _ hds _ => Nat.le_trans hds.length_le h

theorem returns_readNumber {digits : List Char} :
    Returns (Number.readNumber digits) ↔ Short digits := by
  unfold Number.readNumber Short
  split
  · simp only [not_returns_error, false_iff]
    omega
  · simp only [returns_ok, true_iff]
    omega

theorem returns_ofDigits {digits : List Char} :
    Returns (Position.ofDigits digits) ↔ Short digits :=
  returns_map.trans returns_readNumber

theorem returns_ofDigits? {digits : Option (List Char)} :
    Returns (Position.ofDigits? digits) ↔ ∀ ds ∈ digits.toList, Short ds := by
  cases digits with
  | none => simp [Position.ofDigits?]
  | some ds => simpa [Position.ofDigits?] using returns_ofDigits

end SourceCheck

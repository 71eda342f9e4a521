import Mathlib.Data.List.TakeWhile
import SourceCheck.Proofs.Json.Numerals
import SourceCheck.Proofs.Json.Shapes
import SourceCheck.Proofs.Json.Strings

/-!
# Documents read back from their texts

A document that is written in any layout is read back, provided that it keeps within the limits of
the dialect, that no object has a key twice, and that the floating-point numbers in it are read back
by themselves.  The reader skips white space before every token, so what a value leaves over matters
only up to white space.

* `Fits`: the documents that can be read back.
* `items_write`, `members_write`: arrays and objects whose parts are read back.
* `readChars_write`: a document is read back from its text.
-/

namespace SourceCheck.Json

variable {d : Dialect} {l : Layout}

/-! ## 1. Documents that can be read back -/

mutual

/-- **A document that can be read back** inside `depth` levels of nesting. -/
def Fits (d : Dialect) : Nat → Json → Prop
  | _, int n => d.refuses (decide (n < 0)) true (Nat.toDigits 10 n.natAbs).length = false
  | _, number x => readChars d (writeNumber x) = .ok (.number x)
  | depth, array vs =>
    (d.countsEmpty = false ∧ vs = [] ∨ d.allows depth = true) ∧ ItemsFit d (depth + 1) vs
  | depth, object ms =>
    (d.countsEmpty = false ∧ ms = [] ∨ d.allows depth = true) ∧ (Table.keys ms).Nodup ∧
      MembersFit d (depth + 1) ms
  | _, _ => True

/-- Items each of which can be read back. -/
def ItemsFit (d : Dialect) : Nat → List Json → Prop
  | _, [] => True
  | depth, v :: vs => Fits d depth v ∧ ItemsFit d depth vs

/-- Members each of whose values can be read back. -/
def MembersFit (d : Dialect) : Nat → List (String × Json) → Prop
  | _, [] => True
  | depth, (_, v) :: ms => Fits d depth v ∧ MembersFit d depth ms

end

theorem itemsFit_of_forall {depth : Nat} {vs : List Json} (h : ∀ v ∈ vs, Fits d depth v) :
    ItemsFit d depth vs := by
  induction vs with
  | nil => exact trivial
  | cons v vs ih =>
    rw [ItemsFit.eq_def]
    exact ⟨h v List.mem_cons_self, ih fun w hw => h w (List.mem_cons_of_mem v hw)⟩

theorem membersFit_of_forall {depth : Nat} {ms : List (String × Json)}
    (h : ∀ e ∈ ms, Fits d depth e.2) : MembersFit d depth ms := by
  induction ms with
  | nil => exact trivial
  | cons e ms ih =>
    rw [MembersFit.eq_def]
    exact ⟨h e List.mem_cons_self, ih fun e' he' => h e' (List.mem_cons_of_mem e he')⟩

theorem fits_string (s : String) (depth : Nat) : Fits d depth (.string s) := by
  rw [Fits.eq_def]
  exact trivial

theorem fits_object {ms : Members} {depth : Nat} (hdepth : d.allows depth = true)
    (hkeys : (Table.keys ms).Nodup) (h : ∀ e ∈ ms, Fits d (depth + 1) e.2) :
    Fits d depth (.object ms) := by
  rw [Fits.eq_def]
  exact ⟨.inr hdepth, hkeys, membersFit_of_forall h⟩

/-- **A value is read back** wherever it stands, up to white space behind it. -/
def ReadsBack (d : Dialect) (l : Layout) (v : Json) : Prop :=
  ∀ (depth level fuel : Nat) (rest : List Char), Fits d depth v → Delimited rest →
    2 * (write l level v).length ≤ fuel →
    ∃ r, value d fuel depth (skip (write l level v ++ rest)) = .ok (v, r) ∧ skip r = skip rest

/-! ## 2. White space -/

theorem skip_cons {c : Char} (h : isSpace c = false) (s : List Char) : skip (c :: s) = c :: s := by
  rw [skip, List.dropWhile_cons_of_neg (by simp [h])]

theorem skip_append_of_skip {gap : List Char} (h : skip gap = []) (s : List Char) :
    skip (gap ++ s) = skip s := by
  have hall : ∀ c ∈ gap, isSpace c = true := List.dropWhile_eq_nil_iff.mp h
  rw [skip, List.dropWhile_append_of_pos hall, skip]

/-- Text behind leading white space, if anything is left of it. -/
theorem skip_append {s : List Char} (h : skip s ≠ []) (r : List Char) :
    skip (s ++ r) = skip s ++ r := by
  induction s with
  | nil => exact absurd rfl h
  | cons c s ih =>
    cases hc : isSpace c with
    | true =>
      rw [skip, List.dropWhile_cons_of_pos hc] at h
      rw [List.cons_append, skip, List.dropWhile_cons_of_pos hc, skip,
        List.dropWhile_cons_of_pos hc]
      exact ih h
    | false => rw [List.cons_append, skip_cons hc, skip_cons hc, List.cons_append]

theorem skip_break (l : Layout) (level : Nat) : skip (l.break level) = [] := by
  unfold Layout.break
  cases l.indent with
  | none => rfl
  | some n => simp [skip, isSpace]

/-- What separates two items is a comma and white space. -/
theorem exists_separator (l : Layout) (level : Nat) :
    ∃ gap, l.separator level = ',' :: gap ∧ skip gap = [] := by
  unfold Layout.separator
  cases l.indent with
  | none => exact ⟨[' '], rfl, rfl⟩
  | some n => exact ⟨l.break level, rfl, skip_break l level⟩

theorem delimited_of_skip {s : List Char} (h : skip s = []) : Delimited s := by
  cases s with
  | nil => exact delimited_nil
  | cons c s =>
    have hc := List.dropWhile_eq_nil_iff.mp h c List.mem_cons_self
    simp only [isSpace, Bool.or_eq_true, beq_iff_eq] at hc
    rcases hc with ((rfl | rfl) | rfl) | rfl <;> exact delimited_cons.mpr (by decide)

/-- White space and then a mark. -/
theorem delimited_gap {gap : List Char} (h : skip gap = []) {c : Char}
    (hc : continuesNumber c = false) (s : List Char) : Delimited (gap ++ c :: s) := by
  cases gap with
  | nil => exact delimited_cons.mpr hc
  | cons x xs => exact delimited_cons.mpr (delimited_cons.mp (delimited_of_skip h))

/-! ## 3. Words, numbers and strings -/

/-- What starts a word or a number is read as one. -/
theorem value_of_startsScalar {c : Char} (hc : startsScalar c = true) (fuel depth : Nat)
    (cs : List Char) : value d (fuel + 1) depth (c :: cs) = scalar d (c :: cs) := by
  have hplain := startsScalar_plain hc
  simp only [List.mem_cons, not_or] at hplain
  obtain ⟨-, -, -, -, hquote, hopen, -, hbrace, -⟩ := hplain
  rw [value.eq_def]
  simp [hquote, hopen, hbrace]

/-- A value that starts with none of the marks is a word or a number, so it does not start with a
closing mark. -/
theorem value_ne_close {fuel depth : Nat} {c : Char} {cs : List Char} {x : Json × List Char}
    (hv : value d fuel depth (c :: cs) = .ok x) : c ≠ ']' ∧ c ≠ '\x7d' := by
  have hnot : ∀ m ∈ [']', '\x7d'], c ≠ m := by
    rintro m hm rfl
    cases fuel with
    | zero => cases hv
    | succ fuel =>
      have hscalar : value d (fuel + 1) depth (c :: cs) = scalar d (c :: cs) := by
        simp only [List.mem_cons, List.not_mem_nil, or_false] at hm
        rcases hm with rfl | rfl <;> rfl
      rw [hscalar] at hv
      obtain ⟨b, bs, hb, hstart⟩ := exists_head_of_scalar hv
      cases hb
      revert hstart
      simp only [List.mem_cons, List.not_mem_nil, or_false] at hm
      rcases hm with rfl | rfl <;> decide
  exact ⟨hnot _ (by simp), hnot _ (by simp)⟩

/-- **A word or a number that is read by itself is read back.** -/
theorem readsBack_of_scalar {v : Json} (h : ∀ level depth, Fits d depth v →
    ∃ r, scalar d (skip (write l level v)) = .ok (v, r) ∧ skip r = []) : ReadsBack d l v := by
  intro depth level fuel rest hfits hrest hfuel
  obtain ⟨r, hread, hr⟩ := h level depth hfits
  obtain ⟨c, cs, hcs, hc⟩ := exists_head_of_scalar hread
  have hne : skip (write l level v) ≠ [] := by rw [hcs]; simp
  have hlength : 0 < (write l level v).length := by
    rw [List.length_pos_iff]
    rintro hnil
    exact hne (by rw [hnil]; rfl)
  obtain ⟨fuel, rfl⟩ : ∃ f, fuel = f + 1 := ⟨fuel - 1, by omega⟩
  refine ⟨r ++ rest, ?_, skip_append_of_skip hr rest⟩
  rw [skip_append hne, hcs, List.cons_append, value_of_startsScalar hc, ← List.cons_append, ← hcs]
  exact scalar_append hrest hread

/-- A word or a number that is read as it stands. -/
theorem readsBack_of_scalar_eq {v : Json} (h : ∀ level depth, Fits d depth v →
    scalar d (write l level v) = .ok (v, [])) : ReadsBack d l v := by
  refine readsBack_of_scalar fun level depth hfits => ⟨[], ?_, rfl⟩
  have hread := h level depth hfits
  obtain ⟨c, cs, hcs, hc⟩ := exists_head_of_scalar hread
  have hspace : isSpace c = false := by
    have hplain := startsScalar_plain hc
    simp only [List.mem_cons, not_or] at hplain
    obtain ⟨hblank, htab, hfeed, hreturn, -⟩ := hplain
    simp [isSpace, hblank, htab, hfeed, hreturn]
  rw [hcs, skip_cons hspace, ← hcs]
  exact hread

theorem readsBack_word {w : String × Json} (hw : w ∈ words)
    (htext : ∀ level, write l level w.2 = w.1.toList) : ReadsBack d l w.2 := by
  refine readsBack_of_scalar_eq fun level depth _ => ?_
  rw [htext, ← List.append_nil w.1.toList]
  exact scalar_word hw []

theorem readsBack_string (s : String) : ReadsBack d l (.string s) := by
  intro depth level fuel rest _ _ hfuel
  obtain ⟨body, htext, hbody⟩ := writeString_append (d := d) l.asciiOnly s rest
  obtain ⟨fuel, rfl⟩ : ∃ f, fuel = f + 1 := ⟨fuel - 1, by
    simp only [write, writeString, List.length_append, List.length_cons] at hfuel
    omega⟩
  refine ⟨rest, ?_, rfl⟩
  rw [write, htext, skip_cons (by decide)]
  simp only [value, hbody, String.ofList_toList]

/-! ## 4. Floating-point numbers -/

theorem items_array {fuel depth : Nat} {done : List Json} {s r : List Char} {v : Json}
    (h : items d fuel depth done s = .ok (v, r)) : ∃ vs, v = .array vs := by
  induction fuel generalizing done s with
  | zero => cases h
  | succ fuel ih =>
    rw [items] at h
    split at h
    · cases h
    · split at h
      · exact ih h
      · cases h
        exact ⟨_, rfl⟩
      · cases h

theorem members_object {fuel depth : Nat} {done : Members} {s r : List Char} {v : Json}
    (h : members d fuel depth done s = .ok (v, r)) : ∃ ms, v = .object ms := by
  induction fuel generalizing done s with
  | zero => cases h
  | succ fuel ih =>
    rw [members.eq_def] at h
    dsimp only at h
    split at h
    · split at h
      · cases h
      · split at h
        · split at h
          · cases h
          · split at h
            · exact ih h
            · cases h
              exact ⟨_, rfl⟩
            · cases h
        · cases h
    · cases h

/-- **What is read as a number is read as a scalar.** -/
theorem scalar_of_value {fuel depth : Nat} {s r : List Char} {x : Number.Binary64}
    (h : value d fuel depth s = .ok (.number x, r)) : scalar d s = .ok (.number x, r) := by
  cases fuel with
  | zero => cases h
  | succ fuel =>
    rcases opening_cases s with ⟨cs, rfl⟩ | ⟨cs, rfl⟩ | ⟨cs, rfl⟩ | hhead
    · rw [value_string] at h
      cases hbody : stringBody d cs with
      | error e =>
        rw [hbody] at h
        cases h
      | ok p =>
        rw [hbody] at h
        cases h
    · rw [value_array] at h
      rcases of_nested h with ⟨-, hv, -⟩ | hitems
      · cases hv
      · obtain ⟨vs, hvs⟩ := items_array hitems
        cases hvs
    · rw [value_object] at h
      rcases of_nested h with ⟨-, hv, -⟩ | hmembers
      · cases hv
      · obtain ⟨ms, hms⟩ := members_object hmembers
        cases hms
    · rwa [value_scalar fuel depth hhead] at h

theorem readsBack_number (x : Number.Binary64) : ReadsBack d l (.number x) := by
  refine readsBack_of_scalar fun level depth hfits => ?_
  rw [Fits, readChars] at hfits
  split at hfits
  · cases hfits
  · rename_i v r hvalue
    split at hfits
    · rename_i hr
      cases hfits
      exact ⟨r, scalar_of_value hvalue, hr⟩
    · cases hfits

theorem readsBack_int (n : Int) : ReadsBack d l (.int n) := by
  refine readsBack_of_scalar_eq fun level depth hfits => ?_
  rw [Fits] at hfits
  exact scalar_int hfits

/-! ## 5. Arrays -/

/-- Items do not start with the closing bracket. -/
theorem items_ne_close {fuel depth : Nat} {done : List Json} {c : Char} {cs : List Char}
    {x : Json × List Char} (h : items d fuel depth done (c :: cs) = .ok x) : c ≠ ']' := by
  cases fuel with
  | zero => cases h
  | succ fuel =>
    rw [items] at h
    split at h
    · cases h
    · rename_i hv
      exact (value_ne_close hv).1

/-- **Items whose values are read back are read back**, up to the closing bracket. -/
theorem items_write {depth : Nat} (level close : Nat) (rest : List Char) {v : Json} {vs : List Json}
    (hread : ∀ w ∈ v :: vs, ReadsBack d l w) (hfits : ItemsFit d depth (v :: vs))
    (done : List Json) (fuel : Nat)
    (hfuel : 2 * ((write l level v).length + (writeItems l level vs).length) + 2 ≤ fuel) :
    items d fuel depth done
        (skip (write l level v ++ (writeItems l level vs ++ (l.break close ++ ']' :: rest)))) =
      .ok (.array (done.reverse ++ v :: vs), rest) := by
  induction vs generalizing v done fuel with
  | nil =>
    obtain ⟨fuel, rfl⟩ : ∃ f, fuel = f + 1 := ⟨fuel - 1, by omega⟩
    have hdelimited : Delimited (l.break close ++ ']' :: rest) :=
      delimited_gap (skip_break l close) (by decide) rest
    obtain ⟨r, hvalue, hr⟩ := hread v List.mem_cons_self depth level fuel _ hfits.1 hdelimited
      (by omega)
    rw [skip_append_of_skip (skip_break l close), skip_cons (by decide)] at hr
    simp only [writeItems, List.nil_append, items, hvalue, hr]
    simp
  | cons w ws ih =>
    obtain ⟨gap, hseparator, hgap⟩ := exists_separator l level
    simp only [writeItems, hseparator, List.cons_append, List.append_assoc, List.length_cons,
      List.length_append] at hfuel ⊢
    obtain ⟨fuel, rfl⟩ : ∃ f, fuel = f + 1 := ⟨fuel - 1, by omega⟩
    have hdelimited : ∀ t, Delimited (',' :: t) := fun t => delimited_cons.mpr (by decide)
    obtain ⟨r, hvalue, hr⟩ := hread v List.mem_cons_self depth level fuel _ hfits.1
      (hdelimited _) (by omega)
    rw [skip_cons (by decide : isSpace ',' = false)] at hr
    have htail := ih (fun x hx => hread x (List.mem_cons_of_mem _ hx)) hfits.2 (v :: done) fuel
      (by omega)
    rw [items, hvalue]
    simp only [hr, skip_append_of_skip hgap, htail]
    simp

theorem readsBack_array {vs : List Json} (hread : ∀ w ∈ vs, ReadsBack d l w) :
    ReadsBack d l (.array vs) := by
  intro depth level fuel rest hfits _ hfuel
  refine ⟨rest, ?_, rfl⟩
  cases vs with
  | nil =>
    obtain ⟨fuel, rfl⟩ : ∃ f, fuel = f + 1 := ⟨fuel - 1, by
      simp only [write, List.length_cons] at hfuel
      omega⟩
    exact (value_array fuel depth _).trans (nested_empty (hfits.1.imp_left And.left) rfl)
  | cons v vs =>
    have hallows : d.allows depth = true := hfits.1.resolve_left (by simp)
    simp only [write, List.cons_append, List.append_assoc, List.nil_append, List.length_cons,
      List.length_append] at hfuel ⊢
    obtain ⟨fuel, rfl⟩ : ∃ f, fuel = f + 1 := ⟨fuel - 1, by omega⟩
    have hitems := items_write (level + 1) level rest hread hfits.2 [] fuel (by omega)
    have hgap := skip_append_of_skip (skip_break l (level + 1))
    rw [skip_cons (by decide), value_array]
    refine nested_of_inner hallows (fun hclose => ?_) (by rw [hgap]; exact hitems)
    obtain ⟨t, ht⟩ := List.head?_eq_some_iff.mp hclose
    rw [hgap] at ht
    rw [ht] at hitems
    exact items_ne_close hitems rfl

/-! ## 6. Objects -/

/-- A new key is added at the end. -/
theorem put_of_not_mem {α : Type} {key : String} {t : Table α} (h : key ∉ Table.keys t)
    (value : α) : Table.put key value t = t ++ [(key, value)] := by
  induction t with
  | nil => rfl
  | cons e t ih =>
    obtain ⟨k, v⟩ := e
    simp only [Table.keys, List.map_cons, List.mem_cons, not_or] at h
    have hk : (k == key) = false := beq_eq_false_iff_ne.mpr (Ne.symm h.1)
    simp only [Table.put, hk, Bool.false_eq_true, if_false, List.cons_append]
    rw [ih h.2]

/-- A key that is not there yet. -/
theorem not_mem_done {α : Type} {done ms : Table α} {k : String} {v : α}
    (h : (Table.keys (done ++ (k, v) :: ms)).Nodup) : k ∉ Table.keys done := by
  rw [Table.keys, List.map_append, List.nodup_append] at h
  exact fun hk => h.2.2 k hk k (by simp) rfl

/-- One member is read, and then what is behind it decides. -/
theorem members_member {fuel depth level : Nat} {done : Members} {k : String} {v : Json}
    {tail r : List Char}
    (hvalue : value d fuel depth (skip (write l level v ++ tail)) = .ok (v, r)) :
    members d (fuel + 1) depth done
        (skip (writeString l.asciiOnly k ++ ':' :: ' ' :: (write l level v ++ tail))) =
      match skip r with
      | ',' :: rest => members d fuel depth (Table.put k v done) (skip rest)
      | '\x7d' :: rest => .ok (.object (Table.put k v done), rest)
      | _ => .error .malformed := by
  obtain ⟨body, htext, hbody⟩ := writeString_append (d := d) l.asciiOnly k
    (':' :: ' ' :: (write l level v ++ tail))
  have hcolon : ∀ s, skip (':' :: s) = ':' :: s := fun s => skip_cons (by decide) s
  have hspace : ∀ s, skip (' ' :: s) = skip s := fun s => rfl
  rw [htext, skip_cons (by decide)]
  have hstep := members.eq_def d (fuel + 1) depth done ('"' :: body)
  simp only [hbody, hcolon, hspace, hvalue, String.ofList_toList] at hstep
  exact hstep

/-- **Members whose values are read back are read back**, up to the closing brace. -/
theorem members_write {depth : Nat} (level close : Nat) (rest : List Char) {k : String} {v : Json}
    {ms : Members}
    (hread : ∀ e ∈ (k, v) :: ms, ReadsBack d l e.2) (hfits : MembersFit d depth ((k, v) :: ms))
    (done : Members) (hkeys : (Table.keys (done ++ (k, v) :: ms)).Nodup) (fuel : Nat)
    (hfuel : 2 * ((write l level v).length + (writeMembers l level ms).length) + 2 ≤ fuel) :
    members d fuel depth done (skip (writeString l.asciiOnly k ++ ':' :: ' ' ::
        (write l level v ++ (writeMembers l level ms ++ (l.break close ++ '\x7d' :: rest))))) =
      .ok (.object (done ++ (k, v) :: ms), rest) := by
  induction ms generalizing k v done fuel with
  | nil =>
    obtain ⟨fuel, rfl⟩ : ∃ f, fuel = f + 1 := ⟨fuel - 1, by omega⟩
    have hdelimited : Delimited (l.break close ++ '\x7d' :: rest) :=
      delimited_gap (skip_break l close) (by decide) rest
    obtain ⟨r, hvalue, hr⟩ := hread (k, v) List.mem_cons_self depth level fuel _ hfits.1 hdelimited
      (by dsimp only; omega)
    rw [skip_append_of_skip (skip_break l close), skip_cons (by decide)] at hr
    rw [writeMembers, List.nil_append, members_member hvalue, hr]
    simp only [put_of_not_mem (not_mem_done hkeys)]
  | cons e ms ih =>
    obtain ⟨k', v'⟩ := e
    obtain ⟨gap, hseparator, hgap⟩ := exists_separator l level
    simp only [writeMembers, hseparator, List.cons_append, List.append_assoc, List.length_cons,
      List.length_append] at hfuel ⊢
    obtain ⟨fuel, rfl⟩ : ∃ f, fuel = f + 1 := ⟨fuel - 1, by omega⟩
    have hdelimited : ∀ t, Delimited (',' :: t) := fun t => delimited_cons.mpr (by decide)
    obtain ⟨r, hvalue, hr⟩ := hread (k, v) List.mem_cons_self depth level fuel _ hfits.1
      (hdelimited _) (by dsimp only; omega)
    rw [skip_cons (by decide : isSpace ',' = false)] at hr
    have hkeys' : (Table.keys (done ++ [(k, v)] ++ (k', v') :: ms)).Nodup := by
      rwa [List.append_assoc]
    have htail := ih (fun x hx => hread x (List.mem_cons_of_mem _ hx)) hfits.2 (done ++ [(k, v)])
      hkeys' fuel (by omega)
    rw [members_member hvalue, hr]
    simp only [skip_append_of_skip hgap, put_of_not_mem (not_mem_done hkeys), htail,
      List.append_assoc, List.singleton_append]

theorem readsBack_object {ms : Members} (hread : ∀ e ∈ ms, ReadsBack d l e.2) :
    ReadsBack d l (.object ms) := by
  intro depth level fuel rest hfits _ hfuel
  refine ⟨rest, ?_, rfl⟩
  cases ms with
  | nil =>
    obtain ⟨fuel, rfl⟩ : ∃ f, fuel = f + 1 := ⟨fuel - 1, by
      simp only [write, List.length_cons] at hfuel
      omega⟩
    exact (value_object fuel depth _).trans (nested_empty (hfits.1.imp_left And.left) rfl)
  | cons e ms =>
    obtain ⟨k, v⟩ := e
    have hallows : d.allows depth = true := hfits.1.resolve_left (by simp)
    simp only [write, List.cons_append, List.append_assoc, List.nil_append, List.length_cons,
      List.length_append] at hfuel ⊢
    obtain ⟨fuel, rfl⟩ : ∃ f, fuel = f + 1 := ⟨fuel - 1, by omega⟩
    have hmembers := members_write (level + 1) level rest hread hfits.2.2 [] hfits.2.1 fuel
      (by omega)
    have hgap := skip_append_of_skip (skip_break l (level + 1))
    rw [skip_cons (by decide), value_object]
    refine nested_of_inner hallows (fun hclose => ?_) (by rw [hgap]; exact hmembers)
    obtain ⟨t, ht⟩ := List.head?_eq_some_iff.mp hclose
    rw [hgap] at ht
    rw [ht] at hmembers
    cases fuel <;> cases hmembers

/-! ## 7. Documents -/

mutual

/-- **Every value is read back** that can be. -/
theorem readsBack : ∀ v : Json, ReadsBack d l v
  | .null => readsBack_word (w := ("null", .null)) (by simp [words]) fun _ => rfl
  | .bool true => readsBack_word (w := ("true", .bool true)) (by simp [words]) fun _ => rfl
  | .bool false => readsBack_word (w := ("false", .bool false)) (by simp [words]) fun _ => rfl
  | .int n => readsBack_int n
  | .number x => readsBack_number x
  | .string s => readsBack_string s
  | .array vs => readsBack_array (readsBack_items vs)
  | .object ms => readsBack_object (readsBack_members ms)

theorem readsBack_items : ∀ vs : List Json, ∀ w ∈ vs, ReadsBack d l w
  | [] => by simp
  | v :: vs => List.forall_mem_cons.mpr ⟨readsBack v, readsBack_items vs⟩

theorem readsBack_members : ∀ ms : List (String × Json), ∀ e ∈ ms, ReadsBack d l e.2
  | [] => by simp
  | (k, v) :: ms => List.forall_mem_cons.mpr ⟨readsBack v, readsBack_members ms⟩

end

/-- **A document is read back from its text**, with any white space behind it. -/
theorem readChars_write {v : Json} (hfits : Fits d 0 v) (level : Nat) {tail : List Char}
    (htail : skip tail = []) : readChars d (write l level v ++ tail) = .ok v := by
  obtain ⟨r, hvalue, hr⟩ := readsBack (d := d) (l := l) v 0 level
    (2 * (write l level v ++ tail).length + 2) tail hfits (delimited_of_skip htail)
    (by rw [List.length_append]; omega)
  rw [readChars, hvalue]
  dsimp only
  rw [hr, htail, if_pos rfl]

end SourceCheck.Json

import SourceCheck.Proofs.Json.Extent

/-!
# White space around line feeds

Between its tokens a document may hold any white space, and inside a string no line feed can stand.
So a document stays what it is, and a text that is none fails as before, when white space is put in
front of line feeds or behind the whole text.

* `Respaced`: a text, and the same with such white space.
* `Alike`: two steps with the same outcome and rests that differ in such white space.
* `Agrees`: two readers that are alike on texts that differ in it, with one closure lemma for each
  shape of documents.
* `readChars_respaced`: such white space does not matter.
-/

namespace SourceCheck.Json

variable {d : Dialect} {s t r u : List Char} {c : Char}

/-! ## 1. Texts that differ in white space -/

/-- **A text, and the same with white space put in front of line feeds and behind the end.** -/
inductive Respaced : List Char → List Char → Prop
  | ending {gap : List Char} (hgap : skip gap = []) : Respaced [] gap
  | keep (c : Char) {s t : List Char} (h : Respaced s t) : Respaced (c :: s) (c :: t)
  | feed {gap s t : List Char} (hgap : skip gap = []) (h : Respaced s t) :
      Respaced ('\n' :: s) (gap ++ '\n' :: t)

/-- A text that goes on with white space, if with anything. -/
def SpaceLed (s : List Char) : Prop := ∀ c ∈ s.head?, isSpace c = true

theorem spaceLed_of_skip (h : skip s = []) : SpaceLed s :=
  fun _ hc => List.dropWhile_eq_nil_iff.mp h _ (List.mem_of_head? hc)

theorem SpaceLed.delimited (h : SpaceLed s) : Delimited s := by
  intro c hc
  have hspace := h c hc
  simp only [isSpace, Bool.or_eq_true, beq_iff_eq] at hspace
  rcases hspace with ((rfl | rfl) | rfl) | rfl <;> decide

theorem skip_cons_of_space (h : isSpace c = true) (s : List Char) : skip (c :: s) = skip s :=
  List.dropWhile_cons_of_pos h

namespace Respaced

theorem refl (s : List Char) : Respaced s s := by
  induction s with
  | nil => exact .ending rfl
  | cons c s ih => exact .keep c ih

/-- What is in front of a difference is in both texts. -/
theorem append_left (u : List Char) (h : Respaced s t) : Respaced (u ++ s) (u ++ t) := by
  induction u with
  | nil => exact h
  | cons c u ih => exact .keep c ih

/-- **Both texts start alike**, or with white space, if with anything. -/
theorem head_cases (h : Respaced s t) :
    (∃ c s' t', s = c :: s' ∧ t = c :: t' ∧ Respaced s' t') ∨ SpaceLed s ∧ SpaceLed t := by
  cases h with
  | ending hgap => exact .inr ⟨nofun, spaceLed_of_skip hgap⟩
  | keep c h => exact .inl ⟨c, _, _, rfl, rfl, h⟩
  | @feed gap s t hgap h =>
    cases gap with
    | nil => exact .inl ⟨'\n', s, t, rfl, rfl, h⟩
    | cons x gap =>
      have hled := spaceLed_of_skip hgap
      exact .inr ⟨fun c hc => Option.some.inj hc ▸ rfl, fun c hc => hled c hc⟩

/-- A mark of the first text is in the second as well. -/
theorem cons_left (hc : isSpace c = false) (h : Respaced (c :: s) t) :
    ∃ t', t = c :: t' ∧ Respaced s t' := by
  rcases h.head_cases with ⟨c', s', t', hs, rfl, h'⟩ | ⟨hs, -⟩
  · obtain ⟨rfl, rfl⟩ := List.cons.inj hs
    exact ⟨t', rfl, h'⟩
  · rw [hs c rfl] at hc
    cases hc

/-- A mark of the second text is in the first as well. -/
theorem cons_right (hc : isSpace c = false) (h : Respaced s (c :: t)) :
    ∃ s', s = c :: s' ∧ Respaced s' t := by
  rcases h.head_cases with ⟨c', s', t', rfl, ht, h'⟩ | ⟨-, ht⟩
  · obtain ⟨rfl, rfl⟩ := List.cons.inj ht
    exact ⟨s', rfl, h'⟩
  · rw [ht c rfl] at hc
    cases hc

/-- **Behind white space both texts have ended, or go on with the same mark.** -/
theorem skip_cases (h : Respaced s t) :
    skip s = [] ∧ skip t = [] ∨
      ∃ c s' t', skip s = c :: s' ∧ skip t = c :: t' ∧ Respaced s' t' := by
  induction h with
  | ending hgap => exact .inl ⟨rfl, hgap⟩
  | keep c h ih =>
    cases hc : isSpace c with
    | true =>
      rw [skip_cons_of_space hc, skip_cons_of_space hc]
      exact ih
    | false =>
      rw [skip_cons hc, skip_cons hc]
      exact .inr ⟨c, _, _, rfl, rfl, h⟩
  | feed hgap h ih =>
    rw [skip_append_of_skip hgap, skip_cons_of_space rfl, skip_cons_of_space rfl]
    exact ih

protected theorem skip (h : Respaced s t) : Respaced (skip s) (skip t) := by
  rcases h.skip_cases with ⟨hs, ht⟩ | ⟨c, s', t', hs, ht, h'⟩
  · rw [hs, ht]
    exact .ending rfl
  · rw [hs, ht]
    exact .keep c h'

theorem skip_eq_nil (h : Respaced s t) : skip s = [] ↔ skip t = [] := by
  rcases h.skip_cases with ⟨hs, ht⟩ | ⟨c, s', t', hs, ht, -⟩
  · rw [hs, ht]
  · simp [hs, ht]

/-- A front of the first text without line feeds is one of the second. -/
theorem of_append (hu : '\n' ∉ u) (h : Respaced (u ++ s) t) :
    ∃ t', t = u ++ t' ∧ Respaced s t' := by
  induction u generalizing t with
  | nil => exact ⟨t, rfl, h⟩
  | cons c u ih =>
    obtain ⟨hc, hu⟩ := List.ne_and_not_mem_of_not_mem_cons hu
    cases h with
    | keep _ h =>
      obtain ⟨t', rfl, h'⟩ := ih hu h
      exact ⟨t', rfl, h'⟩
    | feed => exact absurd rfl hc

/-- A front of the second text without line feeds is one of the first, if a mark follows it. -/
theorem of_append_mark (hu : '\n' ∉ u) (hc : isSpace c = false) (h : Respaced s (u ++ c :: t)) :
    ∃ s', s = u ++ c :: s' ∧ Respaced s' t := by
  induction u generalizing s with
  | nil =>
    obtain ⟨s', rfl, h'⟩ := h.cons_right hc
    exact ⟨s', rfl, h'⟩
  | cons x u ih =>
    have hmark : ∀ gap, skip gap = [] → c ∉ gap := by
      intro gap hgap hmem
      rw [List.dropWhile_eq_nil_iff.mp hgap c hmem] at hc
      cases hc
    generalize hy : (x :: u) ++ c :: t = y at h
    cases h with
    | ending hgap => exact absurd (hy ▸ List.mem_append_right _ List.mem_cons_self) (hmark _ hgap)
    | keep _ h =>
      obtain ⟨rfl, rfl⟩ := List.cons.inj hy
      obtain ⟨s', rfl, h'⟩ := ih (fun hmem => hu (List.mem_cons_of_mem x hmem)) h
      exact ⟨s', rfl, h'⟩
    | @feed gap s t' hgap h =>
      -- the line feed is neither in the front nor, with the mark before it, in the white space
      rcases List.append_eq_append_iff.mp hy with ⟨a, ha, hrest⟩ | ⟨a, ha, hrest⟩
      · cases a with
        | nil =>
          obtain ⟨rfl, -⟩ := List.cons.inj hrest
          cases hc
        | cons y a =>
          obtain ⟨rfl, -⟩ := List.cons.inj hrest
          exact absurd (ha ▸ List.mem_append_right _ List.mem_cons_self) (hmark gap hgap)
      · cases a with
        | nil =>
          obtain ⟨rfl, -⟩ := List.cons.inj hrest
          cases hc
        | cons y a =>
          obtain ⟨rfl, -⟩ := List.cons.inj hrest
          exact absurd (ha ▸ List.mem_append_right _ List.mem_cons_self) hu

/-- **Both texts are alike up to white space**, or up to the end. -/
theorem exists_front (h : Respaced s t) :
    ∃ u s' t', s = u ++ s' ∧ t = u ++ t' ∧ SpaceLed s' ∧ SpaceLed t' ∧ Respaced s' t' := by
  induction h with
  | ending hgap => exact ⟨[], [], _, rfl, rfl, nofun, spaceLed_of_skip hgap, .ending hgap⟩
  | keep c h ih =>
    obtain ⟨u, s', t', rfl, rfl, hs, ht, h'⟩ := ih
    exact ⟨c :: u, s', t', rfl, rfl, hs, ht, h'⟩
  | @feed gap s t hgap h =>
    refine ⟨[], '\n' :: s, gap ++ '\n' :: t, rfl, rfl, ?_, ?_, .feed hgap h⟩
    · exact fun c hc => Option.some.inj hc ▸ rfl
    · cases gap with
      | nil => exact fun c hc => Option.some.inj hc ▸ rfl
      | cons x gap => exact fun c hc => spaceLed_of_skip hgap c hc

end Respaced

/-! ## 2. Steps with the same outcome -/

/-- **Two steps with the same outcome**, and with rests that differ in white space. -/
inductive Alike {α : Type} : Step α → Step α → Prop
  | ok {a : α} {r r' : List Char} (h : Respaced r r') : Alike (.ok (a, r)) (.ok (a, r'))
  | error (e : ReadError) : Alike (.error e) (.error e)

/-- A string holds no line feed. -/
theorem Quotable.notMem_feed (h : Quotable u) : '\n' ∉ u :=
  fun hmem => absurd (h.le_toNat _ hmem) (by decide)

theorem alike_stringUnits (h : Respaced s t) : Alike (stringUnits s) (stringUnits t) := by
  cases hs : stringUnits s with
  | ok p =>
    obtain ⟨us, r⟩ := p
    obtain ⟨b, hb, rfl, hread⟩ := exists_quotable_units hs
    obtain ⟨t', rfl, h'⟩ := h.of_append hb.notMem_feed
    obtain ⟨r', rfl, hr⟩ := h'.cons_left (by decide)
    rw [hread r']
    exact .ok hr
  | error e =>
    cases ht : stringUnits t with
    | ok p =>
      obtain ⟨us, r⟩ := p
      obtain ⟨b, hb, rfl, hread⟩ := exists_quotable_units ht
      obtain ⟨s', rfl, -⟩ := h.of_append_mark hb.notMem_feed (by decide)
      rw [hread s'] at hs
      cases hs
    | error e' =>
      rw [stringUnits_error hs, stringUnits_error ht]
      exact .error _

theorem alike_stringBody (h : Respaced s t) : Alike (stringBody d s) (stringBody d t) := by
  have hunits := alike_stringUnits h
  rw [stringBody, stringBody]
  generalize stringUnits s = x at hunits
  generalize stringUnits t = y at hunits
  cases hunits with
  | error e => exact .error e
  | @ok us r r' hr =>
    dsimp only
    cases d.textOf us with
    | error e => exact .error e
    | ok cs => exact .ok hr

/-- A step of which more is left. -/
def withRest (rest : List Char) : Step Json → Step Json
  | .ok (v, r) => .ok (v, r ++ rest)
  | .error e => .error e

theorem Alike.withRest {r' : List Char} (h : Respaced r r') (st : Step Json) :
    Alike (withRest r st) (withRest r' st) := by
  cases st with
  | ok p => exact .ok (h.append_left p.2)
  | error e => exact .error e

theorem wholePart_eq_none : wholePart s = none ↔ ∀ c ∈ s.head?, c.isDigit = false := by
  constructor
  · intro h c hc
    obtain ⟨cs, rfl⟩ := List.head?_eq_some_iff.mp hc
    by_cases hzero : c = '0'
    · subst hzero
      cases h
    · rw [wholePart_of_ne_zero hzero] at h
      split at h
      · rename_i hnil
        exact Bool.eq_false_iff.mpr fun hdigit => by simp [hdigit] at hnil
      · cases h
  · intro h
    cases hw : wholePart s with
    | none => rfl
    | some p =>
      obtain ⟨c, cs, rfl, hc⟩ := exists_digit_of_wholePart hw
      rw [h c rfl] at hc
      cases hc

/-- What starts no number does not start one in front of white space either. -/
theorem wholePart_append_none (h : SpaceLed r) (hs : wholePart s = none) :
    wholePart (s ++ r) = none := by
  rw [wholePart_eq_none] at hs ⊢
  cases s with
  | nil =>
    intro c hc
    have hplain := h.delimited c hc
    rw [continuesNumber, Bool.or_eq_false_iff] at hplain
    exact hplain.1
  | cons x s => exact hs

theorem numberBody_space (h : SpaceLed r) (negative : Bool) (s : List Char) :
    numberBody d negative (s ++ r) = withRest r (numberBody d negative s) := by
  cases hw : wholePart s with
  | none => simp only [numberBody, hw, wholePart_append_none h hw, withRest]
  | some p =>
    obtain ⟨whole, rest⟩ := p
    simp only [numberBody, hw, wholePart_append h.delimited hw, fractionPart_append h.delimited,
      exponentPart_append h.delimited]
    split
    · rfl
    · split <;> rfl

theorem word?_append_none (h : SpaceLed r) (hs : word? s = none) : word? (s ++ r) = none := by
  cases hword : word? (s ++ r) with
  | none => rfl
  | some p =>
    obtain ⟨w, hw, heq, -⟩ := exists_word hword
    have hall : ∀ w ∈ words, (w.1.toList.all fun c => !isSpace c) = true := by decide
    have hnot : ∀ rest, s ≠ w.1.toList ++ rest := by
      rintro rest rfl
      rw [word?_append hw] at hs
      cases hs
    rcases List.append_eq_append_iff.mp heq with ⟨a, ha, hr⟩ | ⟨a, ha, -⟩
    · cases a with
      | nil => exact absurd (by rw [ha, List.append_nil, List.append_nil]) (hnot [])
      | cons c a =>
        have hspace := h c (by rw [hr]; rfl)
        have hmem : c ∈ w.1.toList := ha ▸ List.mem_append_right s List.mem_cons_self
        have hchar := List.all_eq_true.mp (hall w hw) c hmem
        rw [hspace] at hchar
        cases hchar
    · exact absurd ha (hnot a)

/-- What is no word is read as a number with its sign. -/
theorem scalar_of_word?_none (h : word? s = none) :
    scalar d s =
      if s.head? = some '-' then numberBody d true s.tail else numberBody d false s := by
  rw [scalar_eq, h]
  rcases s with _ | ⟨c, s⟩
  · rfl
  · by_cases hminus : c = '-' <;> simp [hminus]

/-- **A word or a number in front of white space** is what it is by itself. -/
theorem scalar_space (h : SpaceLed r) (s : List Char) :
    scalar d (s ++ r) = withRest r (scalar d s) := by
  cases hs : word? s with
  | some p =>
    have hscalar : scalar d s = .ok p := by rw [scalar_eq, hs]
    rw [hscalar]
    exact scalar_append h.delimited hscalar
  | none =>
    rw [scalar_of_word?_none hs, scalar_of_word?_none (word?_append_none h hs)]
    cases s with
    | nil =>
      have hhead : r.head? ≠ some '-' := fun hminus => absurd (h _ hminus) (by decide)
      rw [List.nil_append, if_neg hhead, List.head?_nil, if_neg (by simp)]
      exact numberBody_space h false []
    | cons c s =>
      rw [List.cons_append, List.head?_cons, List.head?_cons]
      split
      · exact numberBody_space h true s
      · exact numberBody_space h false (c :: s)

theorem alike_scalar (h : Respaced s t) : Alike (scalar d s) (scalar d t) := by
  obtain ⟨u, s', t', rfl, rfl, hs, ht, h'⟩ := h.exists_front
  rw [scalar_space hs, scalar_space ht]
  exact .withRest h' _

/-! ## 3. Readers that agree -/

/-- **Two readers that are alike on texts that differ in white space**, and are short for the fuel
that each has. -/
def Agrees {α : Type} (fuel fuel' : Nat) (f g : List Char → Step α) : Prop :=
  ∀ s t, Respaced s t → 2 * s.length < fuel → 2 * t.length < fuel' → Alike (f s) (g t)

theorem length_skip_le (s : List Char) : (skip s).length ≤ s.length := List.length_dropWhile_le ..

theorem Takes.length_le {α : Type} {f : List Char → Step α} (hf : Takes f) {a : α}
    (h : f s = .ok (a, r)) : r.length ≤ s.length := by
  obtain ⟨b, rfl⟩ := hf s a r h
  rw [List.length_append]
  exact Nat.le_add_left ..

section Agrees

variable {fuel fuel' : Nat} {close mark : Char} {more more' : List Char → Step Json}

theorem agrees_stringBody (fuel fuel' : Nat) :
    Agrees fuel fuel' (stringBody d) (stringBody d) :=
  fun _ _ h _ _ => alike_stringBody h

/-- A reader that takes nothing. -/
theorem agrees_ok {α β : Type} (g : α → β) (a : α) :
    Agrees fuel fuel' (fun rest => .ok (g a, rest)) fun rest => .ok (g a, rest) :=
  fun _ _ hrest _ _ => .ok hrest

theorem Agrees.andThen {α : Type} {f g : List Char → Step α}
    {next next' : α → List Char → Step Json} (hfg : Agrees fuel fuel' f g) (hf : Takes f)
    (hg : Takes g) (hnext : ∀ a, Agrees fuel fuel' (next a) (next' a)) :
    Agrees fuel fuel' (fun s => andThen (f s) next) fun s => andThen (g s) next' := by
  intro s t h hs ht
  have halike := hfg s t h hs ht
  dsimp only
  generalize hfs : f s = x at halike
  generalize hgt : g t = y at halike
  cases halike with
  | error e => exact .error e
  | @ok a r r' hrest =>
    have hr := hf.length_le hfs
    have hr' := hg.length_le hgt
    exact hnext a r r' hrest (by omega) (by omega)

/-- Behind a mark there is less to read. -/
theorem Agrees.behind_mark (hmore : Agrees fuel fuel' more more') (h : Respaced s t)
    (hs : 2 * s.length < fuel + 2) (ht : 2 * t.length < fuel' + 2)
    (hne : skip s ≠ []) : Alike (more (skip (skip s).tail)) (more' (skip (skip t).tail)) := by
  rcases h.skip_cases with ⟨hnil, -⟩ | ⟨c, s', t', hs', ht', h'⟩
  · exact absurd hnil hne
  · have hlength := length_skip_le s
    have hlength' := length_skip_le t
    have hrest := length_skip_le s'
    have hrest' := length_skip_le t'
    rw [hs', List.length_cons] at hlength
    rw [ht', List.length_cons] at hlength'
    rw [hs', ht', List.tail_cons, List.tail_cons]
    exact hmore _ _ h'.skip (by omega) (by omega)

theorem Respaced.head?_skip (h : Respaced s t) : (skip t).head? = (skip s).head? := by
  rcases h.skip_cases with ⟨hs, ht⟩ | ⟨c, s', t', hs, ht, -⟩
  · rw [hs, ht]
  · rw [hs, ht, List.head?_cons, List.head?_cons]

theorem ne_nil_of_head? (h : s.head? = some c) : s ≠ [] := by
  rintro rfl
  cases h

theorem Respaced.tail_skip (h : Respaced s t) (hs : (Json.skip s).head? = some c) :
    Respaced (Json.skip s).tail (Json.skip t).tail := by
  rcases h.skip_cases with ⟨hnil, -⟩ | ⟨c', s', t', hs', ht', h'⟩
  · exact absurd hnil (ne_nil_of_head? hs)
  · rw [hs', ht']
    exact h'

theorem Agrees.behind (hmore : Agrees fuel fuel' more more') :
    Agrees (fuel + 2) (fuel' + 2) (behind mark more) (behind mark more') := by
  intro s t h hs ht
  rw [Json.behind, Json.behind, h.head?_skip]
  split
  · rename_i hmark
    exact hmore.behind_mark h hs ht (ne_nil_of_head? hmark)
  · exact .error _

theorem Agrees.continued {whole : Json} (hmore : Agrees fuel fuel' more more') :
    Agrees (fuel + 2) (fuel' + 2) (continued close whole more) (continued close whole more') := by
  intro s t h hs ht
  rw [Json.continued, Json.continued, h.head?_skip]
  split
  · rename_i hcomma
    exact hmore.behind_mark h hs ht (ne_nil_of_head? hcomma)
  · split
    · rename_i hclose
      exact .ok (h.tail_skip hclose)
    · exact .error _

/-- Steps that are alike have the same room left. -/
theorem Alike.inside {depth : Nat} {st st' : Step Json} (h : Alike st st') :
    Alike (d.inside depth st) (d.inside depth st') := by
  cases h with
  | ok h => exact .ok h
  | error e =>
    unfold Dialect.inside
    split
    · split <;> exact .error _
    · exact .error e

theorem Agrees.nested {depth : Nat} {empty : Json} (hmore : Agrees fuel fuel' more more') :
    Agrees fuel fuel' (nested d depth close empty more) (nested d depth close empty more') := by
  intro s t h hs ht
  rw [Json.nested, Json.nested, h.head?_skip]
  split
  · exact .error _
  · split
    · rename_i hclose
      exact .ok (h.tail_skip hclose)
    · split
      · have hlength := length_skip_le s
        have hlength' := length_skip_le t
        exact (hmore _ _ h.skip (by omega) (by omega)).inside
      · exact .error _

theorem Agrees.quoted {next next' : List Char → List Char → Step Json}
    (hnext : ∀ key, Agrees fuel fuel' (next key) (next' key)) :
    Agrees fuel fuel' (quoted d next) (quoted d next') := by
  intro s t h hs ht
  rw [Json.quoted, Json.quoted]
  rcases h.head_cases with ⟨c, s', t', rfl, rfl, h'⟩ | ⟨hled, hled'⟩
  · rw [List.length_cons] at hs ht
    rw [List.head?_cons, List.head?_cons]
    split
    · exact (agrees_stringBody fuel fuel').andThen takes_stringBody takes_stringBody hnext s' t' h'
        (by omega) (by omega)
    · exact .error _
  · have hnot : ∀ {x : List Char}, SpaceLed x → x.head? ≠ some '"' := by
      intro x hx hhead
      exact absurd (hx _ hhead) (by decide)
    rw [if_neg (hnot hled), if_neg (hnot hled')]
    exact .error _

theorem Agrees.mono {n n' : Nat} (h : Agrees fuel fuel' more more') (hn : n ≤ fuel)
    (hn' : n' ≤ fuel') : Agrees n n' more more' :=
  fun s t hst hs ht => h s t hst (by omega) (by omega)

end Agrees

/-! ## 4. Values and documents -/

/-- **Readers with enough fuel each agree**; those of items and members need one step more. -/
structure AgreeAt (d : Dialect) (fuel fuel' : Nat) : Prop where
  value : ∀ depth, Agrees fuel fuel' (value d fuel depth) (value d fuel' depth)
  items : ∀ depth done,
    Agrees (fuel - 1) (fuel' - 1) (items d fuel depth done) (items d fuel' depth done)
  members : ∀ depth done,
    Agrees (fuel - 1) (fuel' - 1) (members d fuel depth done) (members d fuel' depth done)

theorem agrees_zero {α : Type} {fuel' : Nat} {f g : List Char → Step α} : Agrees 0 fuel' f g :=
  fun _ _ _ hs _ => absurd hs (Nat.not_lt_zero _)

theorem agrees_zero' {α : Type} {fuel : Nat} {f g : List Char → Step α} : Agrees fuel 0 f g :=
  fun _ _ _ _ ht => absurd ht (Nat.not_lt_zero _)

theorem not_mem_openingMarks_of_spaceLed (h : SpaceLed s) : ∀ c ∈ s.head?, c ∉ openingMarks := by
  intro c hc hmem
  have hall : (openingMarks.all fun c => !isSpace c) = true := by decide
  have hmark := List.all_eq_true.mp hall c hmem
  rw [h c hc] at hmark
  cases hmark

theorem AgreeAt.succ_value {fuel fuel' : Nat} (ih : AgreeAt d fuel fuel') (depth : Nat) :
    Agrees (fuel + 1) (fuel' + 1) (Json.value d (fuel + 1) depth)
      (Json.value d (fuel' + 1) depth) := by
  intro s t h hs ht
  rcases h.head_cases with ⟨c, s, t, rfl, rfl, h'⟩ | ⟨hled, hled'⟩
  · rw [List.length_cons] at hs ht
    rcases opening_cases (c :: s) with ⟨_, heq⟩ | ⟨_, heq⟩ | ⟨_, heq⟩ | hhead
    · obtain ⟨rfl, -⟩ := List.cons.inj heq
      rw [value_string, value_string]
      have hstring : Agrees (fuel + 1) (fuel' + 1) (stringBody d) (stringBody d) :=
        agrees_stringBody _ _
      exact hstring.andThen takes_stringBody takes_stringBody
        (agrees_ok fun text => string (String.ofList text)) s t h' (by omega) (by omega)
    · obtain ⟨rfl, -⟩ := List.cons.inj heq
      rw [value_array, value_array]
      exact (ih.items _ _).nested s t h' (by omega) (by omega)
    · obtain ⟨rfl, -⟩ := List.cons.inj heq
      rw [value_object, value_object]
      exact (ih.members _ _).nested s t h' (by omega) (by omega)
    · rw [value_scalar fuel depth hhead, value_scalar (s := c :: t) fuel' depth hhead]
      exact alike_scalar h
  · rw [value_scalar fuel depth (not_mem_openingMarks_of_spaceLed hled),
      value_scalar fuel' depth (not_mem_openingMarks_of_spaceLed hled')]
    exact alike_scalar h

theorem agreeAt (d : Dialect) (fuel fuel' : Nat) : AgreeAt d fuel fuel' := by
  induction fuel generalizing fuel' with
  | zero => exact ⟨fun _ => agrees_zero, fun _ _ => agrees_zero, fun _ _ => agrees_zero⟩
  | succ fuel ih =>
    cases fuel' with
    | zero => exact ⟨fun _ => agrees_zero', fun _ _ => agrees_zero', fun _ _ => agrees_zero'⟩
    | succ fuel' =>
      have htakes := fun depth => (spansAt d fuel).takes depth
      have htakes' := fun depth => (spansAt d fuel').takes depth
      refine ⟨(ih fuel').succ_value, fun depth done => ?_, fun depth done => ?_⟩
      · rw [funext (items_succ fuel depth done), funext (items_succ fuel' depth done)]
        exact ((ih fuel').value depth).andThen (htakes depth) (htakes' depth) fun v =>
          ((ih fuel').items depth (v :: done)).continued.mono (by omega) (by omega)
      · rw [funext (members_succ fuel depth done), funext (members_succ fuel' depth done)]
        refine .quoted fun key => .mono (.behind ?_) (Nat.le_add_right _ 2) (Nat.le_add_right _ 2)
        exact ((ih fuel').value depth).andThen (htakes depth) (htakes' depth) fun v =>
          ((ih fuel').members depth (Table.put (String.ofList key) v done)).continued.mono
            (by omega) (by omega)

/-- What a text writes depends on what is behind leading white space. -/
theorem readChars_of_skip (h : Respaced (skip s) (skip t)) : readChars d s = readChars d t := by
  have hlength := length_skip_le s
  have hlength' := length_skip_le t
  have halike := (agreeAt d (2 * s.length + 2) (2 * t.length + 2)).value 0 _ _ h (by omega)
    (by omega)
  rw [readChars, readChars]
  generalize value d (2 * s.length + 2) 0 (skip s) = x at halike ⊢
  generalize value d (2 * t.length + 2) 0 (skip t) = y at halike ⊢
  cases halike with
  | error e => rfl
  | ok hrest =>
    dsimp only
    exact if_congr hrest.skip_eq_nil rfl rfl

/-- **White space in front of line feeds and behind a text does not matter.** -/
theorem readChars_respaced (h : Respaced s t) : readChars d s = readChars d t :=
  readChars_of_skip h.skip

/-- **White space around a text does not matter.** -/
theorem readChars_between {front back : List Char} (hfront : skip front = [])
    (hback : skip back = []) (s : List Char) :
    readChars d (front ++ s ++ back) = readChars d s := by
  have hspaced : ∀ s, Respaced s (s ++ back) := fun s => by
    have h := (Respaced.ending hback).append_left s
    rwa [List.append_nil] at h
  refine (readChars_of_skip ?_).trans (readChars_respaced (hspaced s)).symm
  rw [List.append_assoc, skip_append_of_skip hfront]
  exact .refl _

end SourceCheck.Json

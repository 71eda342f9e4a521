import SourceCheck.Proofs.Json.RoundTrip
import SourceCheck.Proofs.Json.Shapes

/-!
# How far a value reaches

What is read as a value is a beginning of the text.  A string reaches up to its closing quote, a
word or a number as far as its characters do, an array or an object up to its closing mark.  So a
text that is a value and ends with a closing brace is an object, and starts with an opening one.

* `Quotable`, `exists_quotable`: what stands between the quotes of a string, and that a string is
  the same whatever stands behind it.
* `ScalarFront`, `scalarFront_scalar`: what a word or a number takes off.
* `Closes`: a reader of the inside of an array or an object, one closure lemma for each shape.
* `Spans`, `exists_spans`: the text of a value, and that of a document.
-/

namespace SourceCheck.Json

variable {d : Dialect} {s r : List Char} {c : Char}

/-! ## 1. Strings -/

/-- **What may stand between the quotes of a string**: no control character, and neither a quote nor
a backslash but behind a backslash. -/
inductive Quotable : List Char → Prop
  | nil : Quotable []
  | plain {c : Char} {s : List Char} (hquote : c ≠ '"') (hslash : c ≠ '\\') (hc : 32 ≤ c.toNat)
      (h : Quotable s) : Quotable (c :: s)
  | escape {c : Char} {s : List Char} (hc : 32 ≤ c.toNat) (h : Quotable s) :
      Quotable ('\\' :: c :: s)

/-- **What a hexadecimal digit is**, and its value. -/
theorem of_hexValue? {n : Nat} (h : hexValue? c = some n) :
    48 ≤ c.toNat ∧ c.toNat ≤ 57 ∧ n = c.toNat - 48 ∨
      97 ≤ c.toNat ∧ c.toNat ≤ 102 ∧ n = c.toNat - 87 ∨
      65 ≤ c.toNat ∧ c.toNat ≤ 70 ∧ n = c.toNat - 55 := by
  have between {low high : Char} (hc : (decide (low ≤ c) && decide (c ≤ high)) = true) :
      low.toNat ≤ c.toNat ∧ c.toNat ≤ high.toNat := by
    rwa [Bool.and_eq_true, decide_eq_true_eq, decide_eq_true_eq] at hc
  unfold hexValue? at h
  split at h
  · rename_i hc
    cases h
    exact .inl ⟨(between hc).1, (between hc).2, rfl⟩
  · split at h
    · rename_i hc
      cases h
      exact .inr (.inl ⟨(between hc).1, (between hc).2, rfl⟩)
    · split at h
      · rename_i hc
        cases h
        exact .inr (.inr ⟨(between hc).1, (between hc).2, rfl⟩)
      · cases h

theorem plain_of_hexValue? {n : Nat} (h : hexValue? c = some n) :
    c ≠ '"' ∧ c ≠ '\\' ∧ 32 ≤ c.toNat := by
  have hrange := of_hexValue? h
  refine ⟨?_, ?_, by omega⟩
  · rintro rfl
    have hquote : '"'.toNat = 34 := rfl
    omega
  · rintro rfl
    have hslash : '\\'.toNat = 92 := rfl
    omega

/-- The digits of a code unit. -/
theorem plain_of_hexNumber? {x y z w : Char} {n : Nat} (h : hexNumber? x y z w = some n) :
    ∀ c ∈ [x, y, z, w], c ≠ '"' ∧ c ≠ '\\' ∧ 32 ≤ c.toNat := by
  simp only [hexNumber?, Option.bind_eq_bind, Option.bind_eq_some_iff] at h
  obtain ⟨_, hx, _, hy, _, hz, _, hw, -⟩ := h
  simp only [List.forall_mem_cons]
  exact ⟨plain_of_hexValue? hx, plain_of_hexValue? hy, plain_of_hexValue? hz,
    plain_of_hexValue? hw, List.forall_mem_nil _⟩

theorem Quotable.unit {x y z w : Char} {n : Nat} (h : hexNumber? x y z w = some n)
    (hs : Quotable s) : Quotable ('\\' :: 'u' :: x :: y :: z :: w :: s) := by
  have hplain := plain_of_hexNumber? h
  simp only [List.forall_mem_cons] at hplain
  obtain ⟨⟨hx, hx', hx''⟩, ⟨hy, hy', hy''⟩, ⟨hz, hz', hz''⟩, ⟨hw, hw', hw''⟩, -⟩ := hplain
  exact .escape (by decide) (.plain hx hx' hx'' (.plain hy hy' hy'' (.plain hz hz' hz''
    (.plain hw hw' hw'' hs))))

theorem le_of_shortEscape? {e : Char} (h : shortEscape? c = some e) : 32 ≤ c.toNat := by
  unfold shortEscape? at h
  split at h
  case h_9 => cases h
  all_goals decide

/-- What is between quotes has no control characters. -/
theorem Quotable.le_toNat (h : Quotable s) : ∀ c ∈ s, 32 ≤ c.toNat := by
  induction h with
  | nil => nofun
  | plain _ _ hc _ ih => exact List.forall_mem_cons.mpr ⟨hc, ih⟩
  | escape hc _ ih => exact List.forall_mem_cons.mpr ⟨by decide, List.forall_mem_cons.mpr ⟨hc, ih⟩⟩

theorem of_consUnit {u : Option Char} {st : Step (List (Option Char))} {us : List (Option Char)}
    (h : consUnit u st = .ok (us, r)) : ∃ vs, us = u :: vs ∧ st = .ok (vs, r) := by
  cases st with
  | error e => cases h
  | ok p =>
    cases h
    exact ⟨p.1, rfl, rfl⟩

/-- A text that starts with the second half of a surrogate pair. -/
def StartsLow (s : List Char) : Prop :=
  ∃ x y z w n cs, s = '\\' :: 'u' :: x :: y :: z :: w :: cs ∧ hexNumber? x y z w = some n ∧
    isLowSurrogate n = true

/-- A half of a surrogate pair does not reach over the closing quote. -/
theorem StartsLow.replace {b r' : List Char} (h : StartsLow (b ++ '"' :: r)) :
    StartsLow (b ++ '"' :: r') := by
  obtain ⟨x, y, z, w, n, cs, hs, hn, hlow⟩ := h
  have hplain := plain_of_hexNumber? hn
  have hnot : '"' ∉ '\\' :: 'u' :: [x, y, z, w] := by
    simp only [List.mem_cons (a := '"') (b := '\\'), List.mem_cons (a := '"') (b := 'u')]
    rintro (h | h | h)
    · exact absurd h (by decide)
    · exact absurd h (by decide)
    · exact (hplain _ h).1 rfl
  have happend : ('\\' :: 'u' :: [x, y, z, w]) ++ cs = b ++ '"' :: r := hs.symm
  rcases List.append_eq_append_iff.mp happend with ⟨t, rfl, -⟩ | ⟨t, ht, hrest⟩
  · exact ⟨x, y, z, w, n, t ++ '"' :: r', by simp, hn, hlow⟩
  · cases t with
    | nil =>
      rw [List.append_nil] at ht
      exact ⟨x, y, z, w, n, '"' :: r', by rw [← ht]; rfl, hn, hlow⟩
    | cons c t =>
      obtain ⟨rfl, -⟩ := List.cons.inj hrest
      exact absurd (ht ▸ List.mem_append_right b List.mem_cons_self) hnot

/-- A code unit that is no first half of a surrogate pair. -/
theorem stringUnits_single {x y z w : Char} {n : Nat} (hn : hexNumber? x y z w = some n)
    (hhigh : isHighSurrogate n = false) (cs : List Char) :
    stringUnits ('\\' :: 'u' :: x :: y :: z :: w :: cs) =
      if isLowSurrogate n then consUnit none (stringUnits cs)
      else consUnit (Char.ofNat n) (stringUnits cs) := by
  rw [stringUnits.eq_def]
  simp only [hn, hhigh, Bool.false_eq_true, if_false]

theorem stringUnits_pair {x y z w x₂ y₂ z₂ w₂ : Char} {n n₂ : Nat}
    (hn : hexNumber? x y z w = some n) (hhigh : isHighSurrogate n = true)
    (hn₂ : hexNumber? x₂ y₂ z₂ w₂ = some n₂) (hlow : isLowSurrogate n₂ = true) (cs : List Char) :
    stringUnits
        ('\\' :: 'u' :: x :: y :: z :: w :: '\\' :: 'u' :: x₂ :: y₂ :: z₂ :: w₂ :: cs) =
      consUnit (pairChar n n₂) (stringUnits cs) := by
  rw [stringUnits.eq_def]
  simp only [hn, hhigh, hn₂, hlow, if_true]

/-- The first half of a surrogate pair that stands alone. -/
theorem stringUnits_lone {x y z w : Char} {n : Nat} {cs : List Char}
    {p : List (Option Char) × List Char} (hn : hexNumber? x y z w = some n)
    (hhigh : isHighSurrogate n = true) (hlow : ¬ StartsLow cs) (hcs : stringUnits cs = .ok p) :
    stringUnits ('\\' :: 'u' :: x :: y :: z :: w :: cs) = consUnit none (.ok p) := by
  rw [stringUnits.eq_def]
  simp only [hn, hhigh, if_true]
  split
  · rename_i x₂ y₂ z₂ w₂ cs₂
    rw [← hcs]
    cases hn₂ : hexNumber? x₂ y₂ z₂ w₂ with
    | none =>
      rw [stringUnits.eq_def] at hcs
      simp only [hn₂, reduceCtorEq] at hcs
    | some n₂ =>
      have hnot : isLowSurrogate n₂ = false :=
        Bool.eq_false_iff.mpr fun h => hlow ⟨_, _, _, _, n₂, _, rfl, hn₂, h⟩
      simp only [hnot, Bool.false_eq_true, if_false]
  · rw [hcs]

/-- **The units of a string are read up to its closing quote**, and are the same whatever stands
behind it. -/
theorem exists_quotable_units {us : List (Option Char)} (h : stringUnits s = .ok (us, r)) :
    ∃ b, Quotable b ∧ s = b ++ '"' :: r ∧ ∀ r', stringUnits (b ++ '"' :: r') = .ok (us, r') := by
  fun_induction stringUnits s generalizing us r with
  | case1 => cases h
  | case2 cs =>
    cases h
    exact ⟨[], .nil, rfl, fun r' => rfl⟩
  | case3 => cases h
  | case4 => cases h
  | case5 a b c e n hn hhigh a₂ b₂ c₂ e₂ cs n₂ hn₂ hlow ih =>
    obtain ⟨y, rfl, hy⟩ := of_consUnit h
    obtain ⟨t, ht, rfl, hread⟩ := ih hy
    refine ⟨_, .unit hn (.unit hn₂ ht), rfl, fun r' => ?_⟩
    exact (stringUnits_pair hn hhigh hn₂ hlow _).trans (congrArg (consUnit _) (hread r'))
  | case6 a b c e n hn hhigh a₂ b₂ c₂ e₂ cs n₂ hn₂ hlow ih =>
    obtain ⟨y, rfl, hy⟩ := of_consUnit h
    obtain ⟨t, ht, heq, hread⟩ := ih hy
    have hnot : ¬ StartsLow (t ++ '"' :: r) := by
      rw [← heq]
      rintro ⟨_, _, _, _, n₃, _, heq₃, hn₃, hlow₃⟩
      cases heq₃
      rw [hn₂] at hn₃
      cases hn₃
      exact hlow hlow₃
    refine ⟨_, .unit hn ht, by rw [heq]; rfl, fun r' => ?_⟩
    exact stringUnits_lone hn hhigh (fun h => hnot h.replace) (hread r')
  | case7 a b c e n hn hhigh cs hpair ih =>
    obtain ⟨y, rfl, hy⟩ := of_consUnit h
    obtain ⟨t, ht, rfl, hread⟩ := ih hy
    have hnot : ¬ StartsLow (t ++ '"' :: r) := by
      rintro ⟨_, _, _, _, n₃, _, heq₃, -, -⟩
      exact hpair _ _ _ _ _ heq₃
    refine ⟨_, .unit hn ht, rfl, fun r' => ?_⟩
    exact stringUnits_lone hn hhigh (fun h => hnot h.replace) (hread r')
  | case8 a b c e cs n hn hhigh hlow ih =>
    obtain ⟨y, rfl, hy⟩ := of_consUnit h
    obtain ⟨t, ht, rfl, hread⟩ := ih hy
    refine ⟨_, .unit hn ht, rfl, fun r' => ?_⟩
    refine (stringUnits_single hn (Bool.eq_false_iff.mpr hhigh) _).trans ?_
    rw [if_pos hlow]
    exact congrArg (consUnit _) (hread r')
  | case9 a b c e cs n hn hhigh hlow ih =>
    obtain ⟨y, rfl, hy⟩ := of_consUnit h
    obtain ⟨t, ht, rfl, hread⟩ := ih hy
    refine ⟨_, .unit hn ht, rfl, fun r' => ?_⟩
    refine (stringUnits_single hn (Bool.eq_false_iff.mpr hhigh) _).trans ?_
    rw [if_neg hlow]
    exact congrArg (consUnit _) (hread r')
  | case10 c cs hunit e he ih =>
    obtain ⟨y, rfl, hy⟩ := of_consUnit h
    obtain ⟨t, ht, rfl, hread⟩ := ih hy
    have hc : c ≠ 'u' := by
      rintro rfl
      cases he
    refine ⟨_, .escape (le_of_shortEscape? he) ht, rfl, fun r' => ?_⟩
    exact (stringUnits_shortEscape he hc _).trans (congrArg (consUnit _) (hread r'))
  | case11 => cases h
  | case12 => cases h
  | case13 c cs hquote _ hescape hcontrol ih =>
    obtain ⟨y, rfl, hy⟩ := of_consUnit h
    obtain ⟨t, ht, rfl, hread⟩ := ih hy
    have hc : 32 ≤ c.toNat := Nat.le_of_not_lt hcontrol
    have hslash : c ≠ '\\' := by
      intro hslash
      obtain ⟨c', cs, hcs⟩ : ∃ c' cs, t ++ '"' :: r = c' :: cs :=
        List.exists_cons_of_ne_nil (by simp)
      exact hescape c' cs hslash hcs
    refine ⟨c :: t, .plain hquote hslash hc ht, rfl, fun r' => ?_⟩
    exact (stringUnits_plain hquote hslash hc _).trans (congrArg (consUnit _) (hread r'))

theorem stringBody_of_units {us : List (Option Char)} (h : stringUnits s = .ok (us, r)) :
    stringBody d s = (d.textOf us).map fun cs => (cs, r) := by
  rw [stringBody, h]

/-- **A string is read up to its closing quote**, and is the same whatever stands behind it. -/
theorem exists_quotable {x : List Char} (h : stringBody d s = .ok (x, r)) :
    ∃ b, Quotable b ∧ s = b ++ '"' :: r ∧ ∀ r', stringBody d (b ++ '"' :: r') = .ok (x, r') := by
  cases hunits : stringUnits s with
  | error e =>
    rw [stringBody, hunits] at h
    cases h
  | ok p =>
    obtain ⟨us, rest⟩ := p
    obtain ⟨b, hb, rfl, hread⟩ := exists_quotable_units hunits
    rw [stringBody_of_units hunits] at h
    cases htext : d.textOf us with
    | error e =>
      rw [htext] at h
      cases h
    | ok cs =>
      rw [htext] at h
      cases h
      exact ⟨b, hb, rfl, fun r' => by rw [stringBody_of_units (hread r'), htext]; rfl⟩

theorem consUnit_error {u : Option Char} {st : Step (List (Option Char))} {e : ReadError}
    (h : consUnit u st = .error e) : st = .error e := by
  cases st with
  | ok p => cases h
  | error e' => exact h

/-- Units have no other failure than being malformed. -/
theorem stringUnits_error {e : ReadError} (h : stringUnits s = .error e) : e = .malformed := by
  fun_induction stringUnits s with
  | case1 | case3 | case4 | case11 | case12 =>
    cases h
    rfl
  | case2 => cases h
  | case5 _ _ _ _ _ _ _ _ _ _ _ _ _ _ _ ih => exact ih (consUnit_error h)
  | case6 _ _ _ _ _ _ _ _ _ _ _ _ _ _ _ ih => exact ih (consUnit_error h)
  | case7 _ _ _ _ _ _ _ _ _ ih => exact ih (consUnit_error h)
  | case8 _ _ _ _ _ _ _ _ _ ih => exact ih (consUnit_error h)
  | case9 _ _ _ _ _ _ _ _ _ ih => exact ih (consUnit_error h)
  | case10 _ _ _ _ _ ih => exact ih (consUnit_error h)
  | case13 _ _ _ _ _ _ ih => exact ih (consUnit_error h)

/-- **The failures of a string**: it is malformed, or not followed where half a surrogate pair is
not. -/
theorem stringBody_error {e : ReadError} (h : stringBody d s = .error e) :
    e = .malformed ∨ e = .unfollowed ∧ d.halfPair = .unfollowed := by
  cases hunits : stringUnits s with
  | error e' =>
    rw [stringBody, hunits] at h
    cases h
    exact .inl (stringUnits_error hunits)
  | ok p =>
    rw [stringBody_of_units hunits, Dialect.textOf] at h
    split at h
    · cases h
    · split at h
      · cases h
        exact .inl rfl
      · cases h
      · cases h
        exact .inr ⟨rfl, ‹_›⟩

/-! ## 2. Words and numbers -/

/-- Characters of words and numbers. -/
def isScalarChar (c : Char) : Bool := c.isAlphanum || c ∈ ['+', '-', '.']

theorem isScalarChar_of_isDigit (h : c.isDigit = true) : isScalarChar c = true := by
  simp [isScalarChar, Char.isAlphanum, h]

/-- **What stands in front of a rest**: characters of words and numbers alone. -/
def ScalarFront (s r : List Char) : Prop := ∃ b, s = b ++ r ∧ ∀ c ∈ b, isScalarChar c = true

namespace ScalarFront

variable {t : List Char}

theorem refl (s : List Char) : ScalarFront s s := ⟨[], rfl, nofun⟩

theorem cons (hc : isScalarChar c = true) (h : ScalarFront s r) : ScalarFront (c :: s) r := by
  obtain ⟨b, rfl, hb⟩ := h
  exact ⟨c :: b, rfl, List.forall_mem_cons.mpr ⟨hc, hb⟩⟩

theorem trans (h : ScalarFront s t) (h' : ScalarFront t r) : ScalarFront s r := by
  obtain ⟨b, rfl, hb⟩ := h
  obtain ⟨b', rfl, hb'⟩ := h'
  exact ⟨b ++ b', (List.append_assoc b b' r).symm, List.forall_mem_append.mpr ⟨hb, hb'⟩⟩

theorem digits (hs : ∀ c ∈ s, c.isDigit = true) (r : List Char) : ScalarFront (s ++ r) r :=
  ⟨s, rfl, fun c hc => isScalarChar_of_isDigit (hs c hc)⟩

end ScalarFront

theorem isDigit_of_mem_takeWhile (s : List Char) :
    ∀ c ∈ s.takeWhile Char.isDigit, c.isDigit = true :=
  fun _ hc => List.mem_takeWhile_imp hc

theorem scalarFront_dropWhile (s : List Char) : ScalarFront s (s.dropWhile Char.isDigit) := by
  have hfront := ScalarFront.digits (isDigit_of_mem_takeWhile s) (s.dropWhile Char.isDigit)
  rwa [List.takeWhile_append_dropWhile] at hfront

theorem scalarFront_fractionPart (s : List Char) : ScalarFront s (fractionPart s).2 := by
  cases s with
  | nil => exact .refl []
  | cons c cs =>
    by_cases hc : c = '.'
    · subst hc
      rw [fractionPart]
      split
      · exact .refl _
      · exact .cons (by decide) (scalarFront_dropWhile cs)
    · rw [fractionPart_of_ne_point hc]
      exact .refl _

theorem scalarFront_sign (s : List Char) : ScalarFront s (Number.sign s).2 := by
  rw [Number.sign.eq_def]
  split
  · exact .cons (by decide) (.refl _)
  · exact .cons (by decide) (.refl _)
  · exact .refl _

theorem scalarFront_exponentPart (s : List Char) : ScalarFront s (exponentPart s).2 := by
  cases s with
  | nil => exact .refl []
  | cons c cs =>
    rw [exponentPart]
    split
    · rename_i hc
      dsimp only
      split
      · exact .refl _
      · refine .cons ?_ ((scalarFront_sign cs).trans (scalarFront_dropWhile _))
        simp only [Bool.or_eq_true, beq_iff_eq] at hc
        rcases hc with rfl | rfl <;> decide
    · exact .refl _

/-- The whole part of a number is a run of digits. -/
theorem of_wholePart {whole : List Char} (h : wholePart s = some (whole, r)) :
    s = whole ++ r ∧ whole ≠ [] ∧ ∀ c ∈ whole, c.isDigit = true := by
  cases s with
  | nil => cases h
  | cons c cs =>
    by_cases hc : c = '0'
    · subst hc
      cases h
      exact ⟨rfl, by simp, by simp⟩
    · rw [wholePart_of_ne_zero hc] at h
      split at h
      · cases h
      · rename_i hne
        cases h
        exact ⟨List.takeWhile_append_dropWhile.symm, hne, isDigit_of_mem_takeWhile _⟩

theorem scalarFront_numberBody {negative : Bool} {v : Json}
    (h : numberBody d negative s = .ok (v, r)) :
    ∃ c cs, s = c :: cs ∧ isScalarChar c = true ∧ ScalarFront cs r := by
  unfold numberBody at h
  cases hw : wholePart s with
  | none =>
    rw [hw] at h
    cases h
  | some p =>
    obtain ⟨whole, r₁⟩ := p
    obtain ⟨rfl, hne, hdigits⟩ := of_wholePart hw
    obtain ⟨c, cs, rfl⟩ := List.exists_cons_of_ne_nil hne
    obtain ⟨hc, hcs⟩ := List.forall_mem_cons.mp hdigits
    have hfront : ScalarFront (cs ++ r₁) (exponentPart (fractionPart r₁).2).2 :=
      (ScalarFront.digits hcs r₁).trans
        ((scalarFront_fractionPart r₁).trans (scalarFront_exponentPart _))
    simp only [hw] at h
    refine ⟨c, cs ++ r₁, rfl, isScalarChar_of_isDigit hc, ?_⟩
    split at h
    · cases h
    · split at h <;> cases h <;> exact hfront

/-- **A word or a number reaches as far as its characters do.** -/
theorem scalarFront_scalar {v : Json} (h : scalar d s = .ok (v, r)) :
    ∃ c cs, s = c :: cs ∧ isScalarChar c = true ∧ ScalarFront cs r := by
  rcases scalar_cases h with ⟨w, hw, rfl, rfl⟩ | ⟨negative, body, rfl, hbody⟩
  · have hall : ∀ w ∈ words, w.1.toList ≠ [] ∧ w.1.toList.all isScalarChar = true := by decide
    obtain ⟨hne, hchars⟩ := hall w hw
    obtain ⟨c, cs, hcs⟩ := List.exists_cons_of_ne_nil hne
    rw [hcs] at hchars ⊢
    obtain ⟨hc, hcs⟩ := List.forall_mem_cons.mp (List.all_eq_true.mp hchars)
    exact ⟨c, cs ++ r, rfl, hc, cs, rfl, hcs⟩
  · obtain ⟨c, cs, rfl, hc, hfront⟩ := scalarFront_numberBody hbody
    cases negative with
    | true => exact ⟨'-', c :: cs, rfl, by decide, hfront.cons hc⟩
    | false => exact ⟨c, cs, rfl, hc, hfront⟩

/-! ## 3. Values -/

/-- A text and the white space in front of it. -/
theorem exists_gap (s : List Char) : ∃ gap, skip gap = [] ∧ s = gap ++ skip s :=
  ⟨s.takeWhile isSpace, List.dropWhile_eq_nil_iff.mpr fun _ hc => List.mem_takeWhile_imp hc,
    List.takeWhile_append_dropWhile.symm⟩

/-- The text in front of a mark behind white space. -/
theorem exists_gap_of_head (h : (skip s).head? = some c) :
    ∃ gap, s = gap ++ c :: (skip s).tail := by
  obtain ⟨gap, -, hs⟩ := exists_gap s
  obtain ⟨t, ht⟩ := List.head?_eq_some_iff.mp h
  exact ⟨gap, by rw [ht, List.tail_cons, ← ht]; exact hs⟩

/-- **A reader that takes a beginning of the text.** -/
def Takes {α : Type} (f : List Char → Step α) : Prop :=
  ∀ s a r, f s = .ok (a, r) → ∃ b, s = b ++ r

theorem takes_stringBody : Takes (stringBody d) := by
  intro s x r h
  obtain ⟨b, -, rfl, -⟩ := exists_quotable h
  exact ⟨b ++ ['"'], by rw [List.append_assoc]; rfl⟩

/-- **A reader of the inside of an array or an object**, up to the closing mark. -/
def Closes (close : Char) (object : Bool) (f : List Char → Step Json) : Prop :=
  ∀ s v r, f s = .ok (v, r) → v.isObject = object ∧ ∃ b, s = b ++ close :: r

section Closes

variable {close mark : Char} {object : Bool} {more : List Char → Step Json} {v : Json}

theorem Takes.closes {α : Type} {f : List Char → Step α} {next : α → List Char → Step Json}
    (hf : Takes f) (hnext : ∀ a, Closes close object (next a)) :
    Closes close object fun s => andThen (f s) next := by
  intro s v r h
  dsimp only at h
  cases hs : f s with
  | error e =>
    rw [hs] at h
    cases h
  | ok p =>
    obtain ⟨a, rest⟩ := p
    rw [hs] at h
    obtain ⟨b, rfl⟩ := hf s a rest hs
    obtain ⟨hv, b', rfl⟩ := hnext a rest v r h
    exact ⟨hv, b ++ b', (List.append_assoc ..).symm⟩

theorem Closes.behind_gap (hmore : Closes close object more) (h : more (skip s) = .ok (v, r)) :
    v.isObject = object ∧ ∃ b, s = b ++ close :: r := by
  obtain ⟨gap, -, hs⟩ := exists_gap s
  obtain ⟨hv, b, hb⟩ := hmore _ v r h
  exact ⟨hv, gap ++ b, by rw [List.append_assoc, ← hb]; exact hs⟩

theorem Closes.behind_mark (hmore : Closes close object more) (hmark : (skip s).head? = some mark)
    (h : more (skip (skip s).tail) = .ok (v, r)) :
    v.isObject = object ∧ ∃ b, s = b ++ close :: r := by
  obtain ⟨gap, hs⟩ := exists_gap_of_head hmark
  obtain ⟨hv, b, hb⟩ := hmore.behind_gap h
  exact ⟨hv, gap ++ mark :: b, by rw [List.append_assoc, List.cons_append, ← hb]; exact hs⟩

theorem Closes.behind (hmore : Closes close object more) :
    Closes close object (behind mark more) := by
  intro s v r h
  rw [Json.behind] at h
  split at h
  · rename_i hmark
    exact hmore.behind_mark hmark h
  · cases h

theorem Closes.continued {whole : Json} (hmore : Closes close whole.isObject more) :
    Closes close whole.isObject (continued close whole more) := by
  intro s v r h
  rw [Json.continued] at h
  split at h
  · rename_i hcomma
    exact hmore.behind_mark hcomma h
  · split at h
    · rename_i hclose
      cases h
      exact ⟨rfl, exists_gap_of_head hclose⟩
    · cases h

theorem Closes.nested {depth : Nat} {empty : Json} (hmore : Closes close empty.isObject more) :
    Closes close empty.isObject (nested d depth close empty more) := by
  intro s v r h
  rcases of_nested h with ⟨hclose, rfl, rfl⟩ | hinner
  · exact ⟨rfl, exists_gap_of_head hclose⟩
  · exact hmore.behind_gap hinner

theorem Closes.quoted {next : List Char → List Char → Step Json}
    (hnext : ∀ key, Closes close object (next key)) : Closes close object (quoted d next) := by
  intro s v r h
  rw [Json.quoted] at h
  split at h
  · rename_i hquote
    obtain ⟨cs, rfl⟩ := List.head?_eq_some_iff.mp hquote
    obtain ⟨hv, b, hb⟩ := takes_stringBody.closes hnext cs v r h
    exact ⟨hv, '"' :: b, by rw [hb]; rfl⟩
  · cases h

end Closes

/-- **The text of a value**: that of an object, and no other, starts with an opening brace, and it
alone ends with a closing one. -/
structure Spans (v : Json) (b : List Char) : Prop where
  head : b.head? = some '\x7b' ↔ v.isObject = true
  last : b.getLast? = some '\x7d' ↔ v.isObject = true

/-- A text between two marks. -/
theorem spans_marks {v : Json} {front back : Char} (hfront : front = '\x7b' ↔ v.isObject = true)
    (hback : back = '\x7d' ↔ v.isObject = true) (b : List Char) :
    Spans v (front :: (b ++ [back])) where
  head := by rw [List.head?_cons, Option.some.injEq, hfront]
  last := by rw [← List.cons_append, List.getLast?_concat, Option.some.injEq, hback]

/-- What is between two marks, with the marks. -/
theorem Closes.spans {front close : Char} {object : Bool} {f : List Char → Step Json}
    (hf : Closes close object f) (hfront : front = '\x7b' ↔ object = true)
    (hclose : close = '\x7d' ↔ object = true) {v : Json} {cs : List Char}
    (h : f cs = .ok (v, r)) : ∃ b, front :: cs = b ++ r ∧ Spans v b := by
  obtain ⟨rfl, b, rfl⟩ := hf cs v r h
  exact ⟨front :: (b ++ [close]), by simp, spans_marks hfront hclose b⟩

theorem isObject_scalar {v : Json} (h : scalar d s = .ok (v, r)) : v.isObject = false := by
  rcases scalar_cases h with ⟨w, hw, -, rfl⟩ | ⟨negative, body, -, hbody⟩
  · have hall : ∀ w ∈ words, w.2.isObject = false := by decide
    exact hall w hw
  · unfold numberBody at hbody
    split at hbody
    · cases hbody
    · dsimp only at hbody
      split at hbody
      · cases hbody
      · split at hbody <;> cases hbody <;> rfl

theorem spans_scalar {v : Json} (h : scalar d s = .ok (v, r)) : ∃ b, s = b ++ r ∧ Spans v b := by
  have hv := isObject_scalar h
  obtain ⟨c, cs, rfl, hc, b, rfl, hb⟩ := scalarFront_scalar h
  have hchars : ∀ x ∈ c :: b, isScalarChar x = true := List.forall_mem_cons.mpr ⟨hc, hb⟩
  refine ⟨c :: b, rfl, ?_, ?_⟩
  · rw [List.head?_cons, Option.some.injEq, hv]
    refine iff_of_false ?_ Bool.false_ne_true
    rintro rfl
    exact absurd hc (by decide)
  · rw [hv]
    refine iff_of_false (fun hlast => ?_) Bool.false_ne_true
    exact absurd (hchars _ (List.mem_of_getLast? hlast)) (by decide)

/-- **The text of a value**, and what is inside an array or an object, with some fuel. -/
structure SpansAt (d : Dialect) (fuel : Nat) : Prop where
  value : ∀ depth s v r, value d fuel depth s = .ok (v, r) → ∃ b, s = b ++ r ∧ Spans v b
  items : ∀ depth done, Closes ']' false (items d fuel depth done)
  members : ∀ depth done, Closes '\x7d' true (members d fuel depth done)

theorem SpansAt.takes {fuel : Nat} (h : SpansAt d fuel) (depth : Nat) :
    Takes (Json.value d fuel depth) := by
  intro s v r hv
  obtain ⟨b, hb, -⟩ := h.value depth s v r hv
  exact ⟨b, hb⟩

theorem spansAt (d : Dialect) (fuel : Nat) : SpansAt d fuel := by
  induction fuel with
  | zero => exact ⟨nofun, nofun, nofun⟩
  | succ fuel ih =>
    refine ⟨fun depth s v r h => ?_, fun depth done => ?_, fun depth done => ?_⟩
    · rcases opening_cases s with ⟨cs, rfl⟩ | ⟨cs, rfl⟩ | ⟨cs, rfl⟩ | hhead
      · rw [value_string] at h
        cases hbody : stringBody d cs with
        | error e =>
          rw [hbody] at h
          cases h
        | ok p =>
          obtain ⟨text, rest⟩ := p
          rw [hbody] at h
          cases h
          obtain ⟨b, -, rfl, -⟩ := exists_quotable hbody
          have hspans : Spans (string (String.ofList text)) ('"' :: (b ++ ['"'])) :=
            spans_marks (by simp [isObject]) (by simp [isObject]) b
          exact ⟨'"' :: (b ++ ['"']), by simp, hspans⟩
      · rw [value_array] at h
        exact (Closes.nested (ih.items _ _)).spans (by decide) (by decide) h
      · rw [value_object] at h
        exact (Closes.nested (ih.members _ _)).spans (by decide) (by decide) h
      · rw [value_scalar _ _ hhead] at h
        exact spans_scalar h
    · rw [funext (items_succ fuel depth done)]
      exact (ih.takes depth).closes fun v => (ih.items depth (v :: done)).continued
    · rw [funext (members_succ fuel depth done)]
      exact .quoted fun key => .behind <| (ih.takes depth).closes fun v =>
        (ih.members depth (Table.put (String.ofList key) v done)).continued

/-- **A document is a value between white space.** -/
theorem exists_spans {v : Json} (h : readChars d s = .ok v) :
    ∃ front b back, s = front ++ b ++ back ∧ skip front = [] ∧ Spans v b ∧ skip back = [] := by
  unfold readChars at h
  split at h
  · cases h
  · rename_i w rest hvalue
    split at h
    · rename_i hrest
      cases h
      obtain ⟨b, hb, hspans⟩ := (spansAt d _).value _ _ _ _ hvalue
      obtain ⟨gap, hgap, hs⟩ := exists_gap s
      exact ⟨gap, b, rest, by rw [List.append_assoc, ← hb]; exact hs, hgap, hspans, hrest⟩
    · cases h

end SourceCheck.Json

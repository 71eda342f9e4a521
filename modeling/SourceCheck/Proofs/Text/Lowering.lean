import SourceCheck.Proofs.Text.Trimming
import SourceCheck.Text.Lower

/-!
# What lower-casing leaves alone

Lower-casing a text looks at more than one character at a time, because a capital sigma is lowered
by what stands around it.  Three facts about whole texts come out of the table of capitals all the
same: a text in lower case stays as it is, also as the end of a longer text; white space is neither
made nor lost; and the letter case of ASCII letters does not matter to what the text becomes.

* `CaseRun.misses`: a run of capitals that moves no letter into another run.
* `IsSmall`: the characters that lower-casing leaves alone.
* `lower_append_of_small`: a text in lower case at the end of another text.
* `lower_of_ascii_case`: ASCII letters in different case.
-/

namespace SourceCheck.Text

/-! ## 1. Runs of capitals -/

namespace CaseRun

/-- **Whether a run moves no letter into another run**: the two lie apart, or the other run steps
over every place that the first one moves to. -/
def misses (r q : CaseRun) : Bool :=
  Nat.blt (r.move r.last) q.first || Nat.blt q.last (r.move r.first) ||
    ((r.first == r.last || r.stride % q.stride == 0) &&
      r.move r.first % q.stride != q.first % q.stride)

variable {r q : CaseRun} {n : Nat}

theorem covers_iff : r.covers n = true ↔
    r.first ≤ n ∧ n ≤ r.last ∧ (n - r.first) % r.stride = 0 := by
  simp only [covers, Bool.and_eq_true, decide_eq_true_eq, beq_iff_eq, and_assoc]

/-- What a run moves keeps its distance from the start. -/
theorem move_eq (hstart : 0 ≤ (r.first : Int) + r.shift) (hn : r.first ≤ n) :
    r.move n = r.move r.first + (n - r.first) := by
  unfold move
  omega

/-- **What a run moves, another run that it misses leaves alone.** -/
theorem covers_move (hstart : 0 ≤ (r.first : Int) + r.shift) (hmiss : r.misses q = true)
    (hn : r.covers n = true) : q.covers (r.move n) = false := by
  obtain ⟨hfirst, hlast, hstep⟩ := covers_iff.mp hn
  rw [Bool.eq_false_iff, ne_eq, covers_iff]
  rintro ⟨hfirst', hlast', hstep'⟩
  have hmove := move_eq hstart hfirst
  have hend := move_eq hstart (Nat.le_trans hfirst hlast)
  simp only [misses, Bool.or_eq_true, Bool.and_eq_true, Nat.blt_eq, beq_iff_eq, bne_iff_ne] at hmiss
  rcases hmiss with (hbelow | habove) | ⟨hstride, hbetween⟩
  · omega
  · omega
  · -- Both distances are multiples of the other run's stride, so the two starts agree modulo it.
    have hr : q.stride ∣ n - r.first := by
      rcases hstride with hone | hstride
      · have hzero : n - r.first = 0 := by omega
        exact hzero ▸ Nat.dvd_zero _
      · exact Nat.dvd_trans (Nat.dvd_of_mod_eq_zero hstride) (Nat.dvd_of_mod_eq_zero hstep)
    have hq : q.stride ∣ r.move n - q.first := Nat.dvd_of_mod_eq_zero hstep'
    apply hbetween
    obtain ⟨a, ha⟩ := hr
    obtain ⟨b, hb⟩ := hq
    have heq : r.move r.first + q.stride * a = q.first + q.stride * b := by omega
    have hmod := congrArg (· % q.stride) heq
    simpa only [Nat.add_mul_mod_self_left] using hmod

end CaseRun

/-- The capital with a dot, which becomes two characters. -/
def dottedCapital : CaseRun := ⟨0x130, 0x130, 1, 0⟩

/-- White space as runs. -/
def blankRuns : List CaseRun := [
  ⟨9, 13, 1, 0⟩, ⟨28, 32, 1, 0⟩, ⟨0x85, 0x85, 1, 0⟩, ⟨0xA0, 0xA0, 1, 0⟩, ⟨0x1680, 0x1680, 1, 0⟩,
  ⟨0x2000, 0x200A, 1, 0⟩, ⟨0x2028, 0x2029, 1, 0⟩, ⟨0x202F, 0x202F, 1, 0⟩, ⟨0x205F, 0x205F, 1, 0⟩,
  ⟨0x3000, 0x3000, 1, 0⟩]

/-- The characters that are not small: capitals, and white space. -/
def unmadeRuns : List CaseRun := dottedCapital :: (capitalRuns ++ blankRuns)

/-- **No capital becomes a capital or white space.** -/
theorem capitalRuns_miss {r q : CaseRun} (hr : r ∈ capitalRuns) (hq : q ∈ unmadeRuns) :
    r.misses q = true := by
  have hall : (capitalRuns.all fun r => unmadeRuns.all r.misses) = true := by decide +kernel
  exact List.all_eq_true.mp (List.all_eq_true.mp hall r hr) q hq

set_option maxRecDepth 2000 in
/-- Every capital becomes a character. -/
theorem capitalRuns_valid : ∀ r ∈ capitalRuns, 0 ≤ (r.first : Int) + r.shift ∧
    ((r.last : Int) + r.shift < 0xD800 ∨
      (0xDFFF < (r.first : Int) + r.shift ∧ (r.last : Int) + r.shift < 0x110000)) := by
  decide

theorem isBlank_iff {c : Char} : isBlank c = true ↔ ∃ q ∈ blankRuns, q.covers c.toNat = true := by
  simp only [blankRuns, List.mem_cons, List.not_mem_nil, or_false, exists_eq_or_imp,
    exists_eq_left, CaseRun.covers_iff, isBlank, Bool.or_eq_true, Bool.and_eq_true,
    decide_eq_true_eq, beq_iff_eq]
  omega

/-! ## 2. Single characters -/

/-- **The characters that lower-casing leaves alone.** -/
def IsSmall (c : Char) : Prop := ∀ q ∈ dottedCapital :: capitalRuns, q.covers c.toNat = false

instance (c : Char) : Decidable (IsSmall c) :=
  List.decidableBAll (fun q : CaseRun => q.covers c.toNat = false) _

set_option maxRecDepth 2000 in
/-- What the two special capitals become is small. -/
theorem isSmall_special : IsSmall 'σ' ∧ IsSmall 'ς' ∧ IsSmall 'i' ∧ IsSmall '\u0307' := by decide

/-- The run of the ASCII capitals. -/
def asciiCapitals : CaseRun := ⟨0x41, 0x5A, 1, 32⟩

set_option maxRecDepth 2000 in
/-- The ASCII capitals are the first run, and all others lie beyond ASCII. -/
theorem capitalRuns_eq : ∃ rest, capitalRuns = asciiCapitals :: rest ∧ ∀ r ∈ rest, 128 ≤ r.first :=
  ⟨capitalRuns.tail, rfl, by decide⟩

theorem toLower_ofNat : ∀ n < 128, (Char.ofNat n).toLower.toNat =
    if 0x41 ≤ n ∧ n ≤ 0x5A then n + 32 else n := by
  decide

theorem toLower_of_not_ascii {c : Char} (h : 128 ≤ c.toNat) : c.toLower = c := by
  unfold Char.toLower
  rw [dif_neg]
  rintro ⟨-, hlast⟩
  have hn : c.toNat ≤ 90 := UInt32.le_iff_toNat_le.mp hlast
  omega

theorem char_ext {c d : Char} (h : c.toNat = d.toNat) : c = d := by
  rw [← Char.ofNat_toNat c, h, Char.ofNat_toNat]

theorem toNat_ofNat_of_valid {n : Nat} (h : n.isValidChar) : (Char.ofNat n).toNat = n := by
  rw [Char.ofNat, dif_pos h]
  rfl

/-- **What a character is lowered to**: a run moves it, or it stays because no run covers it. -/
theorem lowerChar_cases (c : Char) :
    (∃ r ∈ capitalRuns, r.covers c.toNat = true ∧ (lowerChar c).toNat = r.move c.toNat) ∨
      ((∀ r ∈ capitalRuns, r.covers c.toNat = false) ∧ lowerChar c = c) := by
  by_cases hascii : c.toNat < 128
  · obtain ⟨rest, hrest, hfirst⟩ := capitalRuns_eq
    have hlow := toLower_ofNat c.toNat hascii
    rw [Char.ofNat_toNat] at hlow
    rw [lowerChar, if_pos hascii, hrest]
    split at hlow
    · rename_i hcapital
      refine .inl ⟨asciiCapitals, List.mem_cons_self, ?_, hlow⟩
      exact CaseRun.covers_iff.mpr ⟨hcapital.1, hcapital.2, Nat.mod_one _⟩
    · rename_i hcapital
      refine .inr ⟨fun r hr => ?_, char_ext hlow⟩
      rw [Bool.eq_false_iff, ne_eq, CaseRun.covers_iff]
      rintro ⟨hle, hge, -⟩
      rcases List.mem_cons.mp hr with rfl | hr
      · exact hcapital ⟨hle, hge⟩
      · have := hfirst r hr
        omega
  · rw [lowerChar, if_neg hascii]
    cases hfind : capitalRuns.find? (·.covers c.toNat) with
    | some r =>
      have hr := List.mem_of_find?_eq_some hfind
      have hcovers : r.covers c.toNat = true := by simpa using List.find?_some hfind
      refine .inl ⟨r, hr, hcovers, toNat_ofNat_of_valid ?_⟩
      obtain ⟨hstart, hvalid⟩ := capitalRuns_valid r hr
      obtain ⟨hle, hge, -⟩ := CaseRun.covers_iff.mp hcovers
      unfold CaseRun.move Nat.isValidChar
      omega
    | none => exact .inr ⟨fun r hr => by simpa using List.find?_eq_none.mp hfind r hr, rfl⟩

/-- **Lowering a character makes no capital and no white space.** -/
theorem covers_lowerChar {c : Char} {q : CaseRun} (hq : q ∈ unmadeRuns)
    (hc : q.covers c.toNat = false) : q.covers (lowerChar c).toNat = false := by
  rcases lowerChar_cases c with ⟨r, hr, hcovers, hmove⟩ | ⟨-, hstays⟩
  · rw [hmove]
    exact CaseRun.covers_move (capitalRuns_valid r hr).1 (capitalRuns_miss hr hq) hcovers
  · rw [hstays]
    exact hc

theorem isSmall_lowerChar {c : Char} (hc : c ≠ 'İ') : IsSmall (lowerChar c) := by
  intro q hq
  rcases List.mem_cons.mp hq with rfl | hcapital
  · refine covers_lowerChar List.mem_cons_self ?_
    rw [Bool.eq_false_iff, ne_eq, CaseRun.covers_iff]
    rintro ⟨hle, hge, -⟩
    exact hc (char_ext (Nat.le_antisymm hge hle))
  · have hunmade : q ∈ unmadeRuns := List.mem_cons_of_mem _ (List.mem_append_left _ hcapital)
    rcases lowerChar_cases c with ⟨r, hr, hcovers, hmove⟩ | ⟨hnone, hstays⟩
    · rw [hmove]
      exact CaseRun.covers_move (capitalRuns_valid r hr).1 (capitalRuns_miss hr hunmade) hcovers
    · rw [hstays]
      exact hnone q hcapital

theorem isBlank_lowerChar {c : Char} (hc : isBlank c = false) : isBlank (lowerChar c) = false := by
  rw [Bool.eq_false_iff, ne_eq, isBlank_iff] at hc ⊢
  rintro ⟨q, hq, hcovers⟩
  have hunmade : q ∈ unmadeRuns := List.mem_cons_of_mem _ (List.mem_append_right _ hq)
  have hfalse := covers_lowerChar hunmade (Bool.eq_false_iff.mpr fun h => hc ⟨q, hq, h⟩)
  rw [hfalse] at hcovers
  cases hcovers

theorem lowerChar_of_small {c : Char} (h : IsSmall c) : lowerChar c = c := by
  rcases lowerChar_cases c with ⟨r, hr, hcovers, -⟩ | ⟨-, hstays⟩
  · rw [h r (List.mem_cons_of_mem _ hr)] at hcovers
    cases hcovers
  · exact hstays

theorem not_isSmall_sigma : ¬ IsSmall capitalSigma := fun h =>
  absurd (h ⟨0x3A3, 0x3AB, 1, 32⟩ (by decide)) (by decide)

theorem not_isSmall_dottedCapital : ¬ IsSmall 'İ' := fun h =>
  absurd (h dottedCapital List.mem_cons_self) (by decide)

/-! ## 3. Whole texts -/

variable {s u : List Char}

/-- **What stands at the place of a character**: one or two small characters, and no white space
unless the character is white space. -/
theorem lowerAfter_cons (before : List Char) (c : Char) (cs : List Char) :
    ∃ ds, lowerAfter before (c :: cs) = ds ++ lowerAfter (c :: before) cs ∧ ds ≠ [] ∧
      (∀ d ∈ ds, IsSmall d) ∧ (isBlank c = false → ∀ d ∈ ds, isBlank d = false) := by
  obtain ⟨hsigma, hfinal, hi, hdot⟩ := isSmall_special
  rw [lowerAfter]
  split
  · split
    · refine ⟨['ς'], rfl, nofun, ?_, fun _ => List.forall_mem_singleton.mpr (by decide)⟩
      exact List.forall_mem_singleton.mpr hfinal
    · refine ⟨['σ'], rfl, nofun, ?_, fun _ => List.forall_mem_singleton.mpr (by decide)⟩
      exact List.forall_mem_singleton.mpr hsigma
  · split
    · have hblank : ∀ d ∈ ['i', '\u0307'], isBlank d = false :=
        List.forall_mem_cons.mpr ⟨by decide, List.forall_mem_singleton.mpr (by decide)⟩
      refine ⟨['i', '\u0307'], rfl, nofun, ?_, fun _ => hblank⟩
      exact List.forall_mem_cons.mpr ⟨hi, List.forall_mem_singleton.mpr hdot⟩
    · rename_i hdotted
      refine ⟨[lowerChar c], rfl, nofun, ?_, fun hc => ?_⟩
      · exact List.forall_mem_singleton.mpr (isSmall_lowerChar (by simpa using hdotted))
      · exact List.forall_mem_singleton.mpr (isBlank_lowerChar hc)

/-- A beginning in lower case stays as it is. -/
theorem lowerAfter_append_of_small (h : ∀ c ∈ s, IsSmall c) (before u : List Char) :
    lowerAfter before (s ++ u) = s ++ lowerAfter (s.reverse ++ before) u := by
  induction s generalizing before with
  | nil => rfl
  | cons c cs ih =>
    have hc := h c List.mem_cons_self
    have hsigma : (c == capitalSigma) = false :=
      beq_eq_false_iff_ne.mpr fun he => not_isSmall_sigma (he ▸ hc)
    have hdotted : (c == 'İ') = false :=
      beq_eq_false_iff_ne.mpr fun he => not_isSmall_dottedCapital (he ▸ hc)
    rw [List.cons_append, lowerAfter, ih fun d hd => h d (List.mem_cons_of_mem c hd)]
    simp only [hsigma, hdotted, lowerChar_of_small hc, Bool.false_eq_true, if_false,
      List.reverse_cons, List.append_assoc, List.cons_append, List.nil_append]

/-- **A text in lower case stays as it is.** -/
theorem lowerAfter_of_small (h : ∀ c ∈ s, IsSmall c) (before : List Char) :
    lowerAfter before s = s := by
  have happend := lowerAfter_append_of_small h before []
  rwa [List.append_nil, lowerAfter, List.append_nil] at happend

/-- **Lower-casing gives a text in lower case.** -/
theorem isSmall_of_mem_lowerAfter {before : List Char} :
    ∀ c ∈ lowerAfter before s, IsSmall c := by
  induction s generalizing before with
  | nil => nofun
  | cons c cs ih =>
    obtain ⟨ds, heq, -, hsmall, -⟩ := lowerAfter_cons before c cs
    rw [heq]
    exact List.forall_mem_append.mpr ⟨hsmall, ih⟩

theorem lowerAfter_append (before s u : List Char) :
    ∃ t, lowerAfter before (s ++ u) = t ++ lowerAfter (s.reverse ++ before) u ∧
      (s ≠ [] → t ≠ []) := by
  induction s generalizing before with
  | nil => exact ⟨[], rfl, fun h => h⟩
  | cons c cs ih =>
    obtain ⟨ds, hds, hne, -, -⟩ := lowerAfter_cons before c (cs ++ u)
    obtain ⟨t, ht, -⟩ := ih (c :: before)
    refine ⟨ds ++ t, ?_, fun _ h => hne (List.append_eq_nil_iff.mp h).1⟩
    rw [List.cons_append, hds, ht, List.reverse_cons, List.append_assoc, List.append_assoc]
    rfl

/-- **A text in lower case at the end of another text** is still its end when the whole is lowered,
whatever sigmas stand before it. -/
theorem lower_append_of_small (s : List Char) (hu : ∀ c ∈ u, IsSmall c) :
    ∃ t, lower (s ++ u) = t ++ u ∧ (s ≠ [] → t ≠ []) := by
  obtain ⟨t, ht, hne⟩ := lowerAfter_append [] s u
  rw [lowerAfter_of_small hu] at ht
  exact ⟨t, ht, hne⟩

theorem lowerAfter_ne_nil (before : List Char) (h : s ≠ []) : lowerAfter before s ≠ [] := by
  obtain ⟨c, cs, rfl⟩ := List.exists_cons_of_ne_nil h
  obtain ⟨ds, heq, hne, -, -⟩ := lowerAfter_cons before c cs
  rw [heq]
  exact fun h => hne (List.append_eq_nil_iff.mp h).1

/-! ## 4. White space at the end -/

theorem endsFirm_lowerAfter (h : EndsFirm s) (before : List Char) :
    EndsFirm (lowerAfter before s) := by
  induction s generalizing before with
  | nil => exact h
  | cons c cs ih =>
    obtain ⟨ds, heq, -, -, hblank⟩ := lowerAfter_cons before c cs
    rw [heq]
    intro d hd
    by_cases hcs : cs = []
    · subst hcs
      rw [lowerAfter, List.append_nil] at hd
      exact hblank (h c rfl) d (List.mem_of_getLast? hd)
    · have hrest := List.getLast?_eq_some_getLast (lowerAfter_ne_nil (c :: before) hcs)
      rw [List.getLast?_append, hrest, Option.some_or, ← hrest] at hd
      refine ih (fun e he => h e ?_) (c :: before) d hd
      rw [List.getLast?_cons, he]
      rfl

/-- White space is in lower case. -/
theorem isSmall_of_isBlank {c : Char} (h : isBlank c = true) : IsSmall c := by
  have hapart : ((dottedCapital :: capitalRuns).all fun r =>
      blankRuns.all fun q => Nat.blt r.last q.first || Nat.blt q.last r.first) = true := by
    decide
  obtain ⟨q, hq, hblank⟩ := isBlank_iff.mp h
  obtain ⟨hfirst, hlast, -⟩ := CaseRun.covers_iff.mp hblank
  intro r hr
  rw [Bool.eq_false_iff, ne_eq, CaseRun.covers_iff]
  rintro ⟨hfirst', hlast', -⟩
  have hpair := List.all_eq_true.mp (List.all_eq_true.mp hapart r hr) q hq
  rw [Bool.or_eq_true, Nat.blt_eq, Nat.blt_eq] at hpair
  omega

/-- White space at the start of a text is still there when the text is lowered. -/
theorem head?_firm_of_lower (h : ∀ c, (lower s).head? = some c → isBlank c = false) :
    ∀ c, s.head? = some c → isBlank c = false := by
  intro c hc
  cases hblank : isBlank c with
  | false => rfl
  | true =>
    obtain ⟨cs, rfl⟩ : ∃ cs, s = c :: cs := List.head?_eq_some_iff.mp hc
    have hsmall : ∀ d ∈ [c], IsSmall d := List.forall_mem_singleton.mpr (isSmall_of_isBlank hblank)
    have hlower : lower (c :: cs) = c :: lowerAfter [c] cs :=
      lowerAfter_append_of_small hsmall [] cs
    exact hblank.symm.trans (h c (by rw [hlower]; rfl))

/-- So is white space at the end. -/
theorem endsFirm_of_lower (h : EndsFirm (lower s)) : EndsFirm s := by
  intro c hc
  cases hblank : isBlank c with
  | false => rfl
  | true =>
    obtain ⟨cs, rfl⟩ := List.getLast?_eq_some_iff.mp hc
    have hsmall : ∀ d ∈ [c], IsSmall d := List.forall_mem_singleton.mpr (isSmall_of_isBlank hblank)
    obtain ⟨t, hlower, -⟩ := lower_append_of_small cs hsmall
    exact hblank.symm.trans (h c (by rw [hlower, List.getLast?_concat]))

/-! ## 5. The letter case of ASCII letters -/

/-- An ASCII letter in lower case counts as the letter itself. -/
theorem ascii_case {α : Type} (f : Char → α)
    (h : ∀ n < 0x5B, 0x41 ≤ n → f (Char.ofNat n).toLower = f (Char.ofNat n)) (c : Char) :
    f c.toLower = f c := by
  by_cases hascii : c.toNat < 128
  · by_cases hcapital : 0x41 ≤ c.toNat ∧ c.toNat ≤ 0x5A
    · have hf := h c.toNat (Nat.lt_succ_of_le hcapital.2) hcapital.1
      rwa [Char.ofNat_toNat] at hf
    · have hlow := toLower_ofNat c.toNat hascii
      rw [Char.ofNat_toNat, if_neg hcapital] at hlow
      rw [char_ext hlow]
  · rw [toLower_of_not_ascii (Nat.not_lt.mp hascii)]

theorem isCased_toLower (c : Char) : isCased c.toLower = isCased c :=
  ascii_case isCased (by decide) c

set_option maxRecDepth 2000 in
/-- No ASCII letter is case-ignorable. -/
theorem isCaseIgnorable_letter {n : Nat} (h : (0x41 ≤ n ∧ n ≤ 0x5A) ∨ (0x61 ≤ n ∧ n ≤ 0x7A)) :
    inRanges caseIgnorableRanges n = false := by
  have hapart : (caseIgnorableRanges.all fun r =>
      (Nat.blt r.2 0x41 || Nat.blt 0x5A r.1) && (Nat.blt r.2 0x61 || Nat.blt 0x7A r.1)) = true := by
    decide
  rw [Bool.eq_false_iff, ne_eq, inRanges_iff]
  rintro ⟨r, hr, hfirst, hlast⟩
  have hr' := List.all_eq_true.mp hapart r hr
  simp only [Bool.and_eq_true, Bool.or_eq_true, Nat.blt_eq] at hr'
  omega

theorem isCaseIgnorable_toLower (c : Char) : isCaseIgnorable c.toLower = isCaseIgnorable c := by
  refine ascii_case isCaseIgnorable (fun n hlast hfirst => ?_) c
  have hlow := toLower_ofNat n (by omega)
  have hvalid : (Char.ofNat n).toNat = n := toNat_ofNat_of_valid (by unfold Nat.isValidChar; omega)
  rw [if_pos (by omega)] at hlow
  rw [isCaseIgnorable, isCaseIgnorable, hlow, hvalid, isCaseIgnorable_letter (by omega),
    isCaseIgnorable_letter (by omega)]

theorem lowerChar_toLower (c : Char) : lowerChar c.toLower = lowerChar c :=
  ascii_case lowerChar (by decide) c

theorem meetsCased_map_toLower (s : List Char) : meetsCased (s.map Char.toLower) = meetsCased s := by
  have hskip : isCaseIgnorable ∘ Char.toLower = isCaseIgnorable := funext isCaseIgnorable_toLower
  rw [meetsCased, meetsCased, List.dropWhile_map, hskip]
  cases s.dropWhile isCaseIgnorable with
  | nil => rfl
  | cons c cs => exact isCased_toLower c

theorem lowerAfter_map_toLower (before s : List Char) :
    lowerAfter (before.map Char.toLower) (s.map Char.toLower) = lowerAfter before s := by
  induction s generalizing before with
  | nil => rfl
  | cons c cs ih =>
    have hsigma : (c.toLower == capitalSigma) = (c == capitalSigma) :=
      ascii_case (· == capitalSigma) (by decide) c
    have hdotted : (c.toLower == 'İ') = (c == 'İ') := ascii_case (· == 'İ') (by decide) c
    have hrest := ih (c :: before)
    rw [List.map_cons] at hrest
    rw [List.map_cons, lowerAfter, lowerAfter]
    simp only [hrest, hsigma, hdotted, meetsCased_map_toLower, lowerChar_toLower]

/-- **The letter case of ASCII letters does not matter** to what a text is lowered to. -/
theorem lower_of_ascii_case (h : s.map Char.toLower = u.map Char.toLower) : lower s = lower u := by
  have hs : lowerAfter [] (s.map Char.toLower) = lower s := lowerAfter_map_toLower [] s
  have hu : lowerAfter [] (u.map Char.toLower) = lower u := lowerAfter_map_toLower [] u
  rw [← hs, h, hu]

end SourceCheck.Text

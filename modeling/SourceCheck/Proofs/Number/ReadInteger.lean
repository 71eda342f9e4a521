import SourceCheck.Proofs.Output.Returning
import SourceCheck.Proofs.Text.Trimming
import SourceCheck.Text.Scan

/-!
# Texts of digits that write no number

A text counts as digits if every character between its outer white space is a digit of some kind.
That is a wider class than the texts that write a whole number: ornamental digits make up no number,
the information separators are white space for trimming but not around a number, and long numbers
are refused.  The theorem here says that there is nothing else between the two.

* `Number.Writes`: what a text of digits needs in order to write a number.
* `Number.returns_readInteger`: a text of digits is read exactly if it has that.
* `Position.returns_ofValue`: the same for a value of a document.
-/

namespace SourceCheck

open Text

namespace Text

/-! ## 1. Digits and white space are apart -/

/-- The information separators `\x1c` to `\x1f`. -/
def isSeparator (c : Char) : Bool := 28 ≤ c.toNat && c.toNat ≤ 31

theorem isBlank_of_isSeparator {c : Char} (h : isSeparator c = true) : isBlank c = true := by
  simp only [isSeparator, Bool.and_eq_true, decide_eq_true_eq] at h
  simp only [isBlank, Bool.or_eq_true, Bool.and_eq_true, decide_eq_true_eq, beq_iff_eq]
  omega

theorem decimalZeros_apart :
    ∀ z ∈ decimalZeros, ∀ k < 10, isBlank (Char.ofNat (z + k)) = false := by
  decide

theorem ornamentalDigitRanges_apart :
    ∀ r ∈ ornamentalDigitRanges, 127 ≤ r.1 ∧ r.2 < r.1 + 11 ∧
      ∀ k < 11, r.1 + k ≤ r.2 → isBlank (Char.ofNat (r.1 + k)) = false := by
  decide

theorem decimalZeros_ascii : ∀ z ∈ decimalZeros, z = 0x30 ∨ 127 ≤ z := by decide

/-- A decimal digit stands in the block of some script. -/
theorem isDecimal_iff {c : Char} :
    isDecimal c = true ↔ ∃ z ∈ decimalZeros, z ≤ c.toNat ∧ c.toNat < z + 10 := by
  simp [isDecimal, decimalValue?]

theorem isBlank_eq_false_of_isDigitLike {c : Char} (h : isDigitLike c = true) :
    isBlank c = false := by
  have hc : ∀ n, c.toNat = n → c = Char.ofNat n := by
    rintro n rfl
    exact (Char.ofNat_toNat c).symm
  rw [isDigitLike, Bool.or_eq_true] at h
  rcases h with h | h
  · obtain ⟨z, hz, hle, hlt⟩ := isDecimal_iff.mp h
    rw [hc (z + (c.toNat - z)) (by omega)]
    exact decimalZeros_apart z hz _ (by omega)
  · simp only [inRanges, List.any_eq_true, Bool.and_eq_true, decide_eq_true_eq] at h
    obtain ⟨r, hr, hle, hge⟩ := h
    obtain ⟨-, hwidth, hapart⟩ := ornamentalDigitRanges_apart r hr
    rw [hc (r.1 + (c.toNat - r.1)) (by omega)]
    exact hapart _ (by omega) (by omega)

theorem isDigitLike_of_isDecimal {c : Char} (h : isDecimal c = true) : isDigitLike c = true := by
  rw [isDigitLike, h, Bool.true_or]

theorem isDecimal_eq_false_of_isBlank {c : Char} (h : isBlank c = true) :
    isDecimal c = false := by
  cases hd : isDecimal c with
  | false => rfl
  | true =>
    have hb := isBlank_eq_false_of_isDigitLike (isDigitLike_of_isDecimal hd)
    rw [h] at hb
    cases hb

/-- Among the first 127 characters the digits are the ten of ASCII. -/
theorem isDecimal_ascii {c : Char} (hc : c.toNat < 127) : isDecimal c = c.isDigit := by
  rw [Bool.eq_iff_iff, isDecimal_iff, Char.isDigit_iff_toNat]
  change _ ↔ 48 ≤ c.toNat ∧ c.toNat ≤ 57
  constructor
  · rintro ⟨z, hz, hle, hlt⟩
    rcases decimalZeros_ascii z hz with rfl | hz'
    · omega
    · omega
  · rintro ⟨hle, hlt⟩
    exact ⟨0x30, by decide, by omega, by omega⟩

end Text

namespace Number

/-! ## 2. Characters as whole numbers see them -/

theorem isDigit_digitChar : ∀ d < 10, (Nat.digitChar d).isDigit = true := by decide

theorem isPadding_digitChar : ∀ d < 10, isPadding (Nat.digitChar d) = false := by decide

/-- The white space around a number is white space other than the information separators. -/
theorem isPadding_plainChar (c : Char) :
    isPadding (plainChar c) = (isBlank c && !isSeparator c) := by
  unfold plainChar
  split
  · rename_i hc
    have hspace : (c == ' ') = decide (c.toNat = 32) := by
      rw [Bool.eq_iff_iff, beq_iff_eq, decide_eq_true_eq]
      exact ⟨fun h => h ▸ rfl, fun h => Char.toNat_inj.mp h⟩
    rw [Bool.eq_iff_iff, isPadding, hspace]
    simp only [isBlank, isSeparator, Bool.or_eq_true, Bool.and_eq_true, decide_eq_true_eq,
      beq_iff_eq, Bool.not_eq_true', Bool.and_eq_false_iff, decide_eq_false_iff_not]
    omega
  · rename_i hc
    have hsep : isSeparator c = false := by
      simp only [isSeparator, Bool.and_eq_false_iff, decide_eq_false_iff_not]
      omega
    split
    · rename_i hb
      rw [hb, hsep]
      rfl
    · rename_i hb
      rw [Bool.not_eq_true] at hb
      rw [hb, Bool.false_and]
      split
      · exact isPadding_digitChar _ (decimalValue?_lt ‹_›)
      · rfl

/-- The digits of a number are the decimal digits of every script. -/
theorem isDigit_plainChar (c : Char) : (plainChar c).isDigit = isDecimal c := by
  unfold plainChar
  split
  · rename_i hc
    exact (isDecimal_ascii hc).symm
  · split
    · rename_i hb
      rw [isDecimal_eq_false_of_isBlank hb]
      rfl
    · rw [isDecimal]
      split
      · rename_i d hd
        rw [isDigit_digitChar d (decimalValue?_lt hd), hd]
        rfl
      · rename_i hd
        rw [hd]
        rfl

/-- Signs and underscores, which no digit and no blank is taken for. -/
def marks : List Char := ['_', '-', '+']

theorem digitChar_not_mark : ∀ d < 10, Nat.digitChar d ∉ marks := by decide

theorem marks_plain : ∀ mark ∈ marks, isDigitLike mark = false ∧ isBlank mark = false := by
  intro mark hmark
  simp only [marks, List.mem_cons, List.not_mem_nil, or_false] at hmark
  rcases hmark with rfl | rfl | rfl <;> decide

theorem plainChar_not_mark {c : Char} (h : isDigitLike c = true ∨ isBlank c = true) :
    plainChar c ∉ marks := by
  unfold plainChar
  split
  · intro hmark
    obtain ⟨hd, hb⟩ := marks_plain c hmark
    rw [hd, hb] at h
    rcases h with h | h <;> cases h
  · split
    · decide
    · split
      · exact digitChar_not_mark _ (decimalValue?_lt ‹_›)
      · decide

/-! ## 3. Texts without signs and underscores -/

theorem moreDigits_eq {s : List Char} (h : '_' ∉ s) : moreDigits s = some (run Char.isDigit s) := by
  induction s with
  | nil => rfl
  | cons c cs ih =>
    rw [List.mem_cons, not_or] at h
    rw [moreDigits.eq_def]
    split
    · contradiction
    · rename_i heq
      cases heq
      exact absurd rfl h.1
    · rename_i heq
      cases heq
      exact absurd rfl h.1
    · rename_i heq
      cases heq
      rw [ih h.2]
      cases hc : c.isDigit with
      | true => simp [run, hc]
      | false => simp [run, hc]

theorem digitGroup_eq {s : List Char} (h : '_' ∉ s) : digitGroup s = run? Char.isDigit s := by
  cases s with
  | nil => rfl
  | cons c cs =>
    rw [List.mem_cons, not_or] at h
    rw [digitGroup, moreDigits_eq h.2]
    cases hc : c.isDigit with
    | true => simp [run?, run, hc]
    | false => simp [run?, hc]

theorem sign_eq {s : List Char} (h : ∀ c ∈ s, c ∉ marks) : sign s = (false, s) := by
  rw [sign.eq_def]
  split
  · exact absurd (by decide) (h '-' List.mem_cons_self)
  · exact absurd (by decide) (h '+' List.mem_cons_self)
  · rfl

/-- The white space around a number, before it is made plain. -/
def isMargin (c : Char) : Bool := isBlank c && !isSeparator c

theorem margin_comp : isPadding ∘ plainChar = isMargin := funext isPadding_plainChar

theorem digit_comp : Char.isDigit ∘ plainChar = isDecimal := funext isDigit_plainChar

/-- **A text without signs and underscores is read** if it is white space, decimal digits and white
space again. -/
theorem returns_readInteger_of_unmarked {s : List Char} (h : ∀ c ∈ s, plainChar c ∉ marks) :
    Returns (readInteger s) ↔
      (s.dropWhile isMargin).takeWhile isDecimal ≠ [] ∧
      Short ((s.dropWhile isMargin).takeWhile isDecimal) ∧
      ((s.dropWhile isMargin).dropWhile isDecimal).all isMargin := by
  have hbody : (s.map plainChar).dropWhile isPadding = (s.dropWhile isMargin).map plainChar := by
    rw [List.dropWhile_map, margin_comp]
  have hmarks : ∀ c ∈ (s.dropWhile isMargin).map plainChar, c ∉ marks := by
    intro c hc
    obtain ⟨b, hb, rfl⟩ := List.mem_map.mp hc
    exact h b ((List.dropWhile_sublist _).mem hb)
  have hline : '_' ∉ (s.dropWhile isMargin).map plainChar := fun hc => hmarks _ hc (by decide)
  unfold readInteger
  simp only [hbody, sign_eq hmarks, digitGroup_eq hline, run?, run, List.takeWhile_map,
    List.dropWhile_map, digit_comp, List.map_eq_nil_iff]
  have hpad : ∀ l : List Char, (l.map plainChar).all isPadding = l.all isMargin := by
    intro l
    rw [List.all_map, margin_comp]
  generalize s.dropWhile isMargin = body
  by_cases hnil : body.takeWhile isDecimal = []
  · simp [hnil]
  · simp only [if_neg hnil, hpad, List.length_map]
    split
    · rename_i hlong
      have hnot : ¬ Short (body.takeWhile isDecimal) := Nat.not_le.mpr hlong
      simp [hnot]
    · rename_i hshort
      have hshort : Short (body.takeWhile isDecimal) := Nat.not_lt.mp hshort
      split
      · rename_i hrest
        simp [hnil, hshort, hrest]
      · rename_i hrest
        simp [hrest]

/-! ## 4. Texts of digits -/

/-- **What a text of digits needs in order to write a number**: no ornamental digits, not too many
digits, and no information separators around them. -/
structure Writes (s : List Char) : Prop where
  decimal : ∀ c ∈ trim s, isDecimal c = true
  short : Short (trim s)
  unseparated : ∀ c ∈ s, isSeparator c = false

theorem isBlank_of_isMargin {c : Char} (h : isMargin c = true) : isBlank c = true :=
  (Bool.and_eq_true_iff.mp h).1

theorem isMargin_of_isBlank {c : Char} (hb : isBlank c = true) (hs : isSeparator c = false) :
    isMargin c = true := by
  rw [isMargin, hb, hs]
  rfl

theorem isSeparator_eq_false {c : Char} (h : isMargin c = true ∨ isDecimal c = true) :
    isSeparator c = false := by
  rcases h with h | h
  · simpa using (Bool.and_eq_true_iff.mp h).2
  · cases hsep : isSeparator c with
    | false => rfl
    | true =>
      rw [isDecimal_eq_false_of_isBlank (isBlank_of_isSeparator hsep)] at h
      cases h

theorem isMargin_eq_false_of_isDecimal {c : Char} (h : isDecimal c = true) :
    isMargin c = false := by
  rw [isMargin, isBlank_eq_false_of_isDigitLike (isDigitLike_of_isDecimal h)]
  rfl

theorem dropWhile_margin {pre core post : List Char} (hpre : ∀ c ∈ pre, isMargin c = true)
    (hne : core ≠ []) (hcore : ∀ c ∈ core, isDecimal c = true) :
    (pre ++ (core ++ post)).dropWhile isMargin = core ++ post := by
  obtain ⟨d, ds, rfl⟩ := List.exists_cons_of_ne_nil hne
  have hd := isMargin_eq_false_of_isDecimal (hcore d List.mem_cons_self)
  rw [List.dropWhile_append_of_pos hpre, List.cons_append,
    List.dropWhile_cons_of_neg (by simp [hd])]

theorem digits_between {core post : List Char} (hcore : ∀ c ∈ core, isDecimal c = true)
    (hpost : ∀ c ∈ post, isMargin c = true) :
    (core ++ post).takeWhile isDecimal = core ∧ (core ++ post).dropWhile isDecimal = post := by
  rw [List.takeWhile_append_of_pos hcore, List.dropWhile_append_of_pos hcore]
  cases post with
  | nil => simp
  | cons c cs =>
    have hc := isDecimal_eq_false_of_isBlank (isBlank_of_isMargin (hpost c List.mem_cons_self))
    simp [hc]

/-- **A text that looks like digits is read** exactly if it writes a number. -/
theorem returns_readInteger {s : List Char} (h : Position.looksLikeDigits s = true) :
    Returns (readInteger s) ↔ Writes s := by
  obtain ⟨hne, hdigits⟩ : trim s ≠ [] ∧ ∀ c ∈ trim s, isDigitLike c = true := by
    simpa [Position.looksLikeDigits] using h
  obtain ⟨pre, post, hs, hpre, hpost⟩ := exists_trim s
  have hmarks : ∀ c ∈ s, plainChar c ∉ marks := by
    intro c hc
    rw [hs, List.mem_append, List.mem_append] at hc
    rcases hc with hc | hc | hc
    · exact plainChar_not_mark (.inr (hpre c hc))
    · exact plainChar_not_mark (.inl (hdigits c hc))
    · exact plainChar_not_mark (.inr (hpost c hc))
  rw [returns_readInteger_of_unmarked hmarks]
  constructor
  · rintro ⟨-, hshort, hrest⟩
    -- the three parts that are read are the margins and the digits
    have hparts : s.takeWhile isMargin ++ ((s.dropWhile isMargin).takeWhile isDecimal ++
        (s.dropWhile isMargin).dropWhile isDecimal) = s := by
      rw [List.takeWhile_append_dropWhile, List.takeWhile_append_dropWhile]
    have hleft : ∀ c ∈ s.takeWhile isMargin, isMargin c = true :=
      List.all_eq_true.mp List.all_takeWhile
    have hcore : ∀ c ∈ (s.dropWhile isMargin).takeWhile isDecimal, isDecimal c = true :=
      List.all_eq_true.mp List.all_takeWhile
    have hright := List.all_eq_true.mp hrest
    have hfirm : ∀ c ∈ (s.dropWhile isMargin).takeWhile isDecimal, isBlank c = false :=
      fun c hc => isBlank_eq_false_of_isDigitLike (isDigitLike_of_isDecimal (hcore c hc))
    have htrim : trim s = (s.dropWhile isMargin).takeWhile isDecimal :=
      (congrArg trim hparts).symm.trans <|
        trim_between (fun c hc => isBlank_of_isMargin (hleft c hc))
          (fun c hc => hfirm c (List.mem_of_mem_head? hc))
          (fun c hc => hfirm c (List.mem_of_getLast? hc))
          (fun c hc => isBlank_of_isMargin (hright c hc))
    refine ⟨htrim ▸ hcore, htrim ▸ hshort, fun c hc => isSeparator_eq_false ?_⟩
    rw [← hparts, List.mem_append, List.mem_append] at hc
    rcases hc with hc | hc | hc
    · exact .inl (hleft c hc)
    · exact .inr (hcore c hc)
    · exact .inl (hright c hc)
  · rintro ⟨hdecimal, hshort, hsep⟩
    have hmargin : ∀ l : List Char, (∀ c ∈ l, isBlank c = true) → (∀ c ∈ l, c ∈ s) →
        ∀ c ∈ l, isMargin c = true :=
      fun l hl hin c hc => isMargin_of_isBlank (hl c hc) (hsep c (hin c hc))
    have hleft := hmargin pre hpre fun c hc => by rw [hs]; simp [hc]
    have hright := hmargin post hpost fun c hc => by rw [hs]; simp [hc]
    generalize trim s = core at hs hne hdecimal hshort
    obtain ⟨htake, hdrop⟩ := digits_between hdecimal hright
    rw [hs, dropWhile_margin hleft hne hdecimal, htake, hdrop]
    exact ⟨hne, hshort, List.all_eq_true.mpr hright⟩

end Number

namespace Position

/-- **A value that gives a position**: a text of digits does so if it writes a number, any other
value does in any case. -/
def Gives : Json → Prop
  | .string s => looksLikeDigits s.toList = true → Number.Writes s.toList
  | _ => True

theorem returns_ofValue {offset : Int} {v : Json} : Returns (ofValue offset v) ↔ Gives v := by
  cases v with
  | string s =>
    rw [ofValue, Gives]
    split
    · rename_i h
      rw [returns_map, Number.returns_readInteger h]
      exact ⟨fun hw _ => hw, fun hw => hw h⟩
    · rename_i h
      exact ⟨fun _ h' => absurd h' h, fun _ => returns_ok _⟩
  | _ => simp [ofValue, Gives]

end Position

end SourceCheck

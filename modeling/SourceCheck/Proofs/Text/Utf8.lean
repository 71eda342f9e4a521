import SourceCheck.Text.Utf8

/-!
# Texts read back from their bytes

The bytes of a text decode to the text.  A character takes one to four bytes by its size, and the
decoder recognises each of the four shapes by the ranges of its bytes.

* `units_encodeChar`: the bytes of a character are read as this character.
* `decode?_encode`: the bytes of a text are read as this text.
-/

namespace SourceCheck.Text.Utf8

variable {a b c d : UInt8} {n : Nat} {rest : List UInt8}

/-! ## 1. Ranges of bytes -/

theorem below_iff {high : UInt8} : a < high ↔ a.toNat < high.toNat := UInt8.lt_iff_toNat_lt

theorem between_iff {low high : UInt8} :
    (low ≤ a && a ≤ high) = true ↔ low.toNat ≤ a.toNat ∧ a.toNat ≤ high.toNat := by
  simp only [Bool.and_eq_true, decide_eq_true_eq, UInt8.le_iff_toNat_le]

theorem equal_iff {x : UInt8} : (a == x) = true ↔ a.toNat = x.toNat := by
  rw [beq_iff_eq, UInt8.toNat_inj]

theorem isContinuation_iff : isContinuation a = true ↔ 0x80 ≤ a.toNat ∧ a.toNat ≤ 0xBF :=
  between_iff

/-- Which second bytes a first byte allows. -/
theorem secondOk_of_toNat (hb : 0x80 ≤ b.toNat ∧ b.toNat ≤ 0xBF)
    (hE0 : a.toNat = 0xE0 → 0xA0 ≤ b.toNat) (hED : a.toNat = 0xED → b.toNat ≤ 0x9F)
    (hF0 : a.toNat = 0xF0 → 0x90 ≤ b.toNat) (hF4 : a.toNat = 0xF4 → b.toNat ≤ 0x8F) :
    secondOk a b = true := by
  unfold secondOk
  split
  · rename_i h
    exact between_iff.mpr ⟨hE0 (equal_iff.mp h), hb.2⟩
  · split
    · rename_i h
      exact between_iff.mpr ⟨hb.1, hED (equal_iff.mp h)⟩
    · split
      · rename_i h
        exact between_iff.mpr ⟨hF0 (equal_iff.mp h), hb.2⟩
      · split
        · rename_i h
          exact between_iff.mpr ⟨hb.1, hF4 (equal_iff.mp h)⟩
        · exact isContinuation_iff.mpr hb

/-! ## 2. The four shapes -/

theorem units_one (ha : a.toNat = n) (hn : n ≤ 0x7F) :
    units (a :: rest) = some (Char.ofNat n) :: units rest := by
  have hfirst : a < 0x80 := below_iff.mpr (Nat.lt_of_le_of_lt (ha ▸ hn) (by decide))
  rw [units.eq_def]
  dsimp only
  rw [if_pos hfirst, ha]

/-- A byte that starts a longer sequence is none of ASCII. -/
theorem not_below (h : 0x80 ≤ a.toNat) : ¬ a < 0x80 :=
  fun hlt => Nat.not_lt.mpr h (below_iff.mp hlt)

theorem not_between {low high : UInt8} (h : high.toNat < a.toNat) :
    ¬ (low ≤ a && a ≤ high) = true :=
  fun hb => Nat.not_le.mpr h (between_iff.mp hb).2

theorem units_two (ha : a.toNat = n / 64 + 0xC0) (hb : b.toNat = n % 64 + 0x80)
    (hlow : 0x7F < n) (hhigh : n ≤ 0x7FF) :
    units (a :: b :: rest) = some (Char.ofNat n) :: units rest := by
  have h1 : ¬ a < 0x80 := not_below (by omega)
  have h2 : (0xC2 ≤ a && a ≤ 0xDF) = true :=
    between_iff.mpr (by change 0xC2 ≤ _ ∧ _ ≤ 0xDF; omega)
  have hcont : isContinuation b = true := isContinuation_iff.mpr (by omega)
  have hn : (a.toNat - 0xC0) * 64 + tailBits b = n := by
    rw [tailBits, ha, hb]
    omega
  rw [units.eq_def]
  dsimp only
  rw [if_neg h1, if_pos h2, if_pos hcont, hn]

theorem units_three (ha : a.toNat = n / 4096 + 0xE0) (hb : b.toNat = n / 64 % 64 + 0x80)
    (hc : c.toNat = n % 64 + 0x80) (hlow : 0x7FF < n) (hhigh : n ≤ 0xFFFF)
    (hvalid : n < 0xD800 ∨ 0xDFFF < n) :
    units (a :: b :: c :: rest) = some (Char.ofNat n) :: units rest := by
  have h1 : ¬ a < 0x80 := not_below (by omega)
  have h2 : ¬ (0xC2 ≤ a && a ≤ 0xDF) = true := not_between (by change 0xDF < _; omega)
  have h3 : (0xE0 ≤ a && a ≤ 0xEF) = true :=
    between_iff.mpr (by change 0xE0 ≤ _ ∧ _ ≤ 0xEF; omega)
  have hsecond : secondOk a b = true :=
    secondOk_of_toNat (by omega) (by omega) (by omega) (by omega) (by omega)
  have hcont : isContinuation c = true := isContinuation_iff.mpr (by omega)
  have hn : (a.toNat - 0xE0) * 4096 + tailBits b * 64 + tailBits c = n := by
    rw [tailBits, tailBits, ha, hb, hc]
    omega
  rw [units.eq_def]
  dsimp only
  rw [if_neg h1, if_neg h2, if_pos h3, if_pos hsecond, if_pos hcont, hn]

theorem units_four (ha : a.toNat = n / 262144 + 0xF0) (hb : b.toNat = n / 4096 % 64 + 0x80)
    (hc : c.toNat = n / 64 % 64 + 0x80) (hd : d.toNat = n % 64 + 0x80) (hlow : 0xFFFF < n)
    (hhigh : n < 0x110000) :
    units (a :: b :: c :: d :: rest) = some (Char.ofNat n) :: units rest := by
  have h1 : ¬ a < 0x80 := not_below (by omega)
  have h2 : ¬ (0xC2 ≤ a && a ≤ 0xDF) = true := not_between (by change 0xDF < _; omega)
  have h3 : ¬ (0xE0 ≤ a && a ≤ 0xEF) = true := not_between (by change 0xEF < _; omega)
  have h4 : (0xF0 ≤ a && a ≤ 0xF4) = true :=
    between_iff.mpr (by change 0xF0 ≤ _ ∧ _ ≤ 0xF4; omega)
  have hsecond : secondOk a b = true :=
    secondOk_of_toNat (by omega) (by omega) (by omega) (by omega) (by omega)
  have hthird : isContinuation c = true := isContinuation_iff.mpr (by omega)
  have hfourth : isContinuation d = true := isContinuation_iff.mpr (by omega)
  have hn : (a.toNat - 0xF0) * 262144 + tailBits b * 4096 + tailBits c * 64 + tailBits d = n := by
    rw [tailBits, tailBits, tailBits, ha, hb, hc, hd]
    omega
  rw [units.eq_def]
  dsimp only
  rw [if_neg h1, if_neg h2, if_neg h3, if_pos h4, if_pos hsecond, if_pos hthird, if_pos hfourth,
    hn]

/-! ## 3. Texts -/

theorem toNat_ofNat {j k : Nat} (h : j = k) (hk : k < 256) : (UInt8.ofNat j).toNat = k := by
  rw [UInt8.toNat_ofNat', h, Nat.mod_eq_of_lt hk]

/-- **The bytes of a character are read as this character.** -/
theorem units_encodeChar (x : Char) (rest : List UInt8) :
    units (String.utf8EncodeChar x ++ rest) = some x :: units rest := by
  have hvalid : x.val.toNat < 0xD800 ∨ (0xDFFF < x.val.toNat ∧ x.val.toNat < 0x110000) := x.valid
  have hx : some x :: units rest = some (Char.ofNat x.val.toNat) :: units rest := by
    rw [← Char.toNat, Char.ofNat_toNat]
  rw [hx, String.utf8EncodeChar]
  generalize x.val.toNat = n at hvalid
  split
  · rename_i h1
    exact units_one (toNat_ofNat rfl (by omega)) h1
  · rename_i h1
    split
    · rename_i h2
      exact units_two (toNat_ofNat (by omega) (by omega)) (toNat_ofNat rfl (by omega))
        (by omega) h2
    · rename_i h2
      split
      · rename_i h3
        exact units_three (toNat_ofNat (by omega) (by omega)) (toNat_ofNat rfl (by omega))
          (toNat_ofNat rfl (by omega)) (by omega) h3 (by omega)
      · rename_i h3
        exact units_four (toNat_ofNat (by omega) (by omega)) (toNat_ofNat rfl (by omega))
          (toNat_ofNat rfl (by omega)) (toNat_ofNat rfl (by omega)) (by omega) (by omega)

theorem units_encode (s : List Char) : units (encode s) = s.map some := by
  induction s with
  | nil => rfl
  | cons x s ih =>
    rw [encode, List.flatMap_cons, units_encodeChar, List.map_cons, ← ih]
    rfl

/-- **The bytes of a text are read as this text.** -/
theorem decode?_encode (s : List Char) : decode? (encode s) = some s := by
  rw [decode?, units_encode]
  induction s with
  | nil => rfl
  | cons x s ih => rw [List.map_cons, List.mapM_cons, ih]; rfl

end SourceCheck.Text.Utf8

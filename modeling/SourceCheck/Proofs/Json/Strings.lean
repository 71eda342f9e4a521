import SourceCheck.Json.Reader
import SourceCheck.Json.Writer

/-!
# Strings read back from documents

A string that is written into a document is read back from it, whatever its characters and whether
or not characters beyond ASCII are escaped.

* `hex_four`: the four digits of a code unit.
* `stringUnits_escapeChar`: a character is read back from its escape.
* `writeString_append`: a string is read back from its text.
-/

namespace SourceCheck.Json

/-! ## 1. Code units -/

theorem hexValue?_digitChar : ∀ k < 16, hexValue? (Nat.digitChar k) = some k := by decide

/-- A further digit of a number in hexadecimal. -/
theorem toDigits_sixteen {n : Nat} (h : 16 ≤ n) :
    Nat.toDigits 16 n = Nat.toDigits 16 (n / 16) ++ [Nat.digitChar (n % 16)] :=
  Nat.toDigits_of_base_le (by decide) h

/-- **The four hexadecimal digits of a code unit.** -/
theorem hex_four {n : Nat} (h : n < 0x10000) :
    Text.hex 4 n = [Nat.digitChar (n / 4096), Nat.digitChar (n / 256 % 16),
      Nat.digitChar (n / 16 % 16), Nat.digitChar (n % 16)] := by
  unfold Text.hex
  by_cases h1 : n < 16
  · rw [Nat.toDigits_of_lt_base h1, Nat.div_eq_of_lt (by omega : n < 4096),
      Nat.div_eq_of_lt (by omega : n < 256), Nat.div_eq_of_lt h1, Nat.mod_eq_of_lt h1]
    rfl
  · rw [toDigits_sixteen (by omega)]
    by_cases h2 : n / 16 < 16
    · rw [Nat.toDigits_of_lt_base h2, Nat.div_eq_of_lt (by omega : n < 4096),
        Nat.div_eq_of_lt (by omega : n < 256), Nat.mod_eq_of_lt h2]
      rfl
    · rw [toDigits_sixteen (by omega), Nat.div_div_eq_div_mul]
      by_cases h3 : n / 256 < 16
      · rw [Nat.toDigits_of_lt_base h3, Nat.div_eq_of_lt (by omega : n < 4096),
          Nat.mod_eq_of_lt h3]
        rfl
      · rw [toDigits_sixteen (by omega), Nat.div_div_eq_div_mul,
          Nat.toDigits_of_lt_base (by omega)]
        rfl

/-- The digits of a code unit are read as the code unit. -/
theorem hexNumber?_hex {n : Nat} (h : n < 0x10000) :
    hexNumber? (Nat.digitChar (n / 4096)) (Nat.digitChar (n / 256 % 16))
      (Nat.digitChar (n / 16 % 16)) (Nat.digitChar (n % 16)) = some n := by
  have hn : ((n / 4096 * 16 + n / 256 % 16) * 16 + n / 16 % 16) * 16 + n % 16 = n := by omega
  rw [hexNumber?, hexValue?_digitChar _ (by omega), hexValue?_digitChar _ (by omega),
    hexValue?_digitChar _ (by omega), hexValue?_digitChar _ (by omega)]
  exact congrArg some hn

/-! ## 2. Escapes -/

/-- An escape by code unit that is no half of a surrogate pair. -/
theorem stringUnits_unitEscape {n : Nat} (h : n < 0x10000)
    (hhalf : isHighSurrogate n = false ∧ isLowSurrogate n = false) (rest : List Char) :
    stringUnits (unitEscape n ++ rest) = consUnit (Char.ofNat n) (stringUnits rest) := by
  rw [unitEscape, hex_four h]
  simp only [List.cons_append, List.nil_append]
  rw [stringUnits.eq_def]
  simp [hexNumber?_hex h, hhalf]

/-- **A surrogate pair** of escapes. -/
theorem stringUnits_pairEscape {high low : Nat} (hhigh : isHighSurrogate high = true)
    (hlow : isLowSurrogate low = true) (rest : List Char) :
    stringUnits (unitEscape high ++ (unitEscape low ++ rest)) =
      consUnit (pairChar high low) (stringUnits rest) := by
  have hh : high < 0x10000 := by
    simp only [isHighSurrogate, Bool.and_eq_true, decide_eq_true_eq] at hhigh
    omega
  have hl : low < 0x10000 := by
    simp only [isLowSurrogate, Bool.and_eq_true, decide_eq_true_eq] at hlow
    omega
  rw [unitEscape, unitEscape, hex_four hh, hex_four hl]
  simp only [List.cons_append, List.nil_append]
  rw [stringUnits.eq_def]
  simp [hexNumber?_hex hh, hexNumber?_hex hl, hhigh, hlow]

/-- An escape by code point is read as the character. -/
theorem stringUnits_codeEscape (c : Char) (rest : List Char) :
    stringUnits (codeEscape c.toNat ++ rest) = consUnit c (stringUnits rest) := by
  have hvalid : c.toNat < 0xD800 ∨ (0xDFFF < c.toNat ∧ c.toNat < 0x110000) := c.valid
  have hc : Char.ofNat c.toNat = c := Char.ofNat_toNat c
  unfold codeEscape
  split
  · rename_i hn
    refine (stringUnits_unitEscape hn ?_ rest).trans (by rw [hc])
    simp only [isHighSurrogate, isLowSurrogate, Bool.and_eq_false_iff, decide_eq_false_iff_not]
    omega
  · rename_i hn
    have hpair : pairChar (0xD800 + (c.toNat - 0x10000) / 1024)
        (0xDC00 + (c.toNat - 0x10000) % 1024) = c := by
      rw [pairChar]
      have hsum : 0x10000 + (0xD800 + (c.toNat - 0x10000) / 1024 - 0xD800) * 1024 +
          (0xDC00 + (c.toNat - 0x10000) % 1024 - 0xDC00) = c.toNat := by omega
      rw [hsum, hc]
    rw [List.append_assoc, stringUnits_pairEscape, hpair]
    · simp only [isHighSurrogate, Bool.and_eq_true, decide_eq_true_eq]
      omega
    · simp only [isLowSurrogate, Bool.and_eq_true, decide_eq_true_eq]
      omega

theorem stringUnits_shortEscape {e c : Char} (h : shortEscape? e = some c) (he : e ≠ 'u')
    (rest : List Char) :
    stringUnits ('\\' :: e :: rest) = consUnit c (stringUnits rest) := by
  rw [stringUnits.eq_def]
  simp [he, h]

theorem stringUnits_plain {c : Char} (hquote : c ≠ '"') (hslash : c ≠ '\\') (hc : 32 ≤ c.toNat)
    (rest : List Char) : stringUnits (c :: rest) = consUnit c (stringUnits rest) := by
  rw [stringUnits.eq_def]
  simp [hslash, Nat.not_lt.mpr hc]

/-- **A character is read back from its escape.** -/
theorem stringUnits_escapeChar (asciiOnly : Bool) (c : Char) (rest : List Char) :
    stringUnits (escapeChar asciiOnly c ++ rest) = consUnit c (stringUnits rest) := by
  have hshort : ∀ e x : Char, (c == x) = true → shortEscape? e = some x → e ≠ 'u' →
      stringUnits (['\\', e] ++ rest) = consUnit c (stringUnits rest) := by
    intro e x hx he hu
    rw [beq_iff_eq.mp hx]
    exact stringUnits_shortEscape he hu rest
  unfold escapeChar
  split
  · exact hshort '"' '"' ‹_› rfl (by decide)
  rename_i hquote
  split
  · exact hshort '\\' '\\' ‹_› rfl (by decide)
  rename_i hslash
  split
  · exact hshort 'b' '\x08' ‹_› rfl (by decide)
  split
  · exact hshort 'f' '\x0c' ‹_› rfl (by decide)
  split
  · exact hshort 'n' '\n' ‹_› rfl (by decide)
  split
  · exact hshort 'r' '\r' ‹_› rfl (by decide)
  split
  · exact hshort 't' '\t' ‹_› rfl (by decide)
  split
  · rename_i hcontrol
    have hcode := stringUnits_codeEscape c rest
    rwa [codeEscape, if_pos (by omega)] at hcode
  rename_i hcontrol
  split
  · exact stringUnits_codeEscape c rest
  · refine stringUnits_plain ?_ ?_ (by omega) rest
    · simpa using hquote
    · simpa using hslash

/-! ## 3. Strings -/

variable {d : Dialect}

/-- The characters of a string are read back up to the closing quote. -/
theorem stringUnits_escaped (asciiOnly : Bool) (s rest : List Char) :
    stringUnits (s.flatMap (escapeChar asciiOnly) ++ '"' :: rest) = .ok (s.map some, rest) := by
  induction s with
  | nil => rfl
  | cons c s ih =>
    rw [List.flatMap_cons, List.append_assoc, stringUnits_escapeChar, ih]
    rfl

/-- Units that are characters are a text in every dialect. -/
theorem textOf_map_some (s : List Char) : d.textOf (s.map some) = .ok s := by
  rw [Dialect.textOf, if_pos (by simp), List.filterMap_map]
  simp

/-- **A string is read back from its text** behind the opening quote. -/
theorem writeString_append (asciiOnly : Bool) (s : String) (rest : List Char) :
    ∃ body, writeString asciiOnly s ++ rest = '"' :: body ∧
      stringBody d body = .ok (s.toList, rest) := by
  refine ⟨s.toList.flatMap (escapeChar asciiOnly) ++ '"' :: rest, by simp [writeString], ?_⟩
  rw [stringBody, stringUnits_escaped]
  dsimp only
  rw [textOf_map_some]
  rfl

end SourceCheck.Json

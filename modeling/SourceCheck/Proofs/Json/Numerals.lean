import SourceCheck.Json.Reader
import SourceCheck.Json.Writer

/-!
# Numbers and words read back from documents

What a number is read as does not depend on what follows it, so long as that could not go on with
the number; inside a document a comma, a bracket or a line feed follows.  So a numeral that is read
back by itself is read back wherever it stands.

* `Delimited`: a text that cannot go on with a number.
* `scalar_append`: a word or a number is read in front of such a text as it is by itself.
* `scalar_int`: a whole number is read back from its numeral.
-/

namespace SourceCheck.Json

open Number (Binary64)
open Text (run)

/-! ## 1. What ends a number -/

/-- Characters with which a number can go on. -/
def continuesNumber (c : Char) : Bool := c.isDigit || c ∈ ['.', 'e', 'E', '+', '-']

/-- **A text that cannot go on with a number.** -/
def Delimited (rest : List Char) : Prop := ∀ c ∈ rest.head?, continuesNumber c = false

theorem delimited_nil : Delimited [] := by simp [Delimited]

theorem delimited_cons {c : Char} {rest : List Char} :
    Delimited (c :: rest) ↔ continuesNumber c = false := by
  simp [Delimited]

/-- A run in front of a text that cannot go on with it. -/
theorem run_append_of_not {p : Char → Bool} {rest : List Char}
    (h : ∀ c ∈ rest.head?, p c = false) (s : List Char) :
    (s ++ rest).takeWhile p = s.takeWhile p ∧ (s ++ rest).dropWhile p = s.dropWhile p ++ rest := by
  induction s with
  | nil =>
    cases rest with
    | nil => simp
    | cons c cs =>
      have hc : p c = false := h c (by simp)
      simp [hc]
  | cons a s ih =>
    cases ha : p a with
    | true => simp [ha, ih]
    | false => simp [ha]

variable {d : Dialect} {rest : List Char}

theorem run_digits_append (h : Delimited rest) (s : List Char) :
    (s ++ rest).takeWhile Char.isDigit = s.takeWhile Char.isDigit ∧
      (s ++ rest).dropWhile Char.isDigit = s.dropWhile Char.isDigit ++ rest := by
  refine run_append_of_not (fun c hc => ?_) s
  have := h c hc
  rw [continuesNumber, Bool.or_eq_false_iff] at this
  exact this.1

/-! ## 2. The parts of a number -/

theorem wholePart_of_ne_zero {c : Char} {cs : List Char} (h : c ≠ '0') :
    wholePart (c :: cs) =
      if (c :: cs).takeWhile Char.isDigit = [] then none
      else some (run Char.isDigit (c :: cs)) := by
  rw [wholePart.eq_def]
  split
  · rename_i heq
    cases heq
    exact absurd rfl h
  · rfl

theorem wholePart_append (h : Delimited rest) {s whole r : List Char}
    (hs : wholePart s = some (whole, r)) : wholePart (s ++ rest) = some (whole, r ++ rest) := by
  cases s with
  | nil => cases hs
  | cons c cs =>
    by_cases hc : c = '0'
    · subst hc
      cases hs
      rfl
    · obtain ⟨htake, hdrop⟩ := run_digits_append h (c :: cs)
      rw [List.cons_append] at htake hdrop
      rw [wholePart_of_ne_zero hc] at hs
      rw [List.cons_append, wholePart_of_ne_zero hc, run, htake, hdrop]
      split at hs
      · cases hs
      · rename_i hne
        cases hs
        rw [if_neg hne]

theorem fractionPart_of_ne_point {c : Char} {cs : List Char} (h : c ≠ '.') :
    fractionPart (c :: cs) = ([], c :: cs) := by
  rw [fractionPart.eq_def]
  split
  · rename_i heq
    cases heq
    exact absurd rfl h
  · rfl

theorem ne_of_continuesNumber {c x : Char} (h : continuesNumber c = false)
    (hx : continuesNumber x = true) : c ≠ x := by
  rintro rfl
  rw [h] at hx
  cases hx

theorem fractionPart_append (h : Delimited rest) (s : List Char) :
    fractionPart (s ++ rest) = ((fractionPart s).1, (fractionPart s).2 ++ rest) := by
  cases s with
  | nil =>
    cases rest with
    | nil => rfl
    | cons c cs =>
      exact fractionPart_of_ne_point (ne_of_continuesNumber (delimited_cons.mp h) (by decide))
  | cons c cs =>
    by_cases hc : c = '.'
    · subst hc
      obtain ⟨htake, hdrop⟩ := run_digits_append h cs
      simp only [List.cons_append, fractionPart, htake, run, hdrop]
      split <;> rfl
    · rw [List.cons_append, fractionPart_of_ne_point hc, fractionPart_of_ne_point hc]
      rfl

theorem sign_of_ne {c : Char} {cs : List Char} (hminus : c ≠ '-') (hplus : c ≠ '+') :
    Number.sign (c :: cs) = (false, c :: cs) := by
  rw [Number.sign.eq_def]
  split
  · rename_i heq
    cases heq
    exact absurd rfl hminus
  · rename_i heq
    cases heq
    exact absurd rfl hplus
  · rfl

theorem sign_append (h : Delimited rest) (s : List Char) :
    Number.sign (s ++ rest) = ((Number.sign s).1, (Number.sign s).2 ++ rest) := by
  cases s with
  | nil =>
    cases rest with
    | nil => rfl
    | cons c cs =>
      have hminus : c ≠ '-' := ne_of_continuesNumber (delimited_cons.mp h) (by decide)
      have hplus : c ≠ '+' := ne_of_continuesNumber (delimited_cons.mp h) (by decide)
      exact sign_of_ne hminus hplus
  | cons c cs =>
    by_cases hminus : c = '-'
    · subst hminus
      rfl
    · by_cases hplus : c = '+'
      · subst hplus
        rfl
      · rw [List.cons_append, sign_of_ne hminus hplus, sign_of_ne hminus hplus]
        rfl

theorem exponentPart_append (h : Delimited rest) (s : List Char) :
    exponentPart (s ++ rest) = ((exponentPart s).1, (exponentPart s).2 ++ rest) := by
  cases s with
  | nil =>
    cases rest with
    | nil => rfl
    | cons c cs =>
      have he : c ≠ 'e' := ne_of_continuesNumber (delimited_cons.mp h) (by decide)
      have hE : c ≠ 'E' := ne_of_continuesNumber (delimited_cons.mp h) (by decide)
      simp [exponentPart, he, hE]
  | cons c cs =>
    obtain ⟨htake, hdrop⟩ := run_digits_append h (Number.sign cs).2
    simp only [List.cons_append, exponentPart, sign_append h, run, htake, hdrop]
    by_cases he : (c == 'e' || c == 'E') = true
    · by_cases hnil : (Number.sign cs).2.takeWhile Char.isDigit = [] <;> simp [he, hnil]
    · simp [he]

/-- **A number is read in front of a text that cannot go on with it** as it is by itself. -/
theorem numberBody_append (h : Delimited rest) {negative : Bool} {s r : List Char} {v : Json}
    (hs : numberBody d negative s = .ok (v, r)) :
    numberBody d negative (s ++ rest) = .ok (v, r ++ rest) := by
  unfold numberBody at hs ⊢
  cases hw : wholePart s with
  | none =>
    rw [hw] at hs
    cases hs
  | some whole =>
    obtain ⟨whole, r₁⟩ := whole
    rcases hf : fractionPart r₁ with ⟨fraction, r₂⟩
    rcases he : exponentPart r₂ with ⟨exponent, r₃⟩
    have hf' : fractionPart (r₁ ++ rest) = (fraction, r₂ ++ rest) := by
      rw [fractionPart_append h, hf]
    have he' : exponentPart (r₂ ++ rest) = (exponent, r₃ ++ rest) := by
      rw [exponentPart_append h, he]
    simp only [hw, hf, he] at hs
    simp only [wholePart_append h hw, hf', he']
    split at hs
    · cases hs
    · rename_i hlong
      rw [if_neg hlong]
      split at hs
      · rename_i hint
        cases hs
        rw [if_pos hint]
      · rename_i hint
        cases hs
        rw [if_neg hint]

/-! ## 3. Words and numbers -/

/-- The first fixed word that a text starts with. -/
def word? (s : List Char) : Option (Json × List Char) :=
  words.findSome? fun w => (Text.afterWord w.1 s).map fun r => (w.2, r)

/-- A word is the first that a text starts with, for no word starts with another. -/
theorem word?_append {w : String × Json} (hw : w ∈ words) (r : List Char) :
    word? (w.1.toList ++ r) = some (w.2, r) := by
  simp only [words, List.mem_cons, List.not_mem_nil, or_false] at hw
  rcases hw with rfl | rfl | rfl | rfl | rfl | rfl <;> rfl

theorem exists_word {s r : List Char} {v : Json} (hs : word? s = some (v, r)) :
    ∃ w ∈ words, s = w.1.toList ++ r ∧ v = w.2 := by
  obtain ⟨w, hw, hsome⟩ := List.exists_of_findSome?_eq_some hs
  obtain ⟨r', hr, heq⟩ := Option.map_eq_some_iff.mp hsome
  cases heq
  exact ⟨w, hw, Text.after_eq_some_iff.mp hr, rfl⟩

theorem scalar_eq (d : Dialect) (s : List Char) :
    scalar d s = match word? s with
      | some r => .ok r
      | none => match s with
        | '-' :: cs => numberBody d true cs
        | cs => numberBody d false cs :=
  rfl

/-- A word is read wherever it stands. -/
theorem scalar_word {w : String × Json} (hw : w ∈ words) (r : List Char) :
    scalar d (w.1.toList ++ r) = .ok (w.2, r) := by
  rw [scalar_eq, word?_append hw]

theorem exists_digit_of_wholePart {s whole r : List Char} (hs : wholePart s = some (whole, r)) :
    ∃ c cs, s = c :: cs ∧ c.isDigit = true := by
  cases s with
  | nil => cases hs
  | cons c cs =>
    refine ⟨c, cs, rfl, ?_⟩
    by_cases hc : c = '0'
    · subst hc
      rfl
    · rw [wholePart_of_ne_zero hc] at hs
      split at hs
      · cases hs
      · rename_i hne
        cases hdigit : c.isDigit with
        | true => rfl
        | false => exact absurd (List.takeWhile_cons_of_neg (by simp [hdigit])) hne

theorem exists_digit_of_numberBody {negative : Bool} {s r : List Char} {v : Json}
    (hs : numberBody d negative s = .ok (v, r)) : ∃ c cs, s = c :: cs ∧ c.isDigit = true := by
  unfold numberBody at hs
  cases hw : wholePart s with
  | none =>
    rw [hw] at hs
    cases hs
  | some whole => exact exists_digit_of_wholePart hw

/-- A digit starts no word, not even behind a minus sign. -/
theorem word?_digit {c : Char} (hc : c.isDigit = true) (cs : List Char) :
    word? (c :: cs) = none ∧ word? ('-' :: c :: cs) = none := by
  constructor
  · cases h : word? (c :: cs) with
    | none => rfl
    | some x =>
      obtain ⟨w, hw, hs, -⟩ := exists_word h
      simp only [words, List.mem_cons, List.not_mem_nil, or_false] at hw
      rcases hw with rfl | rfl | rfl | rfl | rfl | rfl <;> cases hs <;> cases hc
  · cases h : word? ('-' :: c :: cs) with
    | none => rfl
    | some x =>
      obtain ⟨w, hw, hs, -⟩ := exists_word h
      simp only [words, List.mem_cons, List.not_mem_nil, or_false] at hw
      rcases hw with rfl | rfl | rfl | rfl | rfl | rfl <;> cases hs
      cases hc

/-- The minus sign in front of a negative number. -/
def minus (negative : Bool) : List Char := if negative then ['-'] else []

/-- **A number is read with its sign.** -/
theorem scalar_number {negative : Bool} {s r : List Char} {v : Json}
    (hs : numberBody d negative s = .ok (v, r)) : scalar d (minus negative ++ s) = .ok (v, r) := by
  obtain ⟨c, cs, rfl, hc⟩ := exists_digit_of_numberBody hs
  obtain ⟨hword, hminus⟩ := word?_digit hc cs
  cases negative with
  | true =>
    rw [scalar_eq, minus, if_pos rfl]
    simp only [List.cons_append, List.nil_append, hminus]
    exact hs
  | false =>
    rw [scalar_eq, minus, if_neg Bool.false_ne_true, List.nil_append, hword]
    dsimp only
    split
    · rename_i heq
      cases heq
      cases hc
    · exact hs

/-- **What is read as a scalar is a word, or a number with its sign.** -/
theorem scalar_cases {s r : List Char} {v : Json} (hs : scalar d s = .ok (v, r)) :
    (∃ w ∈ words, s = w.1.toList ++ r ∧ v = w.2) ∨
      ∃ negative body, s = minus negative ++ body ∧ numberBody d negative body = .ok (v, r) := by
  rw [scalar_eq] at hs
  cases hword : word? s with
  | some x =>
    rw [hword] at hs
    cases hs
    exact .inl (exists_word hword)
  | none =>
    rw [hword] at hs
    dsimp only at hs
    split at hs
    · exact .inr ⟨true, _, rfl, hs⟩
    · exact .inr ⟨false, _, rfl, hs⟩

/-- **A word or a number is read in front of a text that cannot go on with it** as it is by
itself. -/
theorem scalar_append (h : Delimited rest) {s r : List Char} {v : Json}
    (hs : scalar d s = .ok (v, r)) : scalar d (s ++ rest) = .ok (v, r ++ rest) := by
  rcases scalar_cases hs with ⟨w, hw, rfl, rfl⟩ | ⟨negative, body, rfl, hbody⟩
  · rw [List.append_assoc]
    exact scalar_word hw _
  · rw [List.append_assoc]
    exact scalar_number (numberBody_append h hbody)

/-- Characters that start a word or a number. -/
def startsScalar (c : Char) : Bool := c.isDigit || c ∈ ['-', 'n', 't', 'f', 'N', 'I']

theorem exists_head_of_scalar {s r : List Char} {v : Json} (hs : scalar d s = .ok (v, r)) :
    ∃ c cs, s = c :: cs ∧ startsScalar c = true := by
  rcases scalar_cases hs with ⟨w, hw, rfl, rfl⟩ | ⟨negative, body, rfl, hbody⟩
  · simp only [words, List.mem_cons, List.not_mem_nil, or_false] at hw
    rcases hw with rfl | rfl | rfl | rfl | rfl | rfl <;> exact ⟨_, _, rfl, by decide⟩
  · obtain ⟨c, cs, rfl, hc⟩ := exists_digit_of_numberBody hbody
    cases negative with
    | true => exact ⟨'-', _, rfl, by decide⟩
    | false => exact ⟨c, cs, rfl, by rw [startsScalar, hc, Bool.true_or]⟩

/-- What starts a word or a number is no white space and no mark of a string, an array or an
object. -/
theorem startsScalar_plain {c : Char} (h : startsScalar c = true) :
    c ∉ [' ', '\t', '\n', '\r', '"', '[', ']', '\x7b', '\x7d'] := by
  have hnot : [' ', '\t', '\n', '\r', '"', '[', ']', '\x7b', '\x7d'].all
      (fun x => !startsScalar x) = true := by
    decide
  intro hc
  have hfalse := List.all_eq_true.mp hnot c hc
  rw [h] at hfalse
  cases hfalse

/-! ## 4. Whole numbers -/

theorem decimalValue?_digitChar : ∀ k < 10, Text.decimalValue? (Nat.digitChar k) = some k := by
  decide

theorem decimalNumber_append {s : List Char} {k : Nat} (hk : k < 10) :
    Text.decimalNumber (s ++ [Nat.digitChar k]) = 10 * Text.decimalNumber s + k := by
  rw [Text.decimalNumber, List.foldl_append, List.foldl_cons, List.foldl_nil,
    decimalValue?_digitChar k hk]
  rfl

/-- **The digits of a number write it.** -/
theorem decimalNumber_toDigits (n : Nat) : Text.decimalNumber (Nat.toDigits 10 n) = n := by
  induction n using Nat.strongRecOn with
  | ind n ih =>
    by_cases h : n < 10
    · rw [Nat.toDigits_of_lt_base h, ← List.nil_append [_], decimalNumber_append h]
      exact Nat.zero_add n
    · rw [Nat.toDigits_of_base_le (by decide) (by omega), decimalNumber_append (by omega),
        ih (n / 10) (by omega)]
      omega

theorem isDigit_of_mem_toDigits {n : Nat} : ∀ c ∈ Nat.toDigits 10 n, c.isDigit = true :=
  fun _ hc => Nat.isDigit_of_mem_toDigits (by decide) (by decide) hc

/-- The digits of a number do not start with a zero unless it is zero. -/
theorem exists_head_toDigits {n : Nat} (hn : 0 < n) :
    ∃ c cs, Nat.toDigits 10 n = c :: cs ∧ c ≠ '0' := by
  induction n using Nat.strongRecOn with
  | ind n ih =>
    by_cases h : n < 10
    · exact ⟨_, [], Nat.toDigits_of_lt_base h, fun hc => by
        rw [Nat.digitChar_eq_zero] at hc
        omega⟩
    · obtain ⟨c, cs, hcs, hc⟩ := ih (n / 10) (by omega) (by omega)
      rw [Nat.toDigits_of_base_le (by decide) (by omega), hcs]
      exact ⟨c, _, rfl, hc⟩

theorem wholePart_toDigits (n : Nat) :
    wholePart (Nat.toDigits 10 n) = some (Nat.toDigits 10 n, []) := by
  by_cases hn : n = 0
  · subst hn
    rfl
  · have hall := isDigit_of_mem_toDigits (n := n)
    obtain ⟨c, cs, hcs, hc⟩ := exists_head_toDigits (Nat.pos_of_ne_zero hn)
    rw [hcs] at hall ⊢
    have htake := @List.takeWhile_append_of_pos _ _ (c :: cs) [] hall
    have hdrop := @List.dropWhile_append_of_pos _ _ (c :: cs) [] hall
    rw [List.append_nil, List.takeWhile_nil, List.append_nil] at htake
    rw [List.append_nil, List.dropWhile_nil] at hdrop
    rw [wholePart_of_ne_zero hc, run, htake, hdrop, if_neg (by simp)]

/-- The magnitude of a whole number is read back, unless it has too many digits. -/
theorem numberBody_toDigits {negative : Bool} {n : Nat}
    (hfits : d.refuses negative true (Nat.toDigits 10 n).length = false) :
    numberBody d negative (Nat.toDigits 10 n) =
      .ok (.int (if negative then -(n : Int) else n), []) := by
  unfold numberBody
  rw [wholePart_toDigits]
  simp [fractionPart, exponentPart, hfits, decimalNumber_toDigits]

theorem toList_toString (n : Int) :
    (toString n).toList = minus (decide (n < 0)) ++ Nat.toDigits 10 n.natAbs := by
  rw [Int.toString_eq_repr, Int.repr_eq_if]
  by_cases hn : n < 0
  · rw [if_neg (by omega), decide_eq_true hn, String.toList_append, Nat.toList_repr,
      show (-n).toNat = n.natAbs by omega]
    rfl
  · rw [if_pos (by omega), decide_eq_false hn, Nat.toList_repr, show n.toNat = n.natAbs by omega]
    rfl

/-- **A whole number is read back**, unless it has too many digits. -/
theorem scalar_int {n : Int}
    (hfits : d.refuses (decide (n < 0)) true (Nat.toDigits 10 n.natAbs).length = false) :
    scalar d (toString n).toList = .ok (.int n, []) := by
  rw [toList_toString, scalar_number (numberBody_toDigits hfits)]
  congr 3
  by_cases hn : n < 0
  · rw [decide_eq_true hn, if_pos rfl]
    omega
  · rw [decide_eq_false hn, if_neg Bool.false_ne_true]
    omega

end SourceCheck.Json

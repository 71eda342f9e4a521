import Mathlib.Data.List.TakeWhile
import SourceCheck.Proofs.Json.Numerals
import SourceCheck.Proofs.Number.ReadInteger
import SourceCheck.Proofs.Text.Lines

/-!
# Lines as tools write them

A tool writes a finding part by part: a path, the digits of a position, a severity, a message.  Each
part is read back if what is written behind it could not go on with it.  Two parts take more than
that: a path whose end nothing marks needs every shorter reading to fail, and the digits of a
position must not be too many.

* `run?_before`, `digits?_before`: a part is taken off up to its end.
* `shortest_append`: so is one that is told from what follows.
* `cut_at_colon`: where a text is cut at a colon.
* `Numeral`: the digits of some number, in any script.
* `Position.ofDigits_digits`: a position is read back from its digits.
-/

namespace SourceCheck

open Text

namespace Text

variable {α : Type} {p : Char → Bool} {read : List Char → Option α} {a : α} {c : Char}
  {s ds rest b : List Char}

/-! ## 1. Parts that are taken off -/

theorem afterWord_append (lit : String) (rest : List Char) :
    afterWord lit (lit.toList ++ rest) = some rest :=
  after_append lit.toList rest

theorem of_afterWord {lit : String} (h : afterWord lit s = some rest) : s = lit.toList ++ rest :=
  after_eq_some_iff.mp h

theorem isSome_afterWord_iff {lit : String} :
    (afterWord lit s).isSome = true ↔ lit.toList <+: s := by
  rw [Option.isSome_iff_exists]
  constructor
  · rintro ⟨r, hr⟩
    exact ⟨r, (of_afterWord hr).symm⟩
  · rintro ⟨r, rfl⟩
    exact ⟨r, afterWord_append lit r⟩

/-- The word that is found among some words, and where. -/
theorem of_oneOf {words : List String} {word : String} (h : oneOf words s = some (word, rest)) :
    word ∈ words ∧ s = word.toList ++ rest := by
  obtain ⟨w, hw, hfound⟩ := List.exists_of_findSome?_eq_some h
  obtain ⟨rest', hrest, heq⟩ := Option.map_eq_some_iff.mp hfound
  obtain ⟨rfl, rfl⟩ := Prod.mk.inj heq
  exact ⟨hw, of_afterWord hrest⟩

/-- **A run is taken off up to its end**, where a character of another class follows. -/
theorem run?_append (hne : ds ≠ []) (hds : ∀ c ∈ ds, p c = true)
    (hrest : ∀ c ∈ rest.head?, p c = false) : run? p (ds ++ rest) = some (ds, rest) := by
  obtain ⟨htake, hdrop⟩ := Json.run_append_of_not hrest ds
  have htaken : (ds ++ rest).takeWhile p = ds := htake.trans (List.takeWhile_eq_self_iff.mpr hds)
  have hdropped : (ds ++ rest).dropWhile p = rest := by
    rw [hdrop, List.dropWhile_eq_nil_iff.mpr hds, List.nil_append]
  rw [run?, run, htaken, hdropped, if_neg hne]

/-- A run that is taken off is there, and all of it is of the class. -/
theorem of_run? (h : run? p s = some (ds, rest)) :
    s = ds ++ rest ∧ ds ≠ [] ∧ ∀ c ∈ ds, p c = true := by
  refine ⟨run?_eq_some_append h, ?_⟩
  rw [run?] at h
  split at h
  · cases h
  · rename_i hne
    obtain ⟨rfl, -⟩ := Prod.mk.inj (Option.some.inj h)
    exact ⟨hne, fun c hc => List.mem_takeWhile_imp hc⟩

theorem bne_of_not_mem (h : c ∉ s) : ∀ d ∈ s, (d != c) = true := by
  intro d hd
  rw [bne_iff_ne]
  rintro rfl
  exact h hd

/-- A run that a fixed text ends. -/
theorem run?_before (hne : ds ≠ []) (hds : ∀ c ∈ ds, p c = true) (lit : String)
    (hlit : lit.toList.head?.map p = some false) (r : List Char) :
    run? p (ds ++ (lit.toList ++ r)) = some (ds, lit.toList ++ r) := by
  obtain ⟨c, hhead, hc⟩ := Option.map_eq_some_iff.mp hlit
  obtain ⟨cs, hcs⟩ := List.head?_eq_some_iff.mp hhead
  refine run?_append hne hds fun d hd => ?_
  rw [hcs, List.cons_append, List.head?_cons] at hd
  rwa [← Option.some.inj hd]

/-- **A beginning whose end nothing marks** is told from what follows if no shorter one leaves
something that can be read. -/
theorem shortest_append (hne : b ≠ []) (hread : read rest = some a)
    (hleast : ∀ b' q, b = b' ++ q → b' ≠ [] → q ≠ [] → read (q ++ rest) = none) :
    shortest read (b ++ rest) = some (b, a) := by
  induction b with
  | nil => exact absurd rfl hne
  | cons c b ih =>
    rw [List.cons_append, shortest]
    by_cases hb : b = []
    · rw [hb, List.nil_append, hread]
    · have hnone : read (b ++ rest) = none := hleast [c] b rfl (List.cons_ne_nil c []) hb
      have hshorter : shortest read (b ++ rest) = some (b, a) := by
        refine ih hb fun b' q hq _ => hleast (c :: b') q ?_ (List.cons_ne_nil c b')
        rw [hq, List.cons_append]
      rw [hnone, hshorter]
      rfl

/-- A text that is cut at a colon, behind another that has none: the colon is the one in view, or
one before it. -/
theorem cut_at_colon {q T D U : List Char} (hD : ':' ∉ D) (h : q ++ ':' :: T = D ++ ':' :: U) :
    (q = D ∧ T = U) ∨ ∃ v, q = D ++ ':' :: v ∧ U = v ++ ':' :: T := by
  rcases List.append_eq_append_iff.mp h with ⟨gap, rfl, hgap⟩ | ⟨gap, rfl, hgap⟩
  · cases gap with
    | nil =>
      rw [List.nil_append] at hgap
      exact .inl ⟨(List.append_nil q).symm, (List.cons.inj hgap).2⟩
    | cons c gap =>
      obtain ⟨rfl, -⟩ := List.cons.inj hgap
      exact absurd (List.mem_append_right q List.mem_cons_self) hD
  · cases gap with
    | nil =>
      rw [List.nil_append] at hgap
      exact .inl ⟨List.append_nil D, (List.cons.inj hgap).2.symm⟩
    | cons c gap =>
      obtain ⟨rfl, hU⟩ := List.cons.inj hgap
      exact .inr ⟨gap, rfl, hU⟩

/-! ## 2. Numerals -/

/-- **The digits of some number**, in any script. -/
def Numeral (ds : List Char) : Prop := ds ≠ [] ∧ ∀ c ∈ ds, isDecimal c = true

instance (ds : List Char) : Decidable (Numeral ds) :=
  have : Decidable (∀ c ∈ ds, isDecimal c = true) :=
    List.decidableBAll (fun c => isDecimal c = true) ds
  inferInstanceAs (Decidable (ds ≠ [] ∧ _))

theorem digits?_before (hds : Numeral ds) (lit : String)
    (hlit : lit.toList.head?.map isDecimal = some false) (r : List Char) :
    digits? (ds ++ (lit.toList ++ r)) = some (ds, lit.toList ++ r) :=
  run?_before hds.1 hds.2 lit hlit r

/-- What a run of digits takes off is a numeral. -/
theorem numeral_of_digits? (h : digits? s = some (ds, rest)) : s = ds ++ rest ∧ Numeral ds :=
  of_run? h

theorem isBlank_of_isLineBreak (h : isLineBreak c = true) : isBlank c = true := by
  simp only [isLineBreak, Bool.or_eq_true, Bool.and_eq_true, decide_eq_true_eq, beq_iff_eq] at h
  simp only [isBlank, Bool.or_eq_true, Bool.and_eq_true, decide_eq_true_eq, beq_iff_eq]
  omega

/-- Digits are no white space. -/
theorem Numeral.isBlank_eq_false (h : Numeral ds) : ∀ c ∈ ds, isBlank c = false := by
  intro c hc
  exact isBlank_eq_false_of_isDigitLike (isDigitLike_of_isDecimal (h.2 c hc))

theorem Numeral.unbroken (h : Numeral ds) : Unbroken ds := by
  intro c hc
  rw [Bool.eq_false_iff]
  intro hbreak
  have hblank := isBlank_of_isLineBreak hbreak
  rw [h.isBlank_eq_false c hc] at hblank
  cases hblank

/-- Digits have no white space around them. -/
theorem Numeral.trim_eq (h : Numeral ds) : trim ds = ds := trim_of_no_blank h.isBlank_eq_false

/-- A character that is no digit does not occur in a numeral. -/
theorem Numeral.notMem (h : Numeral ds) (hc : isDecimal c = false) : c ∉ ds := by
  intro hmem
  rw [h.2 c hmem] at hc
  cases hc

/-- Digits start with a digit. -/
theorem Numeral.append_ne_cons {X R : List Char} (h : Numeral ds) (hc : isDecimal c = false) :
    ds ++ X ≠ c :: R := by
  obtain ⟨d, cs, rfl⟩ := List.exists_cons_of_ne_nil h.1
  intro heq
  obtain ⟨rfl, -⟩ := List.cons.inj heq
  exact h.notMem hc List.mem_cons_self

/-- Digits do not start with a space. -/
theorem Numeral.append_ne_space {X R : List Char} (h : Numeral ds) : ds ++ X ≠ ' ' :: R :=
  h.append_ne_cons (by decide)

theorem numeral_toDigits (n : Nat) : Numeral (Nat.toDigits 10 n) := by
  refine ⟨Nat.toDigits_ne_nil, fun c hc => ?_⟩
  have hdigit := Json.isDigit_of_mem_toDigits c hc
  have hascii : c.toNat < 127 := by
    rw [Char.isDigit_iff_toNat] at hdigit
    change 48 ≤ c.toNat ∧ c.toNat ≤ 57 at hdigit
    omega
  rw [isDecimal_ascii hascii, hdigit]

end Text

/-! ## 3. Positions -/

namespace Position

variable {p : Position}

/-- The digits of a position. -/
def digits (p : Position) : List Char := Nat.toDigits 10 p.value

theorem numeral_digits (p : Position) : Numeral p.digits := numeral_toDigits p.value

/-- **A position is read back from its digits**, unless there are too many of them. -/
theorem ofDigits_digits (h : Short p.digits) : ofDigits p.digits = .ok p := by
  have hread : Number.readNumber p.digits = .ok p.value := by
    rw [Number.readNumber, if_neg (Nat.not_lt.mpr h), digits, Json.decimalNumber_toDigits]
  rw [ofDigits, hread, Except.map, ofNat_value]

/-- **So is a position that may be left out.** -/
theorem ofDigits?_digits {position : Option Position} (h : ∀ p ∈ position, Short p.digits) :
    ofDigits? (position.map digits) = .ok (position.getD .first) := by
  cases position with
  | none => rfl
  | some p => exact ofDigits_digits (h p rfl)

end Position

end SourceCheck

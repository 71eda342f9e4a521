import SourceCheck.Proofs.Json.Numerals

/-!
# Documents without control characters

Control characters are escaped inside strings, and a document on one line has none anywhere else.
So whatever texts a document holds, its own text can stand where a control character would mean
something.

* `Printable`: a text without control characters.
* `printable_writeString`: a string.
* `printable_write`: a document on one line.
-/

namespace SourceCheck.Json

/-- **A text without control characters.** -/
def Printable (s : List Char) : Prop := ∀ c ∈ s, 32 ≤ c.toNat

instance (s : List Char) : Decidable (Printable s) :=
  List.decidableBAll (fun c : Char => 32 ≤ c.toNat) s

variable {s u : List Char} {l : Layout}

@[simp] theorem printable_nil : Printable [] := nofun

@[simp] theorem printable_cons {c : Char} : Printable (c :: s) ↔ 32 ≤ c.toNat ∧ Printable s :=
  List.forall_mem_cons

@[simp] theorem printable_append : Printable (s ++ u) ↔ Printable s ∧ Printable u :=
  List.forall_mem_append

theorem Printable.subset (h : Printable u) (hsub : s ⊆ u) : Printable s :=
  fun c hc => h c (hsub hc)

/-! ## 1. Digits and numbers -/

theorem printable_replicate {c : Char} (hc : 32 ≤ c.toNat) (n : Nat) :
    Printable (List.replicate n c) := by
  intro d hd
  rw [(List.mem_replicate.mp hd).2]
  exact hc

theorem printable_digitChar (k : Nat) : 32 ≤ (Nat.digitChar k).toNat := by
  by_cases hk : k < 16
  · exact (by decide : ∀ k < 16, 32 ≤ (Nat.digitChar k).toNat) k hk
  · have hstar : Nat.digitChar k = '*' := by
      unfold Nat.digitChar
      iterate 16 rw [if_neg (by omega)]
    rw [hstar]
    decide

theorem printable_toDigits {base : Nat} (hbase : 1 < base) (n : Nat) :
    Printable (Nat.toDigits base n) := by
  induction n using Nat.strongRecOn with
  | ind n ih =>
    by_cases hn : n < base
    · rw [Nat.toDigits_of_lt_base hn]
      exact List.forall_mem_singleton.mpr (printable_digitChar n)
    · have hle : base ≤ n := Nat.le_of_not_lt hn
      rw [Nat.toDigits_of_base_le hbase hle, printable_append]
      refine ⟨ih _ (Nat.div_lt_self (by omega) hbase), ?_⟩
      exact List.forall_mem_singleton.mpr (printable_digitChar _)

theorem printable_toString (n : Int) : Printable (toString n).toList := by
  have hsign : ∀ negative, Printable (minus negative) := by decide
  rw [toList_toString, printable_append]
  exact ⟨hsign _, printable_toDigits (by decide) _⟩

theorem printable_shortest (m : Nat) (e : Int) : Printable (Number.shortest m e).1 := by
  unfold Number.shortest
  dsimp only
  split
  · rename_i q n hfind
    have hdigits : Printable (Nat.toDigits 10 q) := printable_toDigits (by decide) q
    refine hdigits.subset ?_
    rw [Number.dropZeros]
    intro c hc
    rw [List.mem_reverse] at hc
    exact List.mem_reverse.mp ((List.dropWhile_sublist _).subset hc)
  · exact printable_toDigits (by decide) _

theorem printable_positional (h : Printable s) (k : Int) : Printable (Number.positional s k) := by
  have hzeros : ∀ n, Printable (List.replicate n '0') := printable_replicate (by decide)
  unfold Number.positional
  split
  · simp [h, hzeros]
  · split
    · simp [h, hzeros]
    · have htake : Printable (s.take k.toNat) := h.subset (List.take_subset _ _)
      have hdrop : Printable (s.drop k.toNat) := h.subset (List.drop_subset _ _)
      simp [htake, hdrop]

theorem printable_scientific (h : Printable s) (exponent : Int) :
    Printable (Number.scientific s exponent) := by
  have hzeros : ∀ n, Printable (List.replicate n '0') := printable_replicate (by decide)
  have hsize : Printable (Nat.toDigits 10 exponent.natAbs) := printable_toDigits (by decide) _
  have hexponent : Printable ((if exponent < 0 then '-' else '+') ::
      (List.replicate (Number.exponentDigits - (Nat.toDigits 10 exponent.natAbs).length) '0' ++
        Nat.toDigits 10 exponent.natAbs)) := by
    rw [printable_cons, printable_append]
    refine ⟨?_, hzeros _, hsize⟩
    split
    · decide
    · decide
  unfold Number.scientific
  dsimp only
  rw [printable_append, printable_cons]
  refine ⟨?_, by decide, hexponent⟩
  split
  · exact h
  · rw [printable_cons] at h
    simp [h]
  · decide

theorem printable_text (x : Number.Binary64) : Printable x.text.toList := by
  cases x with
  | nan => decide
  | infinity negative =>
    cases negative with
    | true => decide
    | false => decide
  | finite negative m e =>
    have hdigits := printable_shortest m e
    have hbody : Printable (if m = 0 then ['0', '.', '0'] else
        if Number.positionalFrom ≤ (Number.shortest m e).2 - 1 &&
            (Number.shortest m e).2 - 1 < Number.positionalBelow then
          Number.positional (Number.shortest m e).1 (Number.shortest m e).2
        else Number.scientific (Number.shortest m e).1 ((Number.shortest m e).2 - 1)) := by
      split
      · decide
      · split
        · exact printable_positional hdigits _
        · exact printable_scientific hdigits _
    rw [Number.Binary64.text, String.toList_ofList]
    split
    · exact printable_cons.mpr ⟨by decide, hbody⟩
    · exact hbody

theorem printable_writeNumber (x : Number.Binary64) : Printable (writeNumber x) := by
  unfold writeNumber
  split
  · decide
  · split
    · decide
    · decide
  · exact printable_text x

/-! ## 2. Strings -/

theorem printable_unitEscape (n : Nat) : Printable (unitEscape n) := by
  have hdigits : Printable (Nat.toDigits 16 n) := printable_toDigits (by decide) n
  have hzeros := printable_replicate (c := '0') (by decide) (4 - (Nat.toDigits 16 n).length)
  rw [unitEscape, Text.hex, printable_cons, printable_cons, printable_append]
  exact ⟨by decide, by decide, hzeros, hdigits⟩

theorem printable_codeEscape (n : Nat) : Printable (codeEscape n) := by
  unfold codeEscape
  split
  · exact printable_unitEscape n
  · exact printable_append.mpr ⟨printable_unitEscape _, printable_unitEscape _⟩

theorem printable_escapeChar (asciiOnly : Bool) (c : Char) :
    Printable (escapeChar asciiOnly c) := by
  unfold escapeChar
  iterate 7
    split
    · decide
  split
  · exact printable_unitEscape _
  · rename_i hcontrol
    split
    · exact printable_codeEscape _
    · exact List.forall_mem_singleton.mpr (Nat.le_of_not_lt hcontrol)

/-- **A string** has no control characters in its text, whichever it holds. -/
theorem printable_writeString (asciiOnly : Bool) (t : String) :
    Printable (writeString asciiOnly t) := by
  have hbody : Printable (t.toList.flatMap (escapeChar asciiOnly)) := by
    intro d hd
    obtain ⟨c, -, hc⟩ := List.mem_flatMap.mp hd
    exact printable_escapeChar asciiOnly c d hc
  rw [writeString]
  simp [hbody]

/-! ## 3. Documents on one line -/

theorem break_of_line (h : l.indent = none) (depth : Nat) : l.break depth = [] := by
  rw [Layout.break, h]

theorem printable_separator (h : l.indent = none) (depth : Nat) :
    Printable (l.separator depth) := by
  rw [Layout.separator, h]
  exact (by decide : Printable [',', ' '])

mutual

/-- **A document on one line** has no control characters in its text. -/
theorem printable_write (h : l.indent = none) (depth : Nat) :
    ∀ v : Json, Printable (write l depth v)
  | .null => by
    rw [write]
    decide
  | .bool b => by
    rw [write]
    cases b <;> decide
  | .int n => by
    rw [write]
    exact printable_toString n
  | .number x => by
    rw [write]
    exact printable_writeNumber x
  | .string t => by
    rw [write]
    exact printable_writeString _ t
  | .array [] => by
    rw [write]
    decide
  | .array (v :: vs) => by
    have hfirst := printable_write h (depth + 1) v
    have hrest := printable_writeItems h (depth + 1) vs
    rw [write, break_of_line h, break_of_line h]
    simp [hfirst, hrest]
  | .object [] => by
    rw [write]
    decide
  | .object ((k, v) :: ms) => by
    have hkey := printable_writeString l.asciiOnly k
    have hfirst := printable_write h (depth + 1) v
    have hrest := printable_writeMembers h (depth + 1) ms
    rw [write, break_of_line h, break_of_line h]
    simp [hkey, hfirst, hrest]

theorem printable_writeItems (h : l.indent = none) (depth : Nat) :
    ∀ vs : List Json, Printable (writeItems l depth vs)
  | [] => by
    rw [writeItems]
    exact printable_nil
  | v :: vs => by
    have hfirst := printable_write h depth v
    have hrest := printable_writeItems h depth vs
    rw [writeItems]
    simp [printable_separator h, hfirst, hrest]

theorem printable_writeMembers (h : l.indent = none) (depth : Nat) :
    ∀ ms : List (String × Json), Printable (writeMembers l depth ms)
  | [] => by
    rw [writeMembers]
    exact printable_nil
  | (k, v) :: ms => by
    have hkey := printable_writeString l.asciiOnly k
    have hfirst := printable_write h depth v
    have hrest := printable_writeMembers h depth ms
    rw [writeMembers]
    simp [printable_separator h, hkey, hfirst, hrest]

end

end SourceCheck.Json

import SourceCheck.Proofs.Output.LineFormat

/-!
# Lines of Go vet that are read back

A path of Go vet has no colon, so a line is taken apart at its first one, and what stands behind it
is a line number, perhaps a column, and a message.  The name of the tool in front of a path cannot
be taken for a part of it, nor a path for the name: a path ends in `.go`.

* `GoVetFinding`, `GoVetFinding.Sound`: findings as Go vet writes them.
* `GoVetFinding.find_text`: their lines are taken apart as they were put together.
* `GoVetFinding.format`: how Go vet writes its findings.
-/

namespace SourceCheck

open Text

/-- **A finding as Go vet writes it**, with or without its name in front. -/
structure GoVetFinding where
  prefixed : Bool
  path : List Char
  line : Position
  column : Option Position
  message : List Char

namespace GoVetFinding

variable {f : GoVetFinding}

/-- The column, if there is one. -/
def columnText : Option Position → List Char
  | none => []
  | some p => ':' :: p.digits

/-- What stands behind the path. -/
def behindPath (f : GoVetFinding) : List Char :=
  ':' :: (f.line.digits ++ (columnText f.column ++ (": ".toList ++ f.message)))

/-- **The line of the finding**, `vet: path:line:column: message`. -/
def text (f : GoVetFinding) : List Char :=
  (if f.prefixed then "vet: ".toList else []) ++ (f.path ++ f.behindPath)

/-- What the line says. -/
def diagnostic (f : GoVetFinding) : Diagnostic :=
  ⟨f.line, f.column.getD .first, .error, String.ofList f.message, none⟩

/-- **Findings that can be told from their line.**  The path has no colon, ends in `.go` behind
something else and starts neither with white space nor like a comment; the numbers are not too long;
the message is there and trimmed. -/
structure Sound (f : GoVetFinding) : Prop where
  path_plain : ':' ∉ f.path
  path_end : ∃ stem, stem ≠ [] ∧ f.path = stem ++ ".go".toList
  path_start : ∀ c ∈ f.path.head?, isBlank c = false ∧ c ≠ '#'
  path_unbroken : Unbroken f.path
  line : Short f.line.digits
  column : ∀ p ∈ f.column, Short p.digits
  message : f.message ≠ []
  trimmed : trim f.message = f.message
  message_unbroken : Unbroken f.message

theorem path_ne_nil (h : f.Sound) : f.path ≠ [] := by
  obtain ⟨stem, hstem, hpath⟩ := h.path_end
  rw [hpath]
  exact List.append_ne_nil_of_left_ne_nil hstem _

theorem isPath_path (h : f.Sound) : GoVetLine.isPath f.path = true := by
  obtain ⟨stem, hstem, hpath⟩ := h.path_end
  obtain ⟨c, cs, hc⟩ := List.exists_cons_of_ne_nil (path_ne_nil h)
  have hstart : isBlank (f.path.headD ' ') = false := by
    rw [hc]
    exact (h.path_start c (by rw [hc]; rfl)).1
  have hsuffix : ".go".toList.isSuffixOf f.path = true := by
    rw [List.isSuffixOf_iff_suffix]
    exact ⟨stem, hpath.symm⟩
  have hlength : 3 < f.path.length := by
    have := List.length_pos_iff.mpr hstem
    rw [hpath, List.length_append]
    change 3 < stem.length + 3
    omega
  simp only [GoVetLine.isPath, hsuffix, hlength, decide_true, Bool.true_and, hstart, Bool.not_false]

/-- Without its name the tool writes nothing that looks like it: a path that ends in `.go` is not
`vet`. -/
theorem unprefixed_text (h : f.Sound) : GoVetLine.unprefixed f.text = f.path ++ f.behindPath := by
  rw [GoVetLine.unprefixed, text]
  cases f.prefixed with
  | true => rw [if_pos rfl, afterWord_append, Option.getD_some]
  | false =>
    rw [if_neg Bool.false_ne_true, List.nil_append]
    cases hword : afterWord "vet: " (f.path ++ f.behindPath) with
    | none => rfl
    | some r =>
      obtain ⟨stem, -, hpath⟩ := h.path_end
      have hcut : f.path ++ ':' :: _ = ['v', 'e', 't'] ++ ':' :: (' ' :: r) := of_afterWord hword
      rcases cut_at_colon (by decide) hcut with ⟨hvet, -⟩ | ⟨v, hvet, -⟩
      · have hlast := congrArg List.getLast? (hpath.symm.trans hvet)
        rw [List.getLast?_append_of_ne_nil _ (by decide)] at hlast
        exact absurd hlast (by decide)
      · exact absurd (hvet ▸ List.mem_append_right _ List.mem_cons_self) h.path_plain

/-- A column that is told in front of something else is read, or none is. -/
theorem columnIn_columnText (column : Option Position) (rest : List Char)
    (hhead : ∀ c ∈ rest.head?, isDecimal c = false) (hrest : columnIn rest = (none, rest)) :
    columnIn (columnText column ++ rest) = (column.map Position.digits, rest) := by
  have hcolon : ∀ r, afterWord ":" (':' :: r) = some r := afterWord_append ":"
  cases column with
  | none => exact hrest
  | some p =>
    have hdigits : digits? (p.digits ++ rest) = some (p.digits, rest) :=
      run?_append p.numeral_digits.1 p.numeral_digits.2 hhead
    rw [columnText, List.cons_append, columnIn, hcolon]
    simp only [hdigits, Option.map_some]

/-- The digits of a line end where the column starts, or where something else does. -/
theorem digits?_columnText (line : Position) (column : Option Position) (rest : List Char)
    (hhead : ∀ c ∈ rest.head?, isDecimal c = false) :
    digits? (line.digits ++ (columnText column ++ rest)) =
      some (line.digits, columnText column ++ rest) := by
  refine run?_append line.numeral_digits.1 line.numeral_digits.2 ?_
  cases column with
  | none => exact hhead
  | some p => exact fun c hc => Option.some.inj hc ▸ rfl

/-- The column is read, or none is. -/
theorem columnIn_text (f : GoVetFinding) :
    columnIn (columnText f.column ++ (": ".toList ++ f.message)) =
      (f.column.map Position.digits, ": ".toList ++ f.message) :=
  columnIn_columnText f.column (": ".toList ++ f.message)
    (fun _ hc => Option.some.inj hc ▸ rfl) rfl

theorem behindPath?_behindPath (h : f.Sound) :
    GoVetLine.behindPath? f.behindPath =
      some (f.line.digits, f.column.map Position.digits, f.message) := by
  have hcolon : ∀ r, afterWord ":" (':' :: r) = some r := afterWord_append ":"
  have hline := digits?_columnText f.line f.column (": ".toList ++ f.message) fun c hc =>
    Option.some.inj hc ▸ rfl
  rw [GoVetLine.behindPath?, behindPath]
  simp only [hcolon, hline, columnIn_text f, afterWord_append, nonEmpty?, if_neg h.message,
    Option.bind_eq_bind, Option.bind_some, Option.pure_def]

/-- What is found in a line that is no comment. -/
def find (s : List Char) : Option GoVetLine :=
  if s.head? = some '#' then none else GoVetLine.ofLine? s

theorem head?_text (h : f.Sound) : ∀ c ∈ f.text.head?, isBlank c = false ∧ c ≠ '#' := by
  intro c hc
  cases hprefixed : f.prefixed with
  | true =>
    rw [text, hprefixed, if_pos rfl] at hc
    exact Option.some.inj hc ▸ by decide
  | false =>
    rw [text, hprefixed, if_neg Bool.false_ne_true, List.nil_append,
      List.head?_append_of_ne_nil _ (path_ne_nil h)] at hc
    exact h.path_start c hc

theorem trim_text (h : f.Sound) : trim f.text = f.text := by
  refine trim_of_firm (fun c hc => (head?_text h c hc).1) fun c hc => ?_
  simp only [text, behindPath, ← List.append_assoc, ← List.cons_append] at hc
  exact endsFirm_append h.message h.trimmed c hc

/-- **The line of a finding is taken apart as it was put together.** -/
theorem find_text (h : f.Sound) :
    find f.text = some ⟨f.path, f.line.digits, f.column.map Position.digits, f.message⟩ := by
  have hcomment : f.text.head? ≠ some '#' := fun hhead => (head?_text h '#' hhead).2 rfl
  have htake : (f.path ++ f.behindPath).takeWhile (· != ':') = f.path := by
    rw [List.takeWhile_append_of_pos (bne_of_not_mem h.path_plain), behindPath,
      List.takeWhile_cons_of_neg (by simp), List.append_nil]
  have hdrop : (f.path ++ f.behindPath).dropWhile (· != ':') = f.behindPath := by
    rw [List.dropWhile_append_of_pos (bne_of_not_mem h.path_plain), behindPath,
      List.dropWhile_cons_of_neg (by simp)]
  rw [find, if_neg hcomment, GoVetLine.ofLine?_eq, unprefixed_text h, htake, hdrop,
    if_pos (isPath_path h), behindPath?_behindPath h]
  rfl

theorem diagnostic_find (h : f.Sound) :
    GoVetLine.diagnostic ⟨f.path, f.line.digits, f.column.map Position.digits, f.message⟩ =
      .ok f.diagnostic := by
  rw [GoVetLine.diagnostic, Position.ofDigits_digits h.line, Position.ofDigits?_digits h.column]
  dsimp only
  rw [h.trimmed]
  rfl

theorem unbroken_text (h : f.Sound) : Unbroken f.text := by
  have hname : Unbroken (if f.prefixed then "vet: ".toList else []) := by
    cases f.prefixed <;> decide
  have hcolumn : Unbroken (columnText f.column) := by
    cases f.column with
    | none => exact nofun
    | some p => exact unbroken_cons_iff.mpr ⟨by decide, p.numeral_digits.unbroken⟩
  have hfixed : isLineBreak ':' = false ∧ Unbroken ": ".toList := by decide
  simp only [text, behindPath, unbroken_append_iff, unbroken_cons_iff, hname, hcolumn, hfixed,
    f.line.numeral_digits.unbroken, h.path_unbroken, h.message_unbroken, and_self]

/-- **How Go vet writes its findings.** -/
def format : LineFormat GoVetFinding GoVetLine where
  Sound := Sound
  text := text
  diagnostic := diagnostic
  find := find
  read := GoVetLine.diagnostic
  find_nil := rfl
  unbroken _ h := unbroken_text h
  found f h := ⟨_, by rw [trim_text h]; exact find_text h, diagnostic_find h⟩

end GoVetFinding

end SourceCheck

/-!
# Fields of a text

A separator cuts a text into fields; between two separators there may be nothing.

* `fields`: the fields of a text.
-/

namespace SourceCheck.Text

/-- **The fields of a text between separators**; there is always at least one. -/
def fields (separator : Char) : List Char → List (List Char)
  | [] => [[]]
  | c :: cs =>
    if c == separator then [] :: fields separator cs
    else match fields separator cs with
      | f :: fs => (c :: f) :: fs
      | [] => [[c]]

/-- Without a separator the text is its only field. -/
theorem fields_of_not_mem {separator : Char} {s : List Char} (h : separator ∉ s) :
    fields separator s = [s] := by
  induction s with
  | nil => rfl
  | cons c cs ih =>
    have hc : (c == separator) = false := by
      simp only [beq_eq_false_iff_ne, ne_eq]; rintro rfl; exact h (by simp)
    rw [fields, hc, ih (fun hm => h (by simp [hm]))]
    simp

end SourceCheck.Text

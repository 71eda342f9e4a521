import SourceCheck.Text.LowerTable

/-!
# Lower-casing

Every capital letter becomes its small letter.  Two capitals need more: `İ` becomes an `i` with a
combining dot, and a sigma at the end of a word becomes `ς`, any other `σ`.  A sigma ends a word
when the nearest character before it that is not case-ignorable is a cased letter and the nearest
such character after it is not.
-/

namespace SourceCheck.Text

/-- The capital sigma. -/
def capitalSigma : Char := 'Σ'

/-- **The small letter of a capital**; other characters stay. -/
def lowerChar (c : Char) : Char :=
  if c.toNat < 128 then c.toLower
  else match capitalRuns.find? (·.covers c.toNat) with
    | some r => Char.ofNat (r.move c.toNat)
    | none => c

/-- Cased letters. -/
def isCased (c : Char) : Bool := inRanges casedRanges c.toNat

/-- Characters that do not count when looking for a sigma's neighbour. -/
def isCaseIgnorable (c : Char) : Bool := inRanges caseIgnorableRanges c.toNat

/-- Whether the nearest character that counts is a cased letter. -/
def meetsCased (s : List Char) : Bool :=
  match s.dropWhile isCaseIgnorable with
  | c :: _ => isCased c
  | [] => false

/-- Lower-cases the rest of a text; `before` is what stands in front, nearest character first. -/
def lowerAfter (before : List Char) : List Char → List Char
  | [] => []
  | c :: cs =>
    let rest := lowerAfter (c :: before) cs
    if c == capitalSigma then
      (if meetsCased before && !meetsCased cs then 'ς' else 'σ') :: rest
    else if c == 'İ' then 'i' :: '\u0307' :: rest
    else lowerChar c :: rest

/-- **A text in lower case.** -/
def lower (s : List Char) : List Char := lowerAfter [] s

/-- **A string in lower case.** -/
def lowered (s : String) : String := String.ofList (lower s.toList)

@[simp] theorem lower_nil : lower [] = [] := rfl

end SourceCheck.Text

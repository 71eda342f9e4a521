/-!
# White space

Which characters are blank, and how a text is trimmed.  The class is that of Unicode's white
space together with the four information separators `\x1c` to `\x1f`; the zero-width space and
the byte order mark are not blank.
-/

namespace SourceCheck.Text

/-- **White space.** -/
def isBlank (c : Char) : Bool :=
  let n := c.toNat
  (9 ≤ n && n ≤ 13) || (28 ≤ n && n ≤ 32) || n == 0x85 || n == 0xA0 || n == 0x1680 ||
    (0x2000 ≤ n && n ≤ 0x200A) || n == 0x2028 || n == 0x2029 || n == 0x202F || n == 0x205F ||
    n == 0x3000

/-- A text without its leading white space. -/
def trimLeft (s : List Char) : List Char := s.dropWhile isBlank

/-- A text without its trailing white space. -/
def trimRight (s : List Char) : List Char := (s.reverse.dropWhile isBlank).reverse

/-- **A text without white space at either end.** -/
def trim (s : List Char) : List Char := trimRight (trimLeft s)

/-- A text without leading and trailing characters of a given class. -/
def trimOf (p : Char → Bool) (s : List Char) : List Char :=
  ((s.dropWhile p).reverse.dropWhile p).reverse

/-! ## 1. What trimming leaves -/

theorem dropWhile_eq_self {p : Char → Bool} {s : List Char}
    (h : ∀ c, s.head? = some c → p c = false) : s.dropWhile p = s := by
  cases s with
  | nil => rfl
  | cons c cs => simp [List.dropWhile, h c rfl]

theorem head?_dropWhile_false {p : Char → Bool} (s : List Char) :
    ∀ c, (s.dropWhile p).head? = some c → p c = false := by
  induction s with
  | nil => simp
  | cons d ds ih =>
    intro c hc
    by_cases hd : p d = true
    · rw [List.dropWhile_cons_of_pos hd] at hc; exact ih c hc
    · rw [List.dropWhile_cons_of_neg hd] at hc
      simp only [List.head?_cons, Option.some.injEq] at hc
      subst hc; simpa using hd

theorem trimRight_idem (s : List Char) : trimRight (trimRight s) = trimRight s := by
  simp only [trimRight, List.reverse_reverse]
  rw [dropWhile_eq_self (head?_dropWhile_false s.reverse)]

end SourceCheck.Text

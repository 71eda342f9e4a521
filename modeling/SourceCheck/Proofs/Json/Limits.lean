import SourceCheck.Proofs.Json.Extent
import SourceCheck.Proofs.Output.OwnFindings

/-!
# The limits of documents

Whether a text passes the limits of documents shows in its characters, be it a document or not: all
its runs of digits are short, and nowhere outside a string are there too many open brackets.  What
is left is half a surrogate pair, and a defect so deep that there is no room to tell it.

* `nesting`: the deepest level of a text.
* `Unhalved`: texts in which no half of a surrogate pair is escaped.
* `Moderate`: a text with short numbers that keeps within bounds, from a level on.
* `Keeps`: a reader that leaves such a text behind, or finds the text malformed, or comes upon what
  the bounds allow, with one closure lemma for each shape of documents.
* `readChars_error`: what can be wrong with a text whose numbers are short.
* `Shallow`, `Moderate.shallow`: texts that are followed to their ends.
-/

namespace SourceCheck.Json

variable {s r : List Char} {c : Char} {bounds : Bounds} {level : Nat}

/-! ## 1. How deep a text is nested -/

/-- Where a character of a text stands: outside strings, in one, or behind a backslash there. -/
inductive Place
  | outside
  | string
  | escape
  deriving Repr, DecidableEq

/-- **The deepest level that starts in a text**, from a place and a level on. -/
def deepest : Place → Nat → List Char → Nat
  | _, _, [] => 0
  | .escape, level, _ :: s => deepest .string level s
  | .string, level, c :: s =>
    if c = '"' then deepest .outside level s
    else if c = '\\' then deepest .escape level s
    else deepest .string level s
  | .outside, level, c :: s =>
    if c = '"' then deepest .string level s
    else if c = '[' ∨ c = '\x7b' then max (level + 1) (deepest .outside (level + 1) s)
    else if c = ']' ∨ c = '\x7d' then deepest .outside (level - 1) s
    else deepest .outside level s

/-- **How deep the arrays and objects of a text are nested.** -/
def nesting (s : List Char) : Nat := deepest .outside 0 s

/-- Characters that neither open nor close anything. -/
def isInner (c : Char) : Bool := !(c ∈ ['"', '[', '\x7b', ']', '\x7d'])

theorem deepest_inner (hc : isInner c = true) (level : Nat) (s : List Char) :
    deepest .outside level (c :: s) = deepest .outside level s := by
  simp only [isInner, Bool.not_eq_true', decide_eq_false_iff_not, List.mem_cons, List.not_mem_nil,
    or_false, not_or] at hc
  obtain ⟨hquote, hopen, hbrace, hclose, hend⟩ := hc
  simp [deepest, hquote, hopen, hbrace, hclose, hend]

theorem deepest_append_inner {b : List Char} (hb : ∀ c ∈ b, isInner c = true) (level : Nat)
    (s : List Char) : deepest .outside level (b ++ s) = deepest .outside level s := by
  induction b with
  | nil => rfl
  | cons c b ih =>
    obtain ⟨hc, hb⟩ := List.forall_mem_cons.mp hb
    rw [List.cons_append, deepest_inner hc, ih hb]

/-- Marks are none of some other class of characters. -/
theorem isInner_of {p : Char → Bool}
    (hp : (['"', '[', '\x7b', ']', '\x7d'].all fun c => !p c) = true) (h : p c = true) :
    isInner c = true := by
  simp only [isInner, Bool.not_eq_true', decide_eq_false_iff_not]
  intro hmem
  have hmark := List.all_eq_true.mp hp c hmem
  rw [h] at hmark
  cases hmark

theorem isInner_of_isBlank (h : Text.isBlank c = true) : isInner c = true :=
  isInner_of (by decide) h

theorem isInner_of_isSpace (h : isSpace c = true) : isInner c = true := isInner_of (by decide) h

theorem isInner_of_isScalarChar (h : isScalarChar c = true) : isInner c = true :=
  isInner_of (by decide) h

/-- A string counts for nothing. -/
theorem deepest_string {b : List Char} (hb : Quotable b) (level : Nat) (s : List Char) :
    deepest .string level (b ++ '"' :: s) = deepest .outside level s := by
  induction hb with
  | nil => rfl
  | plain hquote hslash _ _ ih => simp [deepest, hquote, hslash, ih]
  | escape _ _ ih => simp [deepest, ih]

/-- White space behind a text, of any script, counts for nothing. -/
theorem deepest_blank {post : List Char} (hpost : ∀ c ∈ post, Text.isBlank c = true) (place : Place)
    (level : Nat) : deepest place level post = 0 := by
  induction post generalizing place with
  | nil => cases place <;> rfl
  | cons c post ih =>
    obtain ⟨hc, hpost⟩ := List.forall_mem_cons.mp hpost
    have hne : ∀ x, Text.isBlank x = false → c ≠ x := by
      rintro x hx rfl
      rw [hc] at hx
      cases hx
    cases place with
    | outside => rw [deepest_inner (isInner_of_isBlank hc), ih hpost]
    | string => simp [deepest, hne '"' (by decide), hne '\\' (by decide), ih hpost]
    | escape => exact ih hpost .string

theorem deepest_append_blank {post : List Char} (hpost : ∀ c ∈ post, Text.isBlank c = true)
    (place : Place) (level : Nat) (s : List Char) :
    deepest place level (s ++ post) = deepest place level s := by
  induction s generalizing place level with
  | nil =>
    rw [List.nil_append, deepest_blank hpost]
    cases place <;> rfl
  | cons c s ih =>
    cases place with
    | outside => simp only [List.cons_append, deepest, ih]
    | string => simp only [List.cons_append, deepest, ih]
    | escape => exact ih .string level

/-! ## 2. Half surrogate pairs -/

/-- **A text in which no half of a surrogate pair is escaped**, be it alone or beside the other: no
number behind a backslash and `u` starts as theirs do. -/
def Unhalved (s : List Char) : Prop := ∀ x ∈ ['d', 'D'], ¬ ['\\', 'u', x] <:+: s

theorem Unhalved.mono (h : Unhalved s) (hr : r <:+: s) : Unhalved r :=
  fun x hx hpart => h x hx (hpart.trans hr)

/-- Without a backslash nothing is escaped. -/
theorem unhalved_of_notMem (h : '\\' ∉ s) : Unhalved s :=
  fun _ _ hescape => h (hescape.subset List.mem_cons_self)

/-- The digit that the numbers of half surrogate pairs start with. -/
theorem mem_of_hexValue? (h : hexValue? c = some 13) : c ∈ ['d', 'D'] := by
  have hcode : c.toNat = 'd'.toNat ∨ c.toNat = 'D'.toNat := by
    change c.toNat = 100 ∨ c.toNat = 68
    have hrange := of_hexValue? h
    omega
  rw [List.mem_cons, List.mem_singleton]
  exact hcode.imp (fun h => Char.toNat_inj.mp h) fun h => Char.toNat_inj.mp h

/-- Numbers of half surrogate pairs start with that digit. -/
theorem mem_of_hexNumber? {x y z w : Char} {n : Nat} (h : hexNumber? x y z w = some n)
    (hhalf : isHighSurrogate n = true ∨ isLowSurrogate n = true) : x ∈ ['d', 'D'] := by
  simp only [hexNumber?, Option.bind_eq_bind, Option.bind_eq_some_iff] at h
  obtain ⟨first, hx, second, hy, third, hz, fourth, hw, hn⟩ := h
  have hy' := of_hexValue? hy
  have hz' := of_hexValue? hz
  have hw' := of_hexValue? hw
  have hvalue : ((first * 16 + second) * 16 + third) * 16 + fourth = n := Option.some.inj hn
  have hrange : 0xD800 ≤ n ∧ n ≤ 0xDFFF := by
    rcases hhalf with hhalf | hhalf
    · simp only [isHighSurrogate, Bool.and_eq_true, decide_eq_true_eq] at hhalf
      omega
    · simp only [isLowSurrogate, Bool.and_eq_true, decide_eq_true_eq] at hhalf
      omega
  obtain rfl : first = 13 := by omega
  exact mem_of_hexValue? hx

/-- A half surrogate pair at the start of a text. -/
theorem not_unhalved_unit {x y z w : Char} {n : Nat} (h : hexNumber? x y z w = some n)
    (hhalf : isHighSurrogate n = true ∨ isLowSurrogate n = true) :
    ¬ Unhalved ('\\' :: 'u' :: x :: y :: z :: w :: s) :=
  fun hwhole => hwhole x (mem_of_hexNumber? h hhalf) ⟨[], y :: z :: w :: s, rfl⟩

/-- **The units of a text without such escapes are characters.** -/
theorem Unhalved.all_isSome {us : List (Option Char)} (h : Unhalved s)
    (hs : stringUnits s = .ok (us, r)) : us.all Option.isSome = true := by
  fun_induction stringUnits s generalizing us r with
  | case1 | case3 | case4 | case11 | case12 => cases hs
  | case2 =>
    cases hs
    rfl
  | case5 a b c e n hn hhigh => exact absurd h (not_unhalved_unit hn (.inl hhigh))
  | case6 a b c e n hn hhigh => exact absurd h (not_unhalved_unit hn (.inl hhigh))
  | case7 a b c e n hn hhigh => exact absurd h (not_unhalved_unit hn (.inl hhigh))
  | case8 a b c e cs n hn _ hlow => exact absurd h (not_unhalved_unit hn (.inr hlow))
  | case9 a b c e cs n hn _ _ ih =>
    obtain ⟨vs, rfl, hvs⟩ := of_consUnit hs
    rw [List.all_cons, ih (h.mono ⟨['\\', 'u', a, b, c, e], [], by simp⟩) hvs]
    rfl
  | case10 c cs _ x hx ih =>
    obtain ⟨vs, rfl, hvs⟩ := of_consUnit hs
    rw [List.all_cons, ih (h.mono ⟨['\\', c], [], by simp⟩) hvs]
    rfl
  | case13 c cs _ _ _ _ ih =>
    obtain ⟨vs, rfl, hvs⟩ := of_consUnit hs
    rw [List.all_cons, ih (h.mono (List.suffix_cons c cs).isInfix) hvs]
    rfl

/-- A string that is not followed has such an escape. -/
theorem not_unhalved {d : Dialect} (hs : stringBody d s = .error .unfollowed) : ¬ Unhalved s := by
  intro hwhole
  cases hunits : stringUnits s with
  | error e =>
    rw [stringBody, hunits] at hs
    cases hs
    cases stringUnits_error hunits
  | ok p =>
    rw [stringBody_of_units hunits, Dialect.textOf, hwhole.all_isSome hunits] at hs
    cases hs

/-! ## 3. Texts within limits -/

/-- **What a text may hold.** -/
structure Bounds where
  /-- The deepest level. -/
  levels : Nat
  /-- Whether half a surrogate pair may be escaped. -/
  halves : Bool

/-- **A text with short numbers that keeps within bounds**, inside some levels of nesting. -/
structure Moderate (bounds : Bounds) (level : Nat) (s : List Char) : Prop where
  digits : RunsShort Char.isDigit s
  nesting : deepest .outside level s ≤ bounds.levels
  whole : bounds.halves = false → Unhalved s

namespace Moderate

theorem of_suffix {level' : Nat} (h : Moderate bounds level s) (hr : r <:+ s)
    (hdeep : deepest .outside level' r ≤ deepest .outside level s) : Moderate bounds level' r :=
  ⟨h.digits.mono hr.isInfix, hdeep.trans h.nesting, fun hwhole => (h.whole hwhole).mono hr.isInfix⟩

theorem of_append_inner {b : List Char} (hb : ∀ c ∈ b, isInner c = true)
    (h : Moderate bounds level (b ++ s)) : Moderate bounds level s :=
  h.of_suffix (List.suffix_append b s) (deepest_append_inner hb level s).ge

/-- A text without the white space around it. -/
theorem of_padded {pre post : List Char} (hpre : ∀ c ∈ pre, Text.isBlank c = true)
    (hpost : ∀ c ∈ post, Text.isBlank c = true) (h : Moderate bounds level (pre ++ (s ++ post))) :
    Moderate bounds level s := by
  have hsuffix := h.of_append_inner fun c hc => isInner_of_isBlank (hpre c hc)
  have hpart := (List.prefix_append s post).isInfix
  refine ⟨hsuffix.digits.mono hpart, ?_, fun hwhole => (hsuffix.whole hwhole).mono hpart⟩
  rw [← deepest_append_blank hpost .outside level s]
  exact hsuffix.nesting

protected theorem trim (h : Moderate bounds level s) : Moderate bounds level (Text.trim s) := by
  obtain ⟨pre, post, hs, hpre, hpost⟩ := Text.exists_trim s
  rw [hs] at h
  exact h.of_padded hpre hpost

theorem of_cons_inner (hc : isInner c = true) (h : Moderate bounds level (c :: s)) :
    Moderate bounds level s :=
  h.of_suffix (List.suffix_cons c s) (deepest_inner hc level s).ge

protected theorem skip (h : Moderate bounds level s) : Moderate bounds level (skip s) := by
  obtain ⟨gap, hgap, hs⟩ := exists_gap s
  rw [hs] at h
  exact h.of_append_inner fun c hc =>
    isInner_of_isSpace (List.dropWhile_eq_nil_iff.mp hgap c hc)

/-- The text behind a string. -/
theorem of_string {b : List Char} (hb : Quotable b)
    (h : Moderate bounds level ('"' :: (b ++ '"' :: s))) : Moderate bounds level s := by
  refine h.of_suffix ⟨'"' :: (b ++ ['"']), by simp⟩ ?_
  rw [deepest, if_pos rfl, deepest_string hb]

/-- Marks that close an array or an object. -/
def Closing (c : Char) : Prop := c = ']' ∨ c = '\x7d'

/-- The text behind a closing mark is one level up. -/
theorem of_close (hc : Closing c) (h : Moderate bounds (level + 1) (c :: s)) :
    Moderate bounds level s := by
  refine h.of_suffix (List.suffix_cons c s) ?_
  rcases hc with rfl | rfl <;> simp [deepest]

/-- Marks that open an array or an object, and those that close it. -/
def Opening (c close : Char) : Prop := c = '[' ∧ close = ']' ∨ c = '\x7b' ∧ close = '\x7d'

theorem Opening.closing {close : Char} (h : Opening c close) : Closing close := by
  rcases h with ⟨-, rfl⟩ | ⟨-, rfl⟩
  · exact .inl rfl
  · exact .inr rfl

theorem deepest_open {close : Char} (h : Opening c close) (level : Nat) (s : List Char) :
    deepest .outside level (c :: s) = max (level + 1) (deepest .outside (level + 1) s) := by
  rcases h with ⟨rfl, rfl⟩ | ⟨rfl, rfl⟩ <;> simp [deepest]

/-- The text behind an opening mark is one level down. -/
theorem of_open {close : Char} (hc : Opening c close) (h : Moderate bounds level (c :: s)) :
    Moderate bounds (level + 1) s :=
  h.of_suffix (List.suffix_cons c s) (by rw [deepest_open hc]; exact le_max_right _ _)

/-- The level that an opening mark starts is not too deep. -/
theorem lt_of_open {close : Char} (hc : Opening c close) (h : Moderate bounds level (c :: s)) :
    level < bounds.levels := by
  have hdeep := h.nesting
  rw [deepest_open hc] at hdeep
  exact (le_max_left _ _).trans hdeep

end Moderate

/-! ## 4. Readers of such texts -/

/-- **What may not be followed** within bounds: half a surrogate pair, and a defect where too little
room is left. -/
def Escapes (room : Depth) (halfPair : HalfPair) (bounds : Bounds) : Prop :=
  halfPair = .unfollowed ∧ bounds.halves = true ∨ room.levels < bounds.levels + room.reserve

/-- **A step in such a text**: it leaves a text of the same kind, or the text is malformed, or, if
there may be levels that no document has, it comes upon one of them, or the text is not followed. -/
inductive Tame {α : Type} (room : Depth) (halfPair : HalfPair) (bounds : Bounds) (level : Nat) :
    Step α → Prop
  | ok {a : α} {r : List Char} (h : Moderate bounds level r) :
    Tame room halfPair bounds level (.ok (a, r))
  | malformed : Tame room halfPair bounds level (.error .malformed)
  | tooDeep (h : room.levels < bounds.levels) (isObject : Bool) :
    Tame room halfPair bounds level (.error (.tooDeep isObject))
  | unfollowed (h : Escapes room halfPair bounds) :
    Tame room halfPair bounds level (.error .unfollowed)

/-- **A reader whose steps are such**, from one level to another. -/
def Keeps {α : Type} (room : Depth) (halfPair : HalfPair) (bounds : Bounds) (level level' : Nat)
    (f : List Char → Step α) : Prop :=
  ∀ s, Moderate bounds level s → Tame room halfPair bounds level' (f s)

section Keeps

variable {room : Depth} {halfPair : HalfPair} {fuel level' : Nat} {close mark : Char}
  {more : List Char → Step Json}

theorem tame_stringBody (h : Moderate bounds level ('"' :: s)) :
    Tame room halfPair bounds level (stringBody (.file room halfPair) s) := by
  cases hs : stringBody (.file room halfPair) s with
  | error e =>
    rcases stringBody_error hs with rfl | ⟨rfl, hhalf⟩
    · exact .malformed
    · refine .unfollowed (.inl ⟨hhalf, Bool.of_not_eq_false fun hwhole => ?_⟩)
      exact not_unhalved hs ((h.whole hwhole).mono (List.suffix_cons _ _).isInfix)
  | ok p =>
    obtain ⟨x, r⟩ := p
    obtain ⟨b, hb, rfl, -⟩ := exists_quotable hs
    exact .ok (h.of_string hb)

theorem Tame.andThen {α : Type} {st : Step α} {next : α → List Char → Step Json}
    (hst : Tame room halfPair bounds level st)
    (hnext : ∀ a, Keeps room halfPair bounds level level' (next a)) :
    Tame room halfPair bounds level' (andThen st next) := by
  cases hst with
  | ok h => exact hnext _ _ h
  | malformed => exact .malformed
  | tooDeep h isObject => exact .tooDeep h isObject
  | unfollowed h => exact .unfollowed h

/-- The text behind a mark. -/
theorem Moderate.tail_skip (h : Moderate bounds level s) (hmark : (Json.skip s).head? = some mark) :
    Moderate bounds level (mark :: (Json.skip s).tail) := by
  obtain ⟨t, ht⟩ := List.head?_eq_some_iff.mp hmark
  have hskip := h.skip
  rw [ht] at hskip ⊢
  exact hskip

theorem Keeps.behind (hmark : isInner mark = true)
    (hmore : Keeps room halfPair bounds level level' more) :
    Keeps room halfPair bounds level level' (behind mark more) := by
  intro s h
  rw [Json.behind]
  split
  · rename_i hhead
    exact hmore _ ((h.tail_skip hhead).of_cons_inner hmark).skip
  · exact .malformed

theorem Keeps.continued {whole : Json} (hclose : Moderate.Closing close)
    (hmore : Keeps room halfPair bounds (level + 1) level more) :
    Keeps room halfPair bounds (level + 1) level (continued close whole more) := by
  intro s h
  rw [Json.continued]
  split
  · rename_i hhead
    exact hmore _ ((h.tail_skip hhead).of_cons_inner (by decide)).skip
  · split
    · rename_i hhead
      exact .ok ((h.tail_skip hhead).of_close hclose)
    · exact .malformed

theorem Keeps.quoted {next : List Char → List Char → Step Json}
    (hnext : ∀ key, Keeps room halfPair bounds level level' (next key)) :
    Keeps room halfPair bounds level level' (quoted (.file room halfPair) next) := by
  intro s h
  rw [Json.quoted]
  split
  · rename_i hhead
    obtain ⟨cs, rfl⟩ := List.head?_eq_some_iff.mp hhead
    exact (tame_stringBody h).andThen hnext
  · exact .malformed

theorem allows_file {depth : Nat} :
    (Dialect.file room halfPair).allows depth = true ↔ depth < room.levels :=
  decide_eq_true_iff

theorem hasRoom_file {depth : Nat} :
    (Dialect.file room halfPair).hasRoom depth = true ↔ depth + room.reserve ≤ room.levels :=
  decide_eq_true_iff

/-- A step inside a level that is within the limit. -/
theorem Tame.inside {st : Step Json} {depth : Nat} (hst : Tame room halfPair bounds level st)
    (hdepth : depth ≤ bounds.levels) :
    Tame room halfPair bounds level ((Dialect.file room halfPair).inside depth st) := by
  cases hst with
  | ok h => exact .ok h
  | tooDeep h isObject => exact .tooDeep h isObject
  | unfollowed h => exact .unfollowed h
  | malformed =>
    unfold Dialect.inside
    dsimp only
    split
    · exact .malformed
    · rename_i hroom
      rw [hasRoom_file, not_le] at hroom
      exact .unfollowed (.inr (hroom.trans_le (Nat.add_le_add_right hdepth _)))

/-- What is inside an opening mark is at a level within the limit. -/
theorem Keeps.nested {empty : Json} (hopen : Moderate.Opening mark close)
    (hmore : Keeps room halfPair bounds (level + 1) level more)
    (h : Moderate bounds level (mark :: s)) :
    Tame room halfPair bounds level
      (nested (.file room halfPair) level close empty more s) := by
  have hlevel := h.lt_of_open hopen
  have hdeep : (Dialect.file room halfPair).allows level ≠ true →
      Tame (α := Json) room halfPair bounds level (.error (.tooDeep empty.isObject)) := by
    intro hrefuses
    rw [ne_eq, allows_file, not_lt] at hrefuses
    exact .tooDeep (hrefuses.trans_lt hlevel) _
  rw [Json.nested]
  split
  · rename_i hrefuses
    exact hdeep (by simp only [Bool.and_eq_true, Bool.not_eq_true'] at hrefuses; simp [hrefuses.2])
  · split
    · rename_i hhead
      exact .ok (((h.of_open hopen).tail_skip hhead).of_close hopen.closing)
    · split
      · exact (hmore _ (h.of_open hopen).skip).inside hlevel
      · rename_i hrefuses
        exact hdeep hrefuses

theorem refuses_file {negative isInt : Bool} {digits : List Char} (h : Short digits) :
    (Dialect.file room halfPair).refuses negative isInt digits.length = false := by
  have hnot : ¬ Fault.digitLimit < digits.length := Nat.not_lt.mpr h
  cases isInt <;> simp [Dialect.refuses, Dialect.file, hnot]

/-- A number with short digits is read, or malformed. -/
theorem numberBody_error {negative : Bool} {e : ReadError} (h : RunsShort Char.isDigit s)
    (he : numberBody (.file room halfPair) negative s = .error e) : e = .malformed := by
  unfold numberBody at he
  cases hw : wholePart s with
  | none =>
    rw [hw] at he
    cases he
    rfl
  | some p =>
    obtain ⟨whole, rest⟩ := p
    obtain ⟨rfl, -, hdigits⟩ := of_wholePart hw
    have hshort : Short whole := h whole (List.prefix_append whole rest).isInfix hdigits
    simp only [hw, refuses_file hshort, Bool.false_eq_true, if_false] at he
    split at he <;> cases he

theorem scalar_error {e : ReadError} (h : RunsShort Char.isDigit s)
    (he : scalar (.file room halfPair) s = .error e) : e = .malformed := by
  rw [scalar_eq] at he
  split at he
  · cases he
  · split at he
    · exact numberBody_error (h.mono (List.suffix_cons _ _).isInfix) he
    · exact numberBody_error h he

theorem keeps_scalar :
    Keeps room halfPair bounds level level (scalar (.file room halfPair)) := by
  intro s h
  cases hs : scalar (.file room halfPair) s with
  | error e =>
    rw [scalar_error h.digits hs]
    exact .malformed
  | ok p =>
    obtain ⟨v, r⟩ := p
    obtain ⟨c, cs, rfl, hc, b, rfl, hb⟩ := scalarFront_scalar hs
    have hchars : ∀ x ∈ c :: b, isScalarChar x = true := List.forall_mem_cons.mpr ⟨hc, hb⟩
    exact .ok (h.of_append_inner fun x hx => isInner_of_isScalarChar (hchars x hx))

end Keeps

/-! ## 5. Values and documents -/

/-- **Readers with some fuel keep within a limit**: what is left of an array or an object ends one
level up. -/
structure KeepsAt (room : Depth) (halfPair : HalfPair) (bounds : Bounds) (fuel : Nat) : Prop where
  value : ∀ depth,
    Keeps room halfPair bounds depth depth (value (.file room halfPair) fuel depth)
  items : ∀ depth done,
    Keeps room halfPair bounds (depth + 1) depth (items (.file room halfPair) fuel (depth + 1) done)
  members : ∀ depth done,
    Keeps room halfPair bounds (depth + 1) depth
      (members (.file room halfPair) fuel (depth + 1) done)

theorem keepsAt (room : Depth) (halfPair : HalfPair) (bounds : Bounds) (fuel : Nat) :
    KeepsAt room halfPair bounds fuel := by
  induction fuel with
  | zero => exact ⟨fun _ _ _ => .malformed, fun _ _ _ _ => .malformed, fun _ _ _ _ => .malformed⟩
  | succ fuel ih =>
    refine ⟨fun depth s h => ?_, fun depth done => ?_, fun depth done => ?_⟩
    · rcases opening_cases s with ⟨cs, rfl⟩ | ⟨cs, rfl⟩ | ⟨cs, rfl⟩ | hhead
      · rw [value_string]
        exact (tame_stringBody h).andThen fun _ _ => .ok
      · rw [value_array]
        exact (ih.items depth []).nested (.inl ⟨rfl, rfl⟩) h
      · rw [value_object]
        exact (ih.members depth []).nested (.inr ⟨rfl, rfl⟩) h
      · rw [value_scalar fuel depth hhead]
        exact keeps_scalar s h
    · rw [funext (items_succ fuel (depth + 1) done)]
      exact fun s h => (ih.value (depth + 1) s h).andThen fun v =>
        (ih.items depth (v :: done)).continued (.inl rfl)
    · rw [funext (members_succ fuel (depth + 1) done)]
      refine .quoted fun key => .behind (by decide) fun s h => ?_
      exact (ih.value (depth + 1) s h).andThen fun v =>
        (ih.members depth (Table.put (String.ofList key) v done)).continued (.inr rfl)

variable {room : Depth} {halfPair : HalfPair}

/-- **A text with short numbers that is not read** is malformed, or nested too deeply, or not
followed. -/
theorem readChars_error {e : ReadError} (halves : Bool) (hdigits : RunsShort Char.isDigit s)
    (hwhole : halves = false → Unhalved s) (h : readChars (.file room halfPair) s = .error e) :
    e = .malformed ∨ (room.levels < nesting s ∧ ∃ isObject, e = .tooDeep isObject) ∨
      Escapes room halfPair ⟨nesting s, halves⟩ ∧ e = .unfollowed := by
  have htame := (keepsAt room halfPair ⟨nesting s, halves⟩ (2 * s.length + 2)).value 0 _
    (Moderate.skip ⟨hdigits, le_rfl, hwhole⟩)
  unfold readChars at h
  generalize value (.file room halfPair) (2 * s.length + 2) 0 (skip s) = x at htame h
  cases htame with
  | malformed =>
    cases h
    exact .inl rfl
  | tooDeep hdeep isObject =>
    cases h
    exact .inr (.inl ⟨hdeep, isObject, rfl⟩)
  | unfollowed hescapes =>
    cases h
    exact .inr (.inr ⟨hescapes, rfl⟩)
  | ok _ =>
    dsimp only at h
    split at h <;> cases h
    exact .inl rfl

/-- **A text that is followed to its end**: no level is found too deep, and nothing else stops the
reading either, unless the text is malformed or a number is too long. -/
structure Shallow (room : Depth) (halfPair : HalfPair) (s : List Char) : Prop where
  levels (isObject : Bool) : readChars (.file room halfPair) s ≠ .error (.tooDeep isObject)
  followed : readChars (.file room halfPair) s ≠ .error .unfollowed

/-- **A text of which the reading decides whether it is a document**: it is one, or malformed. -/
def Decided (d : Dialect) (s : List Char) : Prop := ∀ e, readChars d s = .error e → e = .malformed

/-- Short numbers and levels that are not too deep are all that the limits are about. -/
theorem Shallow.decided (h : Shallow room halfPair s) (hdigits : RunsShort Char.isDigit s) :
    Decided (.file room halfPair) s := by
  intro e he
  rcases readChars_error true hdigits nofun he with
    hmalformed | ⟨-, isObject, rfl⟩ | ⟨-, rfl⟩
  · exact hmalformed
  · exact absurd he (h.levels isObject)
  · exact absurd he h.followed

/-- **A text that is not nested too deeply is followed to its end**, unless half a surrogate pair
stops that. -/
theorem Moderate.shallow (h : Moderate bounds 0 s)
    (hlevels : bounds.levels + room.reserve ≤ room.levels)
    (hhalf : halfPair = .unfollowed → bounds.halves = false) : Shallow room halfPair s := by
  have hnesting : Json.nesting s ≤ bounds.levels := h.nesting
  refine ⟨fun isObject he => ?_, fun he => ?_⟩
  · rcases readChars_error _ h.digits h.whole he with hmalformed | ⟨hdeep, -⟩ | ⟨-, hother⟩
    · cases hmalformed
    · omega
    · cases hother
  · rcases readChars_error _ h.digits h.whole he with
      hmalformed | ⟨-, _, hother⟩ | ⟨⟨hno, hhalves⟩ | hdeep, -⟩
    · cases hmalformed
    · cases hother
    · change bounds.halves = true at hhalves
      rw [hhalf hno] at hhalves
      cases hhalves
    · change room.levels < Json.nesting s + room.reserve at hdeep
      omega

end SourceCheck.Json

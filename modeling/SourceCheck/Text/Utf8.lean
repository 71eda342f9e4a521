/-!
# Texts as bytes

A text is stored in UTF-8.  Reading bytes back takes the longest well-formed sequences; where a
sequence breaks off, what was read of it counts as one unit without a character.

* `units`: the characters of a byte sequence, `none` for every maximal ill-formed part.
* `decode?`: the text, if every part is well formed.
* `decodeLossy`: the text with the replacement character for every ill-formed part.
-/

namespace SourceCheck.Text.Utf8

/-- **The bytes of a text.** -/
def encode (s : List Char) : List UInt8 := s.flatMap String.utf8EncodeChar

/-- A byte that continues a sequence. -/
def isContinuation (b : UInt8) : Bool := 0x80 ≤ b && b ≤ 0xBF

/-- The bytes that may follow the first byte of a longer sequence: a first byte at the end of its
range restricts them, so that no character has two spellings and none is a surrogate. -/
def secondOk (a b : UInt8) : Bool :=
  if a == 0xE0 then 0xA0 ≤ b && b ≤ 0xBF
  else if a == 0xED then 0x80 ≤ b && b ≤ 0x9F
  else if a == 0xF0 then 0x90 ≤ b && b ≤ 0xBF
  else if a == 0xF4 then 0x80 ≤ b && b ≤ 0x8F
  else isContinuation b

/-- The low six bits of a continuation byte. -/
def tailBits (b : UInt8) : Nat := b.toNat % 64

/-- **The characters of a byte sequence**, `none` for every maximal ill-formed part. -/
def units : List UInt8 → List (Option Char)
  | [] => []
  | a :: rest =>
    if a < 0x80 then some (Char.ofNat a.toNat) :: units rest
    else if 0xC2 ≤ a && a ≤ 0xDF then
      match rest with
      | [] => [none]
      | b :: rest₁ =>
        if isContinuation b then
          some (Char.ofNat ((a.toNat - 0xC0) * 64 + tailBits b)) :: units rest₁
        else none :: units (b :: rest₁)
    else if 0xE0 ≤ a && a ≤ 0xEF then
      match rest with
      | [] => [none]
      | b :: rest₁ =>
        if secondOk a b then
          match rest₁ with
          | [] => [none]
          | c :: rest₂ =>
            if isContinuation c then
              some (Char.ofNat ((a.toNat - 0xE0) * 4096 + tailBits b * 64 + tailBits c)) ::
                units rest₂
            else none :: units (c :: rest₂)
        else none :: units (b :: rest₁)
    else if 0xF0 ≤ a && a ≤ 0xF4 then
      match rest with
      | [] => [none]
      | b :: rest₁ =>
        if secondOk a b then
          match rest₁ with
          | [] => [none]
          | c :: rest₂ =>
            if isContinuation c then
              match rest₂ with
              | [] => [none]
              | d :: rest₃ =>
                if isContinuation d then
                  some (Char.ofNat ((a.toNat - 0xF0) * 262144 + tailBits b * 4096 +
                    tailBits c * 64 + tailBits d)) :: units rest₃
                else none :: units (d :: rest₃)
            else none :: units (c :: rest₂)
        else none :: units (b :: rest₁)
    else none :: units rest

/-- What an ill-formed part is shown as. -/
def replacement : Char := '\uFFFD'

/-- **The text of a well-formed byte sequence.** -/
def decode? (bytes : List UInt8) : Option (List Char) := (units bytes).mapM id

/-- **The text of any byte sequence**, with the replacement character for every ill-formed
part. -/
def decodeLossy (bytes : List UInt8) : List Char := (units bytes).map (·.getD replacement)

/-- Line ends of every kind become line feeds. -/
def unifyLineEnds : List Char → List Char
  | [] => []
  | '\r' :: '\n' :: cs => '\n' :: unifyLineEnds cs
  | c :: cs => (if c == '\r' then '\n' else c) :: unifyLineEnds cs

end SourceCheck.Text.Utf8

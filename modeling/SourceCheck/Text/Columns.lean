import SourceCheck.Text.Fields
import SourceCheck.Text.Runs
import SourceCheck.Text.WidthTable

/-!
# Columns on a terminal

A text takes the columns of its characters, but for two characters that change what stands beside
them: a joiner draws the next character into the one before it, and an emoji selector makes an
emoji of the character before it, which may need a second column then.

Tabs become spaces up to the next multiple of eight columns.  A line falls into pieces: each tab
closes the piece that its spaces end.

* `columns`: the columns of a text.
* `tabPieces`: the pieces of a line.
-/

namespace SourceCheck.Text

/-! ## 1. Widths -/

/-- **The columns that a character takes** on its own. -/
def columnsOf (c : Char) : Nat :=
  let n := c.toNat
  if 32 ≤ n && n < 127 then 1
  else if inRanges zeroWidthRanges n then 0
  else if inRanges doubleWidthRanges n then 2
  else 1

/-- The character that draws the next one into the one before it. -/
def joiner : Char := '\u200d'

/-- The character that makes an emoji of the one before it. -/
def emojiSelector : Char := '\ufe0f'

/-- The columns that an emoji selector adds to the character before it. -/
def addedColumns : Option Char → Nat
  | some c => if inRanges emojiRanges c.toNat then 1 else 0
  | none => 0

/-- The columns of the rest of a text.  `joined` says that a joiner stands in front of it, `last` is
the character before it that an emoji selector may still change. -/
def columnsBehind (joined : Bool) (last : Option Char) : List Char → Nat
  | [] => 0
  | c :: cs =>
    if joined then columnsBehind false last cs
    else if c = joiner then columnsBehind true last cs
    else if c = emojiSelector then addedColumns last + columnsBehind false none cs
    else columnsOf c + columnsBehind false (if columnsOf c = 0 then last else some c) cs

/-- **The columns that a text takes.** -/
def columns (s : List Char) : Nat := columnsBehind false none s

/-! ## 2. Tabs -/

/-- The distance between tab stops. -/
def tabStop : Nat := 8

/-- What a tab becomes behind some text: a space, and more of them up to the next tab stop. -/
def tabSpaces (column : Nat) (text : List Char) : Nat :=
  let reached := column + columns (text ++ [' '])
  1 + (tabStop - reached % tabStop) % tabStop

/-- The pieces that the parts of a line between its tabs become, from a given column on. -/
def tabPiecesFrom (column : Nat) : List (List Char) → List (List Char)
  | [] => []
  | [last] => if last = [] then [] else [last]
  | text :: rest =>
    let spaces := tabSpaces column text
    let reached := column + columns (text ++ [' ']) + (spaces - 1)
    (text ++ List.replicate spaces ' ') :: tabPiecesFrom reached rest

/-- **The pieces of a line**, with spaces in place of tabs. -/
def tabPieces (line : List Char) : List (List Char) := tabPiecesFrom 0 (fields '\t' line)

end SourceCheck.Text

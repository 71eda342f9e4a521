import SourceCheck.Text.Runs
import SourceCheck.Text.WordTable

/-!
# Word characters

Letters, digits and other numbers of every script, and the underscore.
-/

namespace SourceCheck.Text

/-- **Letters and numbers of every script.** -/
def isLetterOrNumber (c : Char) : Bool :=
  if c.toNat < 128 then c.isAlphanum else inRanges letterOrNumberRanges c.toNat

/-- **Word characters.** -/
def isWord (c : Char) : Bool := c == '_' || isLetterOrNumber c

end SourceCheck.Text

/-!
# Similar texts

Two texts are as similar as the share of characters that they have in common: the longest common
piece, and on either side of it again the longest common piece, and so on.

* `common`: how many characters two texts have in common.
* `similarTo`: those of some texts that are close to a given one.
-/

namespace SourceCheck.Text

/-- How many characters two texts share at their start. -/
def sharedStart : List Char → List Char → Nat
  | a :: as, b :: bs => if a == b then sharedStart as bs + 1 else 0
  | _, _ => 0

/-- **A common piece**: where it starts in either text, and its length. -/
structure CommonPiece where
  left : Nat
  right : Nat
  length : Nat
  deriving Repr, DecidableEq

/-- The longest common piece; of several the one that comes first, judged by the first text. -/
def longestCommon (a b : List Char) : CommonPiece :=
  (List.range a.length).foldl (fun best i =>
    (List.range b.length).foldl (fun best j =>
      let n := sharedStart (a.drop i) (b.drop j)
      if best.length < n then ⟨i, j, n⟩ else best) best) ⟨0, 0, 0⟩

/-- The characters in common, with a bound on the number of pieces. -/
def commonUpTo : Nat → List Char → List Char → Nat
  | 0, _, _ => 0
  | n + 1, a, b =>
    let p := longestCommon a b
    if p.length = 0 then 0
    else p.length + commonUpTo n (a.take p.left) (b.take p.right) +
      commonUpTo n (a.drop (p.left + p.length)) (b.drop (p.right + p.length))

/-- **How many characters two texts have in common.** -/
def common (a b : List Char) : Nat := commonUpTo (a.length + 1) a b

/-- Whether the common characters make up three fifths of both texts. -/
def isSimilar (a b : List Char) : Bool :=
  decide (3 * (a.length + b.length) ≤ 5 * (2 * common a b))

/-- Whether the first text comes before the second among those similar to a word: a larger share
in common, then the later one by code point. -/
def similarLe (word : List Char) (a b : String) : Bool :=
  let share := fun (s : String) => (common s.toList word, s.length + word.length)
  let (ma, ta) := share a
  let (mb, tb) := share b
  decide (mb * ta < ma * tb) || (mb * ta == ma * tb && decide (b ≤ a))

/-- The most texts that are given. -/
def similarLimit : Nat := 3

/-- **Those of some texts that are close to a word**, the closest first. -/
def similarTo (word : String) (texts : List String) : List String :=
  ((texts.filter fun s => isSimilar s.toList word.toList).mergeSort
    (similarLe word.toList)).take similarLimit

end SourceCheck.Text

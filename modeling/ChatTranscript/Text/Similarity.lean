import ChatTranscript.Text.Basic

/-!
# Similar texts

Two texts are similar if enough of them lies in common stretches, of which the longest is taken
first.

## Main definitions

* `Text.common`: how many characters lie in common stretches.
* `Text.closeMatches`: the candidates that are most similar to a word.
-/

namespace ChatTranscript

namespace Text

def commonPrefix : Text → Text → Nat
  | a :: as, b :: bs => if a = b then commonPrefix as bs + 1 else 0
  | _, _ => 0

/-- A stretch that two texts share: where it starts in each, and how long it is. -/
structure Stretch where
  left : Nat
  right : Nat
  length : Nat

/-- The longest stretch; of several, the first in the left text, then in the right one. -/
def longestStretch (a b : Text) : Stretch :=
  let starts := (List.range a.length).flatMap fun i => (List.range b.length).map fun j => (i, j)
  starts.foldl (fun best (i, j) =>
    let length := commonPrefix (a.drop i) (b.drop j)
    if best.length < length then ⟨i, j, length⟩ else best) ⟨0, 0, 0⟩

/-- Counts the longest stretch, then what lies before it and after it on both sides. The first
argument bounds the number of stretches. -/
def commonFrom : Nat → Text → Text → Nat
  | 0, _, _ => 0
  | bound + 1, a, b =>
    let s := longestStretch a b
    if s.length = 0 then 0
    else
      commonFrom bound (a.take s.left) (b.take s.right) + s.length +
        commonFrom bound (a.drop (s.left + s.length)) (b.drop (s.right + s.length))

def common (a b : Text) : Nat := commonFrom a.length a b

/-- At least three fifths of both texts lie in common stretches. -/
def isClose (a b : Text) : Bool := 3 * (a.length + b.length) ≤ 10 * common a b

/-- `a` is at least as similar to the word as `b`; of equally similar texts the later one in code
point order comes first. -/
def isNearer (word a b : Text) : Bool :=
  let left := common a word * (b.length + word.length)
  let right := common b word * (a.length + word.length)
  right < left || (left = right && le b a)

/-- The three most similar of the candidates that are close to a word. -/
def closeMatches (word : Text) (candidates : List Text) : List Text :=
  ((candidates.filter fun candidate => isClose candidate word).mergeSort (isNearer word)).take 3

end Text

end ChatTranscript

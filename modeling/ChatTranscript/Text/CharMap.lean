/-!
# Values of characters by ranges

A map from code points is a list of closed ranges in increasing order, each with one value.
-/

namespace ChatTranscript

abbrev CharMap (α : Type) := List (Nat × Nat × α)

namespace CharMap

def find? {α : Type} : CharMap α → Nat → Option α
  | [], _ => none
  | (low, high, value) :: rest, n =>
    if n < low then none else if n ≤ high then some value else find? rest n

end CharMap

end ChatTranscript

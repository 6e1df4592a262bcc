/-!
# Sets of characters as ranges

A set of code points is a list of closed ranges in increasing order.
-/

namespace ChatTranscript

abbrev CharRanges := List (Nat × Nat)

namespace CharRanges

def holds : CharRanges → Nat → Bool
  | [], _ => false
  | (low, high) :: rest, n => if n < low then false else n ≤ high || holds rest n

def contains (ranges : CharRanges) (c : Char) : Bool := holds ranges c.toNat

end CharRanges

end ChatTranscript

import ChatTranscript.Text.Quoted
import ChatTranscript.Binary64.Layout

/-!
# Faults of domain names

Positions in a label count from 1.
-/

namespace ChatTranscript

namespace DomainName

/-- A label as code points. A decoded one may hold surrogates, which no text does. -/
abbrev Label := List Nat

inductive Fault where
  | empty
  | tooLong
  | labelTooLong
  | emptyLabel
  | nothingEncoded
  | encodingEndsInHyphen
  | notEncoded
  | notComposed
  | reservedHyphens
  | outerHyphen
  | leadingMark
  | unknownNeighbour (point position : Nat) (label : Label)
  | joiner (point position : Nat) (label : Label)
  | neighbours (point position : Nat) (label : Label)
  | disallowed (point position : Nat) (label : Label)
  | unknownDirection (position : Nat) (label : Label)
  | leadingDirection (label : Label)
  | rightToLeftDirection (position : Nat)
  | leftToRightDirection (position : Nat)
  | mixedNumerals
  | endingDirection

/-- `U+` and at least four digits. -/
def pointName (point : Nat) : Text :=
  let digits := (Nat.toDigits 16 point).map Char.toUpper
  "U+".toList ++ List.replicate (4 - digits.length) '0' ++ digits

def Fault.message : Fault → Text
  | .empty => "Empty domain".toList
  | .tooLong => "Domain too long".toList
  | .labelTooLong => "Label too long".toList
  | .emptyLabel => "Empty Label".toList
  | .nothingEncoded => "Malformed A-label, no Punycode eligible content found".toList
  | .encodingEndsInHyphen => "A-label must not end with a hyphen".toList
  | .notEncoded => "Invalid A-label".toList
  | .notComposed => "Label must be in Normalization Form C".toList
  | .reservedHyphens => "Label has disallowed hyphens in 3rd and 4th position".toList
  | .outerHyphen => "Label must not start or end with a hyphen".toList
  | .leadingMark => "Label begins with an illegal combining character".toList
  | .unknownNeighbour point position label =>
    "Unknown codepoint adjacent to joiner ".toList ++ pointName point ++
      " at position ".toList ++ Text.ofNat position ++ " in ".toList ++ Text.quotedPoints label
  | .joiner point position label =>
    "Joiner ".toList ++ pointName point ++ " not allowed at position ".toList ++
      Text.ofNat position ++ " in ".toList ++ Text.quotedPoints label
  | .neighbours point position label =>
    "Codepoint ".toList ++ pointName point ++ " not allowed at position ".toList ++
      Text.ofNat position ++ " in ".toList ++ Text.quotedPoints label
  | .disallowed point position label =>
    "Codepoint ".toList ++ pointName point ++ " at position ".toList ++ Text.ofNat position ++
      " of ".toList ++ Text.quotedPoints label ++ " not allowed".toList
  | .unknownDirection position label =>
    "Unknown directionality in label ".toList ++ Text.quotedPoints label ++
      " at position ".toList ++ Text.ofNat position
  | .leadingDirection label =>
    "First codepoint in label ".toList ++ Text.quotedPoints label ++
      " must be directionality L, R or AL".toList
  | .rightToLeftDirection position =>
    "Invalid direction for codepoint at position ".toList ++ Text.ofNat position ++
      " in a right-to-left label".toList
  | .leftToRightDirection position =>
    "Invalid direction for codepoint at position ".toList ++ Text.ofNat position ++
      " in a left-to-right label".toList
  | .mixedNumerals => "Can not mix numeral types in a right-to-left label".toList
  | .endingDirection => "Label ends with illegal codepoint directionality".toList

/-- The name of a kind of fault. -/
def Fault.kind : Fault → Text
  | .disallowed _ _ _ => "InvalidCodepoint".toList
  | .joiner _ _ _ | .neighbours _ _ _ => "InvalidCodepointContext".toList
  | .unknownDirection _ _ | .leadingDirection _ | .rightToLeftDirection _
  | .leftToRightDirection _ | .mixedNumerals | .endingDirection => "IDNABidiError".toList
  | _ => "IDNAError".toList

end DomainName

end ChatTranscript

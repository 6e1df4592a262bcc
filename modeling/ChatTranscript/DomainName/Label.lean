import ChatTranscript.Text.Composition
import ChatTranscript.DomainName.Permitted
import ChatTranscript.DomainName.Joining
import ChatTranscript.DomainName.Direction

/-!
# Labels of domain names

## Main definitions

* `Label.check`: the rules on the characters of a label.
-/

namespace ChatTranscript

namespace DomainName

namespace Label

/-! ## neighbours -/

/-- The class of the marks that take the vowel off a consonant. -/
def viramaClass : Nat := 9

def followsVirama (before : Label) : Bool :=
  before.head?.any fun point => combiningClass point = viramaClass

/-- A character beyond Unicode 14 has no name here, and neither has an ideograph of Tangut. -/
def isNameless (point : Nat) : Bool :=
  Direction.of point = .unknown || CharRanges.tangut.holds point

def pastTransparent (points : Label) : Option Joining :=
  match points.find? fun point => Joining.of? point ≠ some .transparent with
  | some point => Joining.of? point
  | none => none

def nonJoiner : Nat := 0x200C
def joiner : Nat := 0x200D

def isJoiner (point : Nat) : Bool := point = nonJoiner || point = joiner

/-- Either joiner may follow a virama; a non-joiner may also part two characters that would join.
`before` is what stands in front, nearest first. -/
def mayJoin (point : Nat) (before after : Label) : Bool :=
  followsVirama before ||
    (point = nonJoiner && Joining.joinsNext (pastTransparent before) &&
      Joining.joinsPrevious (pastTransparent after))

def isArabicDigit (point : Nat) : Bool := 0x660 ≤ point && point ≤ 0x669

def isExtendedArabicDigit (point : Nat) : Bool := 0x6F0 ≤ point && point ≤ 0x6F9

/-- A middle dot stands between two `l`, a Greek numeral sign before Greek, Hebrew punctuation after
Hebrew, a Katakana dot in a label with kana or Han, and digits of one Arabic kind. -/
def fits (point : Nat) (before after : Label) : Bool :=
  let others := before ++ after
  if point = 0xB7 then before.head? = some 0x6C && after.head? = some 0x6C
  else if point = 0x375 then after.head?.any CharRanges.greek.holds
  else if point = 0x5F3 || point = 0x5F4 then before.head?.any CharRanges.hebrew.holds
  else if point = 0x30FB then
    others.any fun other => other ≠ 0x30FB && CharRanges.kanaOrHan.holds other
  else if isArabicDigit point then !others.any isExtendedArabicDigit
  else !others.any isArabicDigit

/-! ## the rules -/

/-- Checks the characters after `before`, which holds what stands in front, nearest first. -/
def checkPoints (label before : Label) : Label → Except Fault Unit
  | [] => .ok ()
  | point :: after =>
    let position := before.length + 1
    if CharRanges.permitted.holds point then checkPoints label (point :: before) after
    else if isJoiner point then
      if before.head?.any isNameless then .error (.unknownNeighbour point position label)
      else if mayJoin point before after then checkPoints label (point :: before) after
      else .error (.joiner point position label)
    else if CharRanges.contextual.holds point then
      if fits point before after then checkPoints label (point :: before) after
      else .error (.neighbours point position label)
    else .error (.disallowed point position label)

def hyphen : Nat := 0x2D

def check (label : Label) : Except Fault Unit :=
  if label.isEmpty then .error .emptyLabel
  else if !Composition.isComposed label then .error .notComposed
  else if (label.drop 2).take 2 == [hyphen, hyphen] then .error .reservedHyphens
  else if label.head? = some hyphen || label.getLast? = some hyphen then .error .outerHyphen
  else if label.head?.any CharRanges.mark.holds then .error .leadingMark
  else
    match checkPoints label [] label with
    | .error fault => .error fault
    | .ok () => Direction.check label

end Label

end DomainName

end ChatTranscript

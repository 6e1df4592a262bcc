import ChatTranscript.Text.Combining
import ChatTranscript.Text.CompositionTable

/-!
# Composed texts

A text is composed if it is what comes out when all its characters are taken apart, the marks are
put in order, and characters are put together again as far as possible.

## Main definitions

* `Composition.compose`: the composed form of a text, apart from characters that stand for others.
* `Composition.isComposed`: a text that is its own composed form.
-/

namespace ChatTranscript

namespace Composition

/-! ## syllables of Hangul -/

def firstSyllable : Nat := 0xAC00
def firstLead : Nat := 0x1100
def firstVowel : Nat := 0x1161
/-- The code point before the first tail: a syllable without a tail has tail 0. -/
def noTail : Nat := 0x11A7

def leadCount : Nat := 19
def vowelCount : Nat := 21
def tailCount : Nat := 28

def isSyllable (point : Nat) : Bool :=
  firstSyllable ≤ point && point < firstSyllable + leadCount * vowelCount * tailCount

/-- A syllable with a tail is taken apart before the tail, any other before the vowel. -/
def syllableParts (point : Nat) : Nat × Nat :=
  let index := point - firstSyllable
  let tail := index % tailCount
  if tail = 0 then
    (firstLead + index / (vowelCount * tailCount),
      firstVowel + index / tailCount % vowelCount)
  else (point - tail, noTail + tail)

def syllable? (base mark : Nat) : Option Nat :=
  if firstLead ≤ base && base < firstLead + leadCount &&
      firstVowel ≤ mark && mark < firstVowel + vowelCount then
    some (firstSyllable +
      ((base - firstLead) * vowelCount + (mark - firstVowel)) * tailCount)
  else if isSyllable base && (base - firstSyllable) % tailCount = 0 &&
      noTail < mark && mark < noTail + tailCount then
    some (base + (mark - noTail))
  else none

/-! ## taking apart and putting together -/

def parts? (point : Nat) : Option (Nat × Nat) :=
  if isSyllable point then some (syllableParts point)
  else (composites.find? (·.whole = point)).map fun composite => (composite.base, composite.mark)

def whole? (base mark : Nat) : Option Nat :=
  (syllable? base mark).or
    ((composites.find? fun composite => composite.base = base && composite.mark = mark).map
      (·.whole))

/-- The most marks that one character is made of. -/
def maxMarks : Nat := 3

/-- Takes up to `depth` marks off a character; a mark itself has no parts. -/
def decompose : Nat → Nat → List Nat
  | 0, point => [point]
  | depth + 1, point =>
    match parts? point with
    | some (base, mark) => decompose depth base ++ [mark]
    | none => [point]

/-- Moves a mark behind the marks of lower classes that follow it. -/
def place (point : Nat) : List Nat → List Nat
  | [] => [point]
  | next :: rest =>
    if 0 < combiningClass next && combiningClass next < combiningClass point then
      next :: place point rest
    else point :: next :: rest

def sortMarks (points : List Nat) : List Nat := points.foldr place []

/-- A character meets the base unless a mark of the same or a higher class stands between. -/
def meets (between : List Nat) (point : Nat) : Bool :=
  match between.getLast? with
  | none => true
  | some mark => combiningClass mark < combiningClass point

/-- Puts characters together with the last base where they meet it. -/
def composeOnto (base : Nat) (between : List Nat) : List Nat → List Nat
  | [] => base :: between
  | point :: rest =>
    match if meets between point then whole? base point else none with
    | some whole => composeOnto whole between rest
    | none =>
      if combiningClass point = 0 then base :: between ++ composeOnto point [] rest
      else composeOnto base (between ++ [point]) rest

def composeSorted : List Nat → List Nat
  | [] => []
  | point :: rest =>
    if combiningClass point = 0 then composeOnto point [] rest else point :: composeSorted rest

def compose (points : List Nat) : List Nat :=
  composeSorted (sortMarks (points.flatMap (decompose maxMarks)))

def isComposed (points : List Nat) : Bool :=
  !points.any CharRanges.standIns.holds && compose points == points

end Composition

end ChatTranscript

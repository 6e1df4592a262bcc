import ChatTranscript.Text.Basic

/-!
# Punycode

Code points beyond ASCII are written in increasing order, each by the gap from the one before it,
which also tells the place where it goes in. A gap is a number whose digits tell where it ends, by
thresholds that adapt to the gaps before it.

## Main definitions

* `Punycode.encode`: code points as lower-case letters, digits and hyphens.
* `Punycode.decode`: the code points that a text stands for.
-/

namespace ChatTranscript

namespace Punycode

/-! ## digits -/

def digit (value : Nat) : Char := Char.ofNat (if value < 26 then 97 + value else 22 + value)

def value? (c : Char) : Option Nat :=
  if 'a' ≤ c ∧ c ≤ 'z' then some (c.toNat - 97)
  else if 'A' ≤ c ∧ c ≤ 'Z' then some (c.toNat - 65)
  else if '0' ≤ c ∧ c ≤ '9' then some (c.toNat - 22)
  else none

/-- A digit below the threshold of its place is the last one. Places are 36, 72, 108, …. -/
def threshold (bias place : Nat) : Nat := max 1 (min 26 (place - bias))

/-! ## adaptation -/

def scaleDown (gap : Nat) : Nat × Nat :=
  if 455 < gap then
    let (gap, steps) := scaleDown (gap / 35)
    (gap, steps + 1)
  else (gap, 0)
termination_by gap
decreasing_by exact Nat.div_lt_self (by omega) (by omega)

/-- The bias after a gap, when `count` code points stand. -/
def nextBias (gap count : Nat) (isFirst : Bool) : Nat :=
  let gap := if isFirst then gap / 700 else gap / 2
  let (gap, steps) := scaleDown (gap + gap / count)
  36 * steps + 36 * gap / (gap + 38)

def firstBias : Nat := 72

/-! ## reading -/

/-- A run of digits half read: the code points so far and the gap that is being read. -/
structure Reading where
  points : List Nat
  latest : Nat
  index : Nat
  bias : Nat
  isFirst : Bool
  gap : Nat
  weight : Nat
  place : Nat

def Reading.start (points : List Nat) : Reading := ⟨points, 0x80, 0, firstBias, true, 0, 1, 36⟩

def maxPoint : Nat := 0x10FFFF

/-- The code point of a finished gap goes in; the gap counts round the places it can go to. -/
def Reading.insert? (reading : Reading) : Option Reading :=
  let count := reading.points.length + 1
  let total := reading.index + reading.gap
  let latest := reading.latest + total / count
  let index := total % count
  if latest ≤ maxPoint then
    some ⟨reading.points.take index ++ latest :: reading.points.drop index, latest, index + 1,
      nextBias reading.gap count reading.isFirst, false, 0, 1, 36⟩
  else none

def Reading.next? (reading : Reading) (c : Char) : Option Reading :=
  match value? c with
  | none => none
  | some value =>
    let threshold := threshold reading.bias reading.place
    let longer :=
      { reading with
        gap := reading.gap + value * reading.weight
        weight := reading.weight * (36 - threshold)
        place := reading.place + 36 }
    if value < threshold then longer.insert? else some longer

def Reading.isBetweenGaps (reading : Reading) : Bool := reading.place = 36

/-- The characters before the last hyphen stand for themselves. -/
def decode (text : Text) : Option (List Nat) :=
  let (plain, digits) := (Text.cutLast? '-' text).getD ([], text)
  match digits.foldlM Reading.next? (Reading.start (plain.map Char.toNat)) with
  | some reading => if reading.isBetweenGaps then some reading.points else none
  | none => none

/-! ## writing -/

theorem threshold_pos (bias place : Nat) : 0 < threshold bias place := by
  unfold threshold; omega

def writeGap (bias place gap : Nat) : Text :=
  let least := threshold bias place
  if gap < least then [digit gap]
  else
    digit (least + (gap - least) % (36 - least)) ::
      writeGap bias (place + 36) ((gap - least) / (36 - least))
termination_by gap
decreasing_by
  have := threshold_pos bias place
  have := Nat.div_le_self (gap - threshold bias place) (36 - threshold bias place)
  omega

/-- The digits so far and the gap that has run up since the last code point. -/
structure Writing where
  digits : Text
  gap : Nat
  bias : Nat
  count : Nat
  isFirst : Bool

/-- One position of the text, while `point` is being written. -/
def Writing.pass (point : Nat) (writing : Writing) (here : Nat) : Writing :=
  if here < point then { writing with gap := writing.gap + 1 }
  else if here = point then
    ⟨writing.digits ++ writeGap writing.bias 36 writing.gap, 0,
      nextBias writing.gap (writing.count + 1) writing.isFirst, writing.count + 1, false⟩
  else writing

/-- Writes the code points of a list in increasing order, from `next` on. -/
def writePoints (points : List Nat) (writing : Writing) (next : Nat) : List Nat → Writing
  | [] => writing
  | point :: rest =>
    let reached := { writing with gap := writing.gap + (point - next) * (writing.count + 1) }
    let passed := points.foldl (Writing.pass point) reached
    writePoints points { passed with gap := passed.gap + 1 } (point + 1) rest

def encode (points : List Nat) : Text :=
  let plain := points.filter (· < 0x80)
  let others := (points.filter (0x80 ≤ ·)).mergeSort.eraseDups
  (if plain.isEmpty then [] else plain.map Char.ofNat ++ ['-']) ++
    (writePoints points ⟨[], 0, firstBias, plain.length, true⟩ 0x80 others).digits

end Punycode

end ChatTranscript

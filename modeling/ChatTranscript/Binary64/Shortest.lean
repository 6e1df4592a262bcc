import ChatTranscript.Binary64.Basic

/-!
# The shortest decimal of a magnitude

Among the decimals that round to a magnitude, one with the fewest digits, and of those the
nearest. On the grid of decimals with a given number of digits only the two neighbours of the
value are tried: if any point of the grid rounds to the value, one of them does.

## Main definitions

* `Decimal`: digits and a power of ten.
* `Magnitude.rounds`: a decimal lies among the numbers that round to the magnitude.
* `Magnitude.shortest`: the shortest decimal.
-/

namespace ChatTranscript

/-- The number `digits · 10 ^ exponent`. -/
structure Decimal where
  digits : Nat
  exponent : Int
  deriving DecidableEq

namespace Decimal

/-- A decimal as a quotient of natural numbers. -/
def ratio (d : Decimal) : Nat × Nat :=
  match d.exponent with
  | .ofNat e => (d.digits * Nat.pow 10 e, 1)
  | .negSucc e => (d.digits, Nat.pow 10 (e + 1))

/-- The same number with its last digit not zero; `count` bounds the zeros that are dropped. -/
def dropZeros : Nat → Decimal → Decimal
  | 0, d => d
  | count + 1, d =>
    if d.digits ≠ 0 ∧ d.digits % 10 = 0 then dropZeros count ⟨d.digits / 10, d.exponent + 1⟩ else d

end Decimal

namespace Magnitude

/-- The bounds of the numbers that round to `x`, in quarters of a unit. Below a power of two the
neighbour is half as far. -/
def bounds (x : Magnitude) : Nat × Nat :=
  let value := 4 * x.units
  let step := Nat.pow 2 x.scale
  let below := if x.significand = Nat.pow 2 52 ∧ x.scale ≠ 0 then step else 2 * step
  (value - below, value + 2 * step)

/-- A decimal rounds to `x`. The bounds count only for an even significand. -/
def rounds (x : Magnitude) (d : Decimal) : Bool :=
  let (num, den) := d.ratio
  let quarters := 4 * num * unitsPerOne
  let (low, high) := x.bounds
  if x.significand % 2 = 0 then low * den ≤ quarters && quarters ≤ high * den
  else low * den < quarters && quarters < high * den

/-- Which of two neighbours `d`, `d + 1` on a grid is nearer to `x`; a half goes to the even one. -/
def nearer (x : Magnitude) (low : Decimal) : Decimal :=
  let high : Decimal := ⟨low.digits + 1, low.exponent⟩
  let (sum, den) := (Decimal.mk (2 * low.digits + 1) low.exponent).ratio
  let middle := sum * unitsPerOne
  let twice := 2 * x.units * den
  if twice < middle then low
  else if middle < twice then high
  else if low.digits % 2 = 0 then low
  else high

/-- The greatest decimal with the given exponent that is at most `x`. -/
def floor (x : Magnitude) (exponent : Int) : Decimal :=
  match exponent with
  | .ofNat e => ⟨x.units / (unitsPerOne * Nat.pow 10 e), exponent⟩
  | .negSucc e => ⟨x.units * Nat.pow 10 (e + 1) / unitsPerOne, exponent⟩

/-- The neighbours of `x` on the grid of an exponent that round to `x`, if any does. -/
def onGrid? (x : Magnitude) (exponent : Int) : Option Decimal :=
  let low := x.floor exponent
  let high : Decimal := ⟨low.digits + 1, exponent⟩
  match x.rounds low, x.rounds high with
  | true, true => some (x.nearer low)
  | true, false => some low
  | false, true => some high
  | false, false => none

/-- Tries grids from coarse to fine. -/
def firstGrid (x : Magnitude) (exponent : Int) : Nat → Decimal
  | 0 => x.floor exponent
  | tries + 1 => (x.onGrid? exponent).getD (firstGrid x (exponent - 1) tries)

/-- The place of the first decimal digit: `10 ^ place ≤ x < 10 ^ (place + 1)`. -/
def place (x : Magnitude) : Int :=
  if unitsPerOne ≤ x.units then ((Nat.toDigits 10 (x.units / unitsPerOne)).length : Int) - 1
  else ((Nat.toDigits 10 (x.units * Nat.pow 10 400 / unitsPerOne)).length : Int) - 401

/-- A shortest decimal that rounds to `x`, the nearest of them. Seventeen digits always suffice. -/
def shortest (x : Magnitude) : Decimal :=
  if x.significand = 0 then ⟨0, 0⟩
  else (firstGrid x x.place 17).dropZeros 20

end Magnitude

end ChatTranscript

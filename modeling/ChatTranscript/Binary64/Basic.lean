/-!
# Binary floating point with 53 significant bits

A finite value is a sign and a magnitude, counted in units of `2 ^ -1074`, the least positive
value. Everything is exact arithmetic on natural numbers.

## Main definitions

* `Binary64`: not a number, the two infinities and the signed finite values.
* `Magnitude.nearest`: the magnitude nearest to a quotient, a half going to the even neighbour.
* `Binary64.ofDecimal`: the value nearest to a decimal.
-/

namespace ChatTranscript

/-- The quotient `num / den` to the nearest natural number; a half goes to the even neighbour. -/
def roundDiv (num den : Nat) : Nat :=
  let quotient := num / den
  let twice := 2 * (num % den)
  if twice < den then quotient
  else if den < twice then quotient + 1
  else if quotient % 2 = 0 then quotient
  else quotient + 1

/-- The size of a finite value: `significand · 2 ^ scale` units of `2 ^ -1074`, with the
significand in 53 bits and the first of them set unless the scale is 0. -/
structure Magnitude where
  significand : Nat
  scale : Nat
  significand_lt : significand < Nat.pow 2 53
  leading : Nat.pow 2 52 ≤ significand ∨ scale = 0
  scale_le : scale ≤ 2045
  deriving DecidableEq

namespace Magnitude

def unitsPerOne : Nat := Nat.pow 2 1074

def units (x : Magnitude) : Nat := x.significand * Nat.pow 2 x.scale

def zero : Magnitude := ⟨0, 0, by decide, .inr rfl, by decide⟩

def ofParts? (significand scale : Nat) : Option Magnitude :=
  if h : significand < Nat.pow 2 53 ∧ (Nat.pow 2 52 ≤ significand ∨ scale = 0) ∧ scale ≤ 2045 then
    some ⟨significand, scale, h.1, h.2.1, h.2.2⟩
  else none

/-- The magnitude nearest to `num / den` units, a half going to the even significand; none beyond
the greatest. -/
def nearest (num den : Nat) : Option Magnitude :=
  let scale := (num / den).log2 - 52
  let significand := roundDiv num (den * Nat.pow 2 scale)
  if significand = Nat.pow 2 53 then ofParts? (Nat.pow 2 52) (scale + 1)
  else ofParts? significand scale

end Magnitude

inductive Binary64 where
  | nan
  | infinity (negative : Bool)
  | finite (negative : Bool) (magnitude : Magnitude)
  deriving DecidableEq

namespace Binary64

def zero : Binary64 := .finite false .zero

/-- The value nearest to `num / den` units with the given sign. -/
def ofUnits (negative : Bool) (num den : Nat) : Binary64 :=
  match Magnitude.nearest num den with
  | some magnitude => .finite negative magnitude
  | none => .infinity negative

/-- The value nearest to `digits · 10 ^ exponent`. The first two cases are decided by the count of
digits alone, so no power of ten beyond the range is computed. -/
def ofDecimal (negative : Bool) (digits : Nat) (exponent : Int) : Binary64 :=
  let reach : Int := exponent + (Nat.toDigits 10 digits).length
  if digits = 0 ∨ reach ≤ -324 then .finite negative .zero
  else if 310 ≤ reach then .infinity negative
  else match exponent with
    | .ofNat e => ofUnits negative (digits * Nat.pow 10 e * Magnitude.unitsPerOne) 1
    | .negSucc e => ofUnits negative (digits * Magnitude.unitsPerOne) (Nat.pow 10 (e + 1))

def ofInt (n : Int) : Binary64 :=
  ofUnits (n < 0) (n.natAbs * Magnitude.unitsPerOne) 1

/-- The integer that a finite value without a fraction equals. -/
def toInt? : Binary64 → Option Int
  | .finite negative magnitude =>
    if magnitude.units % Magnitude.unitsPerOne = 0 then
      let n : Int := magnitude.units / Magnitude.unitsPerOne
      some (if negative then -n else n)
    else none
  | _ => none

def isZero : Binary64 → Bool
  | .finite _ magnitude => magnitude.significand = 0
  | _ => false

/-- The exact value of a finite number in units. -/
def signedUnits (negative : Bool) (magnitude : Magnitude) : Int :=
  if negative then -magnitude.units else magnitude.units

/-- The difference, rounded to the nearest value. -/
def sub : Binary64 → Binary64 → Binary64
  | .nan, _ | _, .nan => .nan
  | .infinity a, .infinity b => if a = b then .nan else .infinity a
  | .infinity a, _ => .infinity a
  | _, .infinity b => .infinity !b
  | .finite a x, .finite b y =>
    let difference := signedUnits a x - signedUnits b y
    if difference = 0 then .finite (a && !b) .zero
    else ofUnits (difference < 0) difference.natAbs 1

end Binary64

end ChatTranscript

import ChatTranscript.Text.Basic
import ChatTranscript.Binary64.Shortest

/-!
# Numbers as text

Integers in decimal, floating-point values by their shortest decimal, and values with a fixed
number of places.

## Main definitions

* `Text.ofInt`: an integer.
* `Binary64.text`: the shortest text that reads back, with a point or an exponent.
* `Binary64.fixed`: a given number of places, rounded exactly.
-/

namespace ChatTranscript

namespace Text

def ofNat (n : Nat) : Text := Nat.toDigits 10 n

def ofInt : Int → Text
  | .ofNat n => ofNat n
  | .negSucc n => '-' :: ofNat (n + 1)

/-- At least `width` digits, with zeros in front. -/
def ofNatPadded (width n : Nat) : Text :=
  List.replicate (width - (ofNat n).length) '0' ++ ofNat n

end Text

namespace Decimal

/-- Digits around the point, with at least one digit on either side. -/
def positional (d : Decimal) : Text :=
  match d.exponent with
  | .ofNat e => Text.ofNat (d.digits * Nat.pow 10 e) ++ ".0".toList
  | .negSucc e =>
    let places := e + 1
    let digits := Text.ofNatPadded (places + 1) d.digits
    digits.take (digits.length - places) ++ '.' :: digits.drop (digits.length - places)

/-- One digit, the others after a point, and a signed exponent of at least two digits. -/
def scientific (d : Decimal) : Text :=
  let digits := Text.ofNat d.digits
  let power := d.exponent + digits.length - 1
  let fraction := digits.drop 1
  digits.take 1 ++ (if fraction.isEmpty then [] else '.' :: fraction) ++
    'e' :: (if power < 0 then '-' else '+') :: Text.ofNatPadded 2 power.natAbs

/-- Positional from `10 ^ -4` up to, but not including, `10 ^ 16`; scientific elsewhere. -/
def text (d : Decimal) : Text :=
  let point := d.exponent + (Text.ofNat d.digits).length
  if -4 < point ∧ point ≤ 16 then d.positional else d.scientific

end Decimal

namespace Binary64

def signed (negative : Bool) (text : Text) : Text := if negative then '-' :: text else text

/-- The shortest text that reads back as the same value. -/
def text : Binary64 → Text
  | .nan => "nan".toList
  | .infinity negative => signed negative "inf".toList
  | .finite negative magnitude => signed negative magnitude.shortest.text

/-- Exactly `places` digits after the point; a half goes to the even neighbour. -/
def fixed (places : Nat) : Binary64 → Text
  | .nan => "nan".toList
  | .infinity negative => signed negative "inf".toList
  | .finite negative magnitude =>
    let digits := Text.ofNatPadded (places + 1)
      (roundDiv (magnitude.units * Nat.pow 10 places) Magnitude.unitsPerOne)
    signed negative
      (digits.take (digits.length - places) ++ '.' :: digits.drop (digits.length - places))

end Binary64

end ChatTranscript

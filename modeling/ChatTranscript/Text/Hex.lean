import ChatTranscript.Text.Basic

/-!
# Hexadecimal digits
-/

namespace ChatTranscript

namespace Hex

/-- The value of a digit of either case. -/
def value? (c : Char) : Option Nat :=
  if '0' ≤ c ∧ c ≤ '9' then some (c.toNat - 48)
  else if 'a' ≤ c ∧ c ≤ 'f' then some (c.toNat - 87)
  else if 'A' ≤ c ∧ c ≤ 'F' then some (c.toNat - 55)
  else none

def lowerDigit (n : Nat) : Char := Char.ofNat (if n < 10 then 48 + n else 87 + n)

def upperDigit (n : Nat) : Char := Char.ofNat (if n < 10 then 48 + n else 55 + n)

/-- The `width` lowest digits, in lower case. -/
def lowerDigits : Nat → Nat → Text
  | 0, _ => []
  | width + 1, n => lowerDigits width (n / 16) ++ [lowerDigit (n % 16)]

end Hex

end ChatTranscript

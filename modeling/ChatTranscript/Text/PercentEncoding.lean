import ChatTranscript.Text.Utf8
import ChatTranscript.Text.Hex

/-!
# Percent encoding

A byte that may not stand for itself is written `%` and two upper-case hexadecimal digits.

## Main definitions

* `PercentEncoding.encodeComponent`: a text as one component of a URL.
* `PercentEncoding.decode`: the text with its escapes undone.
-/

namespace ChatTranscript

namespace PercentEncoding

/-- The characters that stand for themselves in a component. -/
def isUnreserved (c : Char) : Bool :=
  ('a' ≤ c && c ≤ 'z') || ('A' ≤ c && c ≤ 'Z') || ('0' ≤ c && c ≤ '9') ||
    "-_.!~*'()".toList.contains c

def escapeByte (byte : UInt8) : Text :=
  ['%', Hex.upperDigit (byte.toNat / 16), Hex.upperDigit (byte.toNat % 16)]

def encodeChar (c : Char) : Text :=
  if isUnreserved c then [c] else (String.utf8EncodeChar c).flatMap escapeByte

def encodeComponent (text : Text) : Text := text.flatMap encodeChar

/-- The byte that two hexadecimal digits spell. -/
def byte? (high low : Char) : Option UInt8 :=
  match Hex.value? high, Hex.value? low with
  | some h, some l => some (UInt8.ofNat (16 * h + l))
  | _, _ => none

/-- Decodes with the bytes read since the last character beyond ASCII, in reverse. Escapes and ASCII
characters give bytes; any other character ends the run of bytes. -/
def decodeFrom (pending : List UInt8) : Text → Text
  | '%' :: high :: low :: rest =>
    match byte? high low with
    | some byte => decodeFrom (byte :: pending) rest
    | none => decodeFrom (0x25 :: pending) (high :: low :: rest)
  | c :: rest =>
    if c.toNat < 128 then decodeFrom (UInt8.ofNat c.toNat :: pending) rest
    else Utf8.decodeLossy pending.reverse ++ c :: decodeFrom [] rest
  | [] => Utf8.decodeLossy pending.reverse

def decode (text : Text) : Text := decodeFrom [] text

end PercentEncoding

end ChatTranscript

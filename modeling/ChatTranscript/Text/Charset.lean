import ChatTranscript.Text.Basic
import ChatTranscript.Text.Hex
import ChatTranscript.Binary64.Layout

/-!
# Charsets

A charset has the characters below a bound. A text with others cannot be encoded in it, and the
first stretch of them is named.

## Main definitions

* `Charset`: a charset by its name and its size.
* `Charset.lacks?`: what stands in the way of encoding a text.
-/

namespace ChatTranscript

structure Charset where
  name : Text
  size : Nat

namespace Charset

def ascii : Charset := ⟨"ascii".toList, 128⟩

def latin1 : Charset := ⟨"latin-1".toList, 256⟩

/-- Characters in a row that a charset does not have, behind so many others. -/
structure Gap where
  charset : Charset
  position : Nat
  stretch : Text

/-- A character as two, four or eight hexadecimal digits. -/
def hexEscape (c : Char) : Text :=
  if c.toNat < 0x100 then "\\x".toList ++ Hex.lowerDigits 2 c.toNat
  else if c.toNat < 0x10000 then "\\u".toList ++ Hex.lowerDigits 4 c.toNat
  else "\\U".toList ++ Hex.lowerDigits 8 c.toNat

def Gap.message (gap : Gap) : Text :=
  "'".toList ++ gap.charset.name ++ "' codec can't encode character".toList ++
    (match gap.stretch with
      | [c] => " '".toList ++ hexEscape c ++ "' in position ".toList ++ Text.ofNat gap.position
      | _ =>
        "s in position ".toList ++ Text.ofNat gap.position ++ "-".toList ++
          Text.ofNat (gap.position + gap.stretch.length - 1)) ++
    ": ordinal not in range(".toList ++ Text.ofNat gap.charset.size ++ ")".toList

def lacks? (charset : Charset) (text : Text) : Option Gap :=
  match Text.spanWhile (fun c => c.toNat < charset.size) text with
  | (_, []) => none
  | (before, rest) =>
    some ⟨charset, before.length, rest.takeWhile fun c => charset.size ≤ c.toNat⟩

end Charset

end ChatTranscript

import ChatTranscript.Text.Printable
import ChatTranscript.Text.Hex

/-!
# Quoted texts

A text between quotes, with escapes for the quote, the backslash and whatever is not printable.
Single quotes are used unless the text holds one and no double quote.

## Main definitions

* `Text.quoted`: a text between quotes.
* `Text.quotedPoints`: the same for code points that may be surrogates.
-/

namespace ChatTranscript

namespace Text

def quotedChar (quote c : Char) : Text :=
  if c = quote ∨ c = '\\' then ['\\', c]
  else if c = '\t' then "\\t".toList
  else if c = '\n' then "\\n".toList
  else if c = '\r' then "\\r".toList
  else if isPrintable c then [c]
  else if c.toNat < 0x100 then "\\x".toList ++ Hex.lowerDigits 2 c.toNat
  else if c.toNat < 0x10000 then "\\u".toList ++ Hex.lowerDigits 4 c.toNat
  else "\\U".toList ++ Hex.lowerDigits 8 c.toNat

def quoteFor (text : Text) : Char :=
  if text.contains '\'' && !text.contains '"' then '"' else '\''

def quoted (text : Text) : Text :=
  let quote := quoteFor text
  quote :: text.flatMap (quotedChar quote) ++ [quote]

/-! ## code points -/

/-- A surrogate is no character, and is escaped. -/
def quotedPoint (quote : Char) (point : Nat) : Text :=
  let c := Char.ofNat point
  if c.toNat = point then quotedChar quote c else "\\u".toList ++ Hex.lowerDigits 4 point

def quotedPoints (points : List Nat) : Text :=
  let quote := quoteFor (points.map Char.ofNat)
  quote :: points.flatMap (quotedPoint quote) ++ [quote]

end Text

end ChatTranscript

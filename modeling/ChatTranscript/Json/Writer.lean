import ChatTranscript.Json.Basic
import ChatTranscript.Binary64.Layout
import ChatTranscript.Text.Hex
import ChatTranscript.Text.Quoted

/-!
# JSON text

Characters beyond ASCII stand for themselves. The text is compact or has a blank after each comma
and colon.

## Main definitions

* `Json.write`: the JSON text of a value.
* `Json.sortKeys`: the value with the keys of every object in code point order.
* `Json.literal`, `Json.asText`: a value in running text, with `None`, `True` and quoted strings.
-/

namespace ChatTranscript

namespace Json

/-! ## JSON text -/

structure Separators where
  comma : Text
  colon : Text

def compact : Separators := ⟨",".toList, ":".toList⟩

def spaced : Separators := ⟨", ".toList, ": ".toList⟩

def writeChar (c : Char) : Text :=
  if c = '"' then "\\\"".toList
  else if c = '\\' then "\\\\".toList
  else if c = '\n' then "\\n".toList
  else if c = '\r' then "\\r".toList
  else if c = '\t' then "\\t".toList
  else if c = '\x08' then "\\b".toList
  else if c = '\x0c' then "\\f".toList
  else if c.toNat < 0x20 then "\\u".toList ++ Hex.lowerDigits 4 c.toNat
  else [c]

def writeString (text : Text) : Text := '"' :: text.flatMap writeChar ++ ['"']

def writeFloat : Binary64 → Text
  | .nan => "NaN".toList
  | .infinity negative => Binary64.signed negative "Infinity".toList
  | .finite negative magnitude => (Binary64.finite negative magnitude).text

mutual

def write (s : Separators) : Json → Text
  | .null => "null".toList
  | .bool b => if b then "true".toList else "false".toList
  | .int n => Text.ofInt n
  | .float x => writeFloat x
  | .str text => writeString text
  | .arr items => '[' :: writeItems s items ++ [']']
  | .obj fields => '{' :: writeFields s fields ++ ['}']

def writeItems (s : Separators) : List Json → Text
  | [] => []
  | [item] => write s item
  | item :: rest => write s item ++ s.comma ++ writeItems s rest

def writeFields (s : Separators) : List (Text × Json) → Text
  | [] => []
  | [(key, value)] => writeString key ++ s.colon ++ write s value
  | (key, value) :: rest =>
    writeString key ++ s.colon ++ write s value ++ s.comma ++ writeFields s rest

end

/-! ## canonical order -/

mutual

def sortKeys : Json → Json
  | .arr items => .arr (sortKeysItems items)
  | .obj fields => .obj ((sortKeysFields fields).mergeSort fun a b => Text.le a.1 b.1)
  | value => value

def sortKeysItems : List Json → List Json
  | [] => []
  | item :: rest => sortKeys item :: sortKeysItems rest

def sortKeysFields : List (Text × Json) → List (Text × Json)
  | [] => []
  | (key, value) :: rest => (key, sortKeys value) :: sortKeysFields rest

end

/-! ## values in running text -/

mutual

/-- A value with quoted strings. -/
def literal : Json → Text
  | .null => "None".toList
  | .bool b => if b then "True".toList else "False".toList
  | .int n => Text.ofInt n
  | .float x => x.text
  | .str text => Text.quoted text
  | .arr items => '[' :: literalItems items ++ [']']
  | .obj fields => '{' :: literalFields fields ++ ['}']

def literalItems : List Json → Text
  | [] => []
  | [item] => literal item
  | item :: rest => literal item ++ ", ".toList ++ literalItems rest

def literalFields : List (Text × Json) → Text
  | [] => []
  | [(key, value)] => Text.quoted key ++ ": ".toList ++ literal value
  | (key, value) :: rest =>
    Text.quoted key ++ ": ".toList ++ literal value ++ ", ".toList ++ literalFields rest

end

/-- A string as it is, any other value as a literal. -/
def asText : Json → Text
  | .str text => text
  | value => literal value

end Json

end ChatTranscript

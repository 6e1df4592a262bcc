import ChatTranscript.DomainName.Label
import ChatTranscript.DomainName.Punycode

/-!
# International domain names

A label beyond ASCII is sent as `xn--` and its Punycode. Labels are checked on the way there and on
the way back.

## Main definitions

* `DomainName.encode`: a name as it is sent.
* `DomainName.decode`: the labels of a name that was sent.
-/

namespace ChatTranscript

namespace DomainName

def maxLength : Nat := 253
def maxLabelLength : Nat := 63

def encodingMark : Text := "xn--".toList

def isEncoded (name : Text) : Bool := encodingMark.isPrefixOf name

def isAscii (text : Text) : Bool := text.all fun c => c.toNat < 0x80

/-! ## labels -/

/-- The code points of a label in ASCII. -/
def decodeLabel (text : Text) : Except Fault Label := do
  let lower := text.map Char.toLower
  match encodingMark.isPrefixOf? lower with
  | none =>
    let label := lower.map Char.toNat
    Label.check label
    return label
  | some encoded =>
    if encoded.isEmpty then .error .nothingEncoded
    else if encoded.getLast? = some '-' then .error .encodingEndsInHyphen
    else
      match Punycode.decode encoded with
      | none => .error .notEncoded
      | some label =>
        Label.check label
        return label

def encodeLabel (text : Text) : Except Fault Text := do
  let sent ←
    if isAscii text then
      let _ ← decodeLabel text
      pure text
    else
      let label := text.map Char.toNat
      Label.check label
      pure (encodingMark ++ Punycode.encode label)
  if maxLabelLength < sent.length then .error .labelTooLong else return sent

/-! ## names -/

/-- The full stops of East Asian scripts part labels as well. -/
def isStop (c : Char) : Bool := c = '.' || c = '\u3002' || c = '\uff0e' || c = '\uff61'

/-- The labels of a name, and whether it ends in a stop. -/
def labels (name : Text) : Except Fault (List Text × Bool) :=
  let parts := name.splitOnP isStop
  if name.isEmpty then .error .empty
  else if parts.getLast? = some [] then .ok (parts.dropLast, true)
  else .ok (parts, false)

def encode (name : Text) : Except Fault Text := do
  if maxLength + 1 < name.length then .error .tooLong
  let (labels, endsInStop) ← labels name
  let sent ← labels.mapM encodeLabel
  let sent := List.intercalate ['.'] (if endsInStop then sent ++ [[]] else sent)
  if maxLength + (if endsInStop then 1 else 0) < sent.length then .error .tooLong
  else return sent

def decode (name : Text) : Except Fault (List Label) := do
  if maxLength + 1 < name.length then .error .tooLong
  let (labels, _) ← labels name
  labels.mapM decodeLabel

end DomainName

end ChatTranscript

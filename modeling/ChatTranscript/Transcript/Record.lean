import ChatTranscript.Validation
import ChatTranscript.Text.Blank
import ChatTranscript.Text.LowerCase

/-!
# Transcript records

A record is one message: who sent it, what it holds, and a hint at the sender's avatar.

## Main definitions

* `Record`: a message.
* `Record.ofFields`: the record that an object describes, or what is wrong with it.
-/

namespace ChatTranscript

/-- What a message holds. -/
inductive Element where
  | text
  | card
  deriving DecidableEq

structure Record where
  sender : Text
  element : Element
  content : Json
  avatarHint : Option Text

namespace Record

/-- Notices of the chat itself come from this sender. -/
def isSystem (record : Record) : Bool := Text.lower record.sender == "sys".toList

/-- The reader's own messages. -/
def isOwn (record : Record) : Bool := Text.lower record.sender == "me".toList

/-! ## entries -/

def nameKeys : List Text := ["name".toList, "sender_name".toList]

def avatarKeys : List Text := ["avatar".toList, "avatar_hint".toList]

/-- A string or a whole number, without blanks at the ends. -/
def readLabel (refusal : Text) : Json → Except Problem Text
  | .str text => .ok (Text.strip text)
  | .int n => .ok (Text.ofInt n)
  | _ => .error (.refused refusal)

def readName : Json → Except Problem Text
  | .null => .ok []
  | value => readLabel "name must be a string".toList value

def readHint : Json → Except Problem (Option Text)
  | .null | .str [] => .ok none
  | value => (readLabel "avatar must be a URL or a numeric id".toList value).map some

/-- Everything that is not a card is text; `ark` is an old name of cards. -/
def readElement : Option Json → Element
  | some (.str text) =>
    let word := Text.lower (Text.strip text)
    if word == "card".toList || word == "ark".toList then .card else .text
  | _ => .text

/-- Reads the entry under the first key that is there. The key is part of the answer. -/
def readEntry {α : Type} (keys : List Text) (absent : α) (read : Json → Except Problem α)
    (fields : Fields) : Text × Except Problem α :=
  match Fields.firstOf? keys fields with
  | some (key, value) => (key, read value)
  | none => ([], .ok absent)

/-! ## records -/

def ofFields (fields : Fields) : Except Rejection Record :=
  let (nameKey, name) := readEntry nameKeys [] readName fields
  let (avatarKey, hint) := readEntry avatarKeys none readHint fields
  match name, hint with
  | .ok sender, .ok avatarHint =>
    .ok {
      sender
      element := readElement (Fields.get? "element".toList fields)
      content := (Fields.get? "content".toList fields).getD .null
      avatarHint }
  | _, _ =>
    .error ⟨"TranscriptRecord".toList,
      Issue.ofEntry nameKey name ++ Issue.ofEntry avatarKey hint⟩

end Record

end ChatTranscript

import ChatTranscript.Fault

/-!
# Cards

A card is an object that names its app and view. Its `overwrite` section may bind a click handler.
Entries beyond the known ones are kept, so that templates can show them.

## Main definitions

* `Card`, `Card.Overwrite`: an accepted card.
* `Card.ofContent`: the card in the content of a record.
* `Card.context`: what templates see of a card.
-/

namespace ChatTranscript

/-- The click handler that a card asks for. -/
structure Card.Overwrite where
  clickHandler : Option Text
  clickHandlerId : Option Text
  clickParams : Json
  extras : Fields

structure Card where
  app : Text
  view : Text
  sections : Fields
  overwrite : Option Card.Overwrite
  config : Json
  extras : Fields

namespace Card

/-! ## overwrite -/

namespace Overwrite

def handlerKeys : List Text := ["clickHandler".toList, "click_handler".toList]

def handlerIdKeys : List Text := ["clickHandlerId".toList, "click_handler_id".toList]

def paramsKeys : List Text := ["clickParams".toList, "click_params".toList]

/-- A name or number as text; null and containers name nothing. -/
def nameOf : Json → Option Text
  | .null | .arr _ | .obj _ => none
  | value => some value.asText

/-- The entry that each known key uses; a second spelling of a key that is used is an extra. -/
def ofFields (fields : Fields) : Overwrite :=
  let handler := Fields.firstOf? handlerKeys fields
  let handlerId := Fields.firstOf? handlerIdKeys fields
  let params := Fields.firstOf? paramsKeys fields
  let used := [handler, handlerId, params].filterMap fun entry => entry.map (·.1)
  { clickHandler := handler.bind fun (_, value) => nameOf value
    clickHandlerId := handlerId.bind fun (_, value) => nameOf value
    clickParams := (params.map (·.2)).getD (.obj [])
    extras := fields.filter fun (key, _) => !used.contains key }

def ofJson : Json → Except Problem (Option Overwrite)
  | .null => .ok none
  | .obj fields => .ok (some (ofFields fields))
  | _ => .error (.notModel "CardOverwrite".toList)

end Overwrite

/-! ## cards -/

def knownKeys : List Text := ["app", "view", "meta", "overwrite", "config"].map String.toList

def textOf : Option Json → Text
  | none | some .null => []
  | some value => value.asText

def sectionsOf : Option Json → Except Problem Fields
  | none => .ok []
  | some (.obj sections) => .ok sections
  | some _ => .error .notObject

def overwriteOf : Option Json → Except Problem (Option Overwrite)
  | none => .ok none
  | some value => Overwrite.ofJson value

def ofFields (fields : Fields) : Except Rejection Card :=
  let sections := sectionsOf (Fields.get? "meta".toList fields)
  let overwrite := overwriteOf (Fields.get? "overwrite".toList fields)
  match sections, overwrite with
  | .ok sections, .ok overwrite =>
    .ok {
      app := textOf (Fields.get? "app".toList fields)
      view := textOf (Fields.get? "view".toList fields)
      sections
      overwrite
      config := (Fields.get? "config".toList fields).getD (.obj [])
      extras := fields.filter fun (key, _) => !knownKeys.contains key }
  | _, _ =>
    .error ⟨"CardPayload".toList, Issue.ofEntry "meta".toList sections ++
      Issue.ofEntry "overwrite".toList overwrite⟩

def ofJson : Json → Except Fault Card
  | .obj fields =>
    match ofFields fields with
    | .ok card => .ok card
    | .error rejection => .error (.card (.invalidPayload rejection))
  | value => .error (.card (.notObject value.kind))

/-- Content that is a string is read as JSON first. -/
def ofContent : Json → Except Fault Card
  | .str text =>
    match Json.read text with
    | .ok value => ofJson value
    | .error (.malformed fault) => .error (.card (.notJson fault.reason))
    | .error (.tooManyDigits count) => .error (.tooManyDigits count)
  | content => ofJson content

end Card

/-! ## contexts -/

/-- The entries that are not null. -/
def Fields.present (fields : Fields) : Fields :=
  fields.filter fun (_, value) => value.kind != .null

def Json.ofText? (text : Option Text) : Json := (text.map Json.str).getD .null

def Card.Overwrite.context (overwrite : Card.Overwrite) : Fields :=
  Fields.present ([("clickHandler".toList, .ofText? overwrite.clickHandler),
    ("clickHandlerId".toList, .ofText? overwrite.clickHandlerId),
    ("clickParams".toList, overwrite.clickParams)] ++ overwrite.extras)

/-- The known entries in order, then the others; null entries of a card and of its overwrite
section are left out. -/
def Card.context (card : Card) : Fields :=
  Fields.present ([("app".toList, .str card.app), ("view".toList, .str card.view),
    ("meta".toList, .obj card.sections),
    ("overwrite".toList, (card.overwrite.map fun part => .obj part.context).getD .null),
    ("config".toList, card.config)] ++ card.extras)

end ChatTranscript

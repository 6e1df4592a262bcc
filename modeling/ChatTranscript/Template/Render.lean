import ChatTranscript.Template.Tag
import ChatTranscript.Template.Path
import ChatTranscript.Click.Registry
import ChatTranscript.Html.Escape

/-!
# Rendering a template

Loops are expanded first, then the remaining tags are replaced by what their paths lead to. Values
are shown and never read as code of their own.

## Main definitions

* `Template.substitute`: replaces variable tags.
* `Template.expand`: expands loops.
* `Template.render`: registers the click handler of a context and renders a template for it.
-/

namespace ChatTranscript

namespace Template

open Click

def handlerKey : Text := "__clickHandlerId".toList

def overwriteKey : Text := "__overwrite".toList

/-! ## click attributes -/

/-- The attributes of an id and its parameters. -/
def writeAttributes (id params : Json) : Text :=
  "data-click-handler=\"".toList ++ id.asText ++ "\" data-click-params=\"".toList ++
    Html.escapeAttribute (params.write Json.spaced) ++ "\"".toList

/-- The attributes that the context calls for; none without a handler id. -/
def clickAttributes (context : Json) : Except Fault Text := do
  match Json.truthy? (← context.entry handlerKey) with
  | none => return []
  | some id =>
    let overwrite := (Json.truthy? (← context.entry overwriteKey)).getD (.obj [])
    let params := Json.truthy? (← overwrite.entry "clickParams".toList)
    return writeAttributes id (params.getD (.obj []))

/-! ## variables -/

def valueOf (context : Json) (key : Text) : Except Fault Text :=
  if key == "__clickAttrs".toList then clickAttributes context
  else if key == "this".toList then (context.entry key).map display
  else (lookup context key).map display

/-- Replaces what a rule finds, in order; plain text stays. -/
def replace {α : Type} (value : α → Except Fault Text) :
    List (Text.Piece α) → Except Fault Text
  | [] => .ok []
  | .plain text :: rest => do
    return text ++ (← replace value rest)
  | .found _ tag :: rest => do
    let shown ← value tag
    return shown ++ (← replace value rest)

def substitute (template : Text) (context : Json) : Except Fault Text :=
  replace (valueOf context) (Text.scan readVariable template)

/-! ## loops -/

/-- The context of one round: its own entries, then those of the element, then the outer ones. -/
def roundContext (context : Json) (item : Json) (index count : Nat) : Json :=
  let outer := match context with
    | .obj fields => fields
    | _ => []
  let own := match item with
    | .obj fields => fields
    | _ => []
  .obj ([("this".toList, item), ("@index".toList, .int index),
    ("@first".toList, .bool (index = 0)), ("@last".toList, .bool (index + 1 = count))] ++
    own ++ outer)

/-- The rounds of a loop from a given index on. -/
def rounds (body : Text) (context : Json) (count : Nat) : Nat → List Json → Except Fault Text
  | _, [] => .ok []
  | index, item :: rest => do
    let shown ← substitute body (roundContext context item index count)
    return shown ++ (← rounds body context count (index + 1) rest)

/-- A loop over anything but a list shows nothing. -/
def expandBlock (context : Json) (block : Block) : Except Fault Text := do
  match ← lookup context block.path with
  | some (.arr items) => rounds block.body context items.length 0 items
  | _ => return []

def expand (template : Text) (context : Json) : Except Fault Text :=
  replace (expandBlock context) (Text.scan readBlock template)

/-! ## rendering -/

/-- Registers the handler that the context names, if it names one. -/
def registerHandler (source : IdSource) (context : Json) (registry : Registry) :
    Except Fault (Option HandlerId) × Registry :=
  match context.entry "overwrite".toList with
  | .error fault => (.error fault, registry)
  | .ok (some (.obj overwrite)) =>
    match Json.truthy? (Fields.get? "clickHandler".toList overwrite) with
    | none => (.ok none, registry)
    | some name =>
      if (Action.named? (Text.strip name.asText)).isNone then (.ok none, registry)
      else
        match HandlerId.ofJson? (Fields.get? "clickHandlerId".toList overwrite) with
        | .error fault => (.error fault, registry)
        | .ok id =>
          let (id, registry) := registry.register source name.asText context id
          (.ok id, registry)
  | .ok _ => (.ok none, registry)

/-- The context with the registered id and the overwrite section in front. -/
def enhance (context : Json) (id : Option HandlerId) : Json :=
  let fields := match context with
    | .obj fields => fields
    | _ => []
  let overwrite := match Fields.get? "overwrite".toList fields with
    | some (.obj overwrite) => .obj overwrite
    | _ => .obj []
  let id := (id.map HandlerId.toJson).getD .null
  .obj ((handlerKey, id) :: (overwriteKey, overwrite) :: fields)

/-- Both passes over a template. -/
def fill (template : Text) (context : Json) : Except Fault Text := do
  substitute (← expand template context) context

def render (source : IdSource) (template : Text) (context : Json) (registry : Registry) :
    Except Fault Text × Registry :=
  match registerHandler source context registry with
  | (.error fault, registry) => (.error fault, registry)
  | (.ok id, registry) => (fill template (enhance context id), registry)

end Template

end ChatTranscript

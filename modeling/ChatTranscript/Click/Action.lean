import ChatTranscript.Fault
import ChatTranscript.Json.Writer

/-!
# Click actions

A card names one of three actions. An action answers a click with what the page should do, from the
parameters of the click and the payload of the card.

## Main definitions

* `Click.Action`, `Click.Action.named?`: the actions and their names.
* `Click.Effect`: what the page should do.
* `Click.jumpUrl?`: the first jump URL in the meta sections of a payload.
* `Click.Action.run`: the answer of an action.
* `Click.readParams`: the parameters written into an attribute.
-/

namespace ChatTranscript

namespace Json

/-- The value under a key; only an object has keys to look up. -/
def entry (key : Text) : Json → Except Fault (Option Json)
  | .obj fields => .ok (Fields.get? key fields)
  | value => .error (.notObject value.kind)

/-- The value, unless it counts as absent. -/
def truthy? (value : Option Json) : Option Json := value.filter isTruthy

/-- The jump URL of a section, if it is an object with a string there. -/
def sectionUrl? (part : Json) : Option Text :=
  match part.get? "jumpUrl".toList with
  | some (.str url) => some url
  | _ => none

end Json

namespace Click

inductive Action where
  | openUrl
  | openChatWindow
  | noop
  deriving DecidableEq

def Action.named? (name : Text) : Option Action :=
  if name == "open_url".toList then some .openUrl
  else if name == "open_chat_window".toList then some .openChatWindow
  else if name == "noop".toList then some .noop
  else none

structure Effect where
  kind : Text
  url : Text
  features : Text
  deriving DecidableEq

def windowFeatures : Text := "width=450,height=650,scrollbars=yes".toList

/-- The jump URL of meta itself, else of the first section that has one. -/
def metaUrl? : Json → Option Text
  | .obj fields =>
    ((Json.obj fields).sectionUrl?).or (fields.findSome? fun (_, part) => part.sectionUrl?)
  | _ => none

def jumpUrl? (payload : Json) : Except Fault (Option Text) := do
  let meta? ← payload.entry "meta".toList
  return meta?.bind metaUrl?

/-- The URL a click leads to: the parameter, else the jump URL of the payload. -/
def clickUrl? (payload params : Json) : Except Fault (Option Text) := do
  match Json.truthy? (← params.entry "url".toList) with
  | some url => return some url.asText
  | none => return (← jumpUrl? payload).filter fun url => !url.isEmpty

def Action.run (action : Action) (payload params : Json) :
    Except Fault (Option Effect) :=
  match action with
  | .openUrl => do
    return (← clickUrl? payload params).map fun url => ⟨"open_url".toList, url, []⟩
  | .openChatWindow => do
    return (← clickUrl? payload params).map fun url =>
      ⟨"open_window".toList, url, windowFeatures⟩
  | .noop => .ok none

/-- The parameters in an attribute value; whatever is not the text of an object gives none. -/
def readParams (raw : Option Text) : Except Fault Fields :=
  match raw with
  | none | some [] => .ok []
  | some text =>
    match Json.read text with
    | .ok (.obj fields) => .ok fields
    | .ok _ => .ok []
    | .error (.malformed _) => .ok []
    | .error (.tooManyDigits count) => .error (.tooManyDigits count)

end Click

end ChatTranscript

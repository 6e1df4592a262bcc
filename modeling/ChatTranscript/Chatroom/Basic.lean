import ChatTranscript.Validation
import ChatTranscript.Markup.Render
import ChatTranscript.Text.Blank

/-!
# Chatrooms

A chatroom says which transcript to render, and how. Every entry but the title has two spellings, of
which the first is preferred.

## Main definitions

* `Chatroom`: a configured chatroom.
* `Chatroom.ofJson`: the chatroom that a value describes, or what is wrong with it.
-/

namespace ChatTranscript

structure Chatroom where
  mountId : Text
  source : Text
  myAvatar : Text
  title : Text
  hideAvatars : Bool
  templatesUrl : Text
  viewerUrl : Text

namespace Chatroom

def defaultTitle : Text := "Group chat transcript".toList

def defaultName : Text := "chatroom".toList

def defaultTemplatesUrl : Text :=
  "https://cdn.jsdmirror.com/gh/b23-kim/ChatRoom.js@main/ARKTemplates/".toList

/-! ## entries -/

def nameKeys : List Text := ["chatroomName".toList, "chatroom_name".toList]

def sourceKeys : List Text := ["jsonFilePath".toList, "json_file_path".toList]

def myAvatarKeys : List Text := ["MyAvatar".toList, "my_avatar".toList]

def titleKeys : List Text := ["title".toList]

def hideKeys : List Text := ["hideAvatar".toList, "hide_avatar".toList]

def templatesKeys : List Text := ["templatesUrl".toList, "templates_url".toList]

def viewerKeys : List Text := ["chatViewerUrl".toList, "chat_viewer_url".toList]

/-- A string with something in it that is not blank. -/
def readFilled (value : Json) : Except Problem Text := do
  let text ← value.string?
  if (Text.strip text).isEmpty then .error (.refused "must not be empty".toList)
  return text

/-- An entry under the spelling in use. Without a default value it has to be there. -/
def readEntry {α : Type} (keys : List Text) (absent : Option α) (read : Json → Except Problem α)
    (fields : Fields) : Text × Except Problem α :=
  match Fields.firstOf? keys fields, absent with
  | some (key, value), _ => (key, read value)
  | none, some value => (keys.headD [], .ok value)
  | none, none => (keys.headD [], .error .missing)

/-! ## chatrooms -/

def modelName : Text := "ChatroomConfig".toList

def ofFields (templatesUrl : Text) (fields : Fields) : Except Rejection Chatroom :=
  let name := readEntry nameKeys (some defaultName) Json.string? fields
  let source := readEntry sourceKeys none readFilled fields
  let myAvatar := readEntry myAvatarKeys none readFilled fields
  let title := readEntry titleKeys (some defaultTitle) Json.string? fields
  let hide := readEntry hideKeys (some false) Json.switch? fields
  let templates := readEntry templatesKeys (some templatesUrl) Json.string? fields
  let viewer := readEntry viewerKeys (some Markup.defaultViewer) Json.string? fields
  match name.2, source.2, myAvatar.2, title.2, hide.2, templates.2, viewer.2 with
  | .ok mountId, .ok source, .ok myAvatar, .ok title, .ok hideAvatars, .ok templatesUrl,
    .ok viewerUrl =>
    .ok { mountId, source, myAvatar, title, hideAvatars, templatesUrl, viewerUrl }
  | _, _, _, _, _, _, _ =>
    .error ⟨modelName, Issue.ofEntry name.1 name.2 ++ Issue.ofEntry source.1 source.2 ++
      Issue.ofEntry myAvatar.1 myAvatar.2 ++ Issue.ofEntry title.1 title.2 ++
      Issue.ofEntry hide.1 hide.2 ++ Issue.ofEntry templates.1 templates.2 ++
      Issue.ofEntry viewer.1 viewer.2⟩

/-- `templatesUrl` is used where the value does not give one. -/
def ofJson (templatesUrl : Text) : Json → Except Rejection Chatroom
  | .obj fields => ofFields templatesUrl fields
  | _ => .error ⟨modelName, [⟨[], .notModel modelName⟩]⟩

def toJson (room : Chatroom) : Json :=
  .obj [("chatroomName".toList, .str room.mountId),
    ("jsonFilePath".toList, .str room.source),
    ("MyAvatar".toList, .str room.myAvatar),
    ("title".toList, .str room.title),
    ("hideAvatar".toList, .bool room.hideAvatars),
    ("templatesUrl".toList, .str room.templatesUrl),
    ("chatViewerUrl".toList, .str room.viewerUrl)]

end Chatroom

end ChatTranscript

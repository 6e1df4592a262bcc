import ChatTranscript.Html.Escape

/-!
# Fragments of a chat

Message content is markup already and stands as it is. Names, titles, URLs and messages come from
outside and are escaped.

## Main definitions

* `Html.error`, `Html.notification`, `Html.chatItem`, `Html.container`.
-/

namespace ChatTranscript

namespace Html

def placeholderAvatar : Text := "https://via.placeholder.com/100".toList

/-- A visible note about a part that could not be rendered. -/
def error (label message : Text) : Text :=
  "<div class=\"error\">".toList ++ escape label ++ ": ".toList ++ escape message ++
    "</div>".toList

/-- An image, or nothing for an empty or absent URL. -/
def avatar : Option Text → Text
  | none | some [] => []
  | some url =>
    "<img class=\"chatAvatar no-lightbox\" src=\"".toList ++ escape url ++
      "\" onerror=\"this.src='".toList ++ placeholderAvatar ++ "';\">".toList

def notification (content : Text) : Text :=
  "\n<div class=\"systemNotification\">\n  <div class=\"systemContent\">".toList ++ content ++
    "</div>\n</div>".toList

/-- One message with its sender. -/
structure ChatItem where
  name : Text
  content : Text
  avatarUrl : Option Text
  isOwn : Bool
  isCard : Bool

def chatItem (item : ChatItem) : Text :=
  "\n<div class=\"".toList ++ (if item.isOwn then "chatItem me" else "chatItem").toList ++
    "\">\n  ".toList ++ avatar item.avatarUrl ++
    "\n  <div class=\"chatContentWrapper\">\n    <b class=\"chatName\">".toList ++
    escape item.name ++ "</b>\n    <div class=\"".toList ++
    (if item.isCard then "chatCardContent" else "chatContent").toList ++ "\">".toList ++
    item.content ++ "</div>\n  </div>\n</div>".toList

/-- All items under a title bar. -/
def container (items title : Text) : Text :=
  "<div class=\"chatContainer\"><div class=\"chatBoxTitle\">".toList ++
    "<i class=\"fa fa-chevron-left\"></i><span class=\"chatTitleText\">".toList ++ escape title ++
    "</span><div class=\"chatBoxIcons\"><i class=\"fa fa-group\"></i>".toList ++
    "<i class=\"fa fa-dedent\"></i></div></div><div class=\"chatBox\">".toList ++ items ++
    "</div></div>".toList

end Html

end ChatTranscript

import ChatTranscript.Markup.Token
import ChatTranscript.Text.PercentEncoding

/-!
# Rendering inline markup

Each token becomes a fragment of HTML; literals stand as they are.

## Main definitions

* `Markup.viewerLink`: the viewer URL of a forwarded transcript.
* `Markup.render`: a text with its markup rendered.
-/

namespace ChatTranscript

namespace Markup

def defaultViewer : Text := "https://blog.awaae001.top/Chatroom/".toList

def viewerLink (viewer title path : Text) : Text :=
  viewer ++ "?jsonFilePath=".toList ++ PercentEncoding.encodeComponent path ++
    "&title=".toList ++ PercentEncoding.encodeComponent title

def renderImage (url : Text) : Text :=
  "<img class=\"chatMedia\" src=\"".toList ++ url ++ "\" alt=\"Image\" />".toList

def renderChat (viewer title path : Text) : Text :=
  "<div class=\"chatQuoteCard\">\n  <div class=\"chatQuoteTitle\">\n".toList ++
    "    <i class=\"fa fa-database\"></i>\n".toList ++
    "    <span>Forwarded chat transcript</span>\n  </div>\n".toList ++
    "  <a class=\"chatMessage\" href=\"".toList ++ viewerLink viewer title path ++
    "\" target=\"_blank\" onclick=\"openChatWindow('".toList ++ viewerLink viewer title path ++
    "'); return false;\">Forwarded from: ".toList ++ title ++ "</a>\n</div>".toList

def renderLink (url : Text) : Text :=
  "<a href=\"".toList ++ url ++ "\" class=\"chatLink\" target=\"_blank\">".toList ++ url ++
    "</a>".toList

def renderMention (name : Text) : Text :=
  "<span class=\"chatCall\">@".toList ++ name ++ "</span>".toList

def renderQuote (user quoted : Text) : Text :=
  "<div class=\"chatQuote\">\n  <div class=\"quoteUser\">\n".toList ++
    "    <i class=\"fa fa-share-square-o\"></i>\n    <span>".toList ++ user ++
    "</span>\n  </div>\n  <span class=\"quotedMessage\">".toList ++ quoted ++
    "</span>\n</div>".toList

def Token.render (viewer : Text) : Token → Text
  | .literal text => text
  | .image url => renderImage url
  | .chat title path => renderChat viewer title path
  | .link url => renderLink url
  | .mention name => renderMention name
  | .quote user quoted => renderQuote user quoted

def render (viewer : Text) (text : Text) : Text := (tokenize text).flatMap (Token.render viewer)

end Markup

end ChatTranscript

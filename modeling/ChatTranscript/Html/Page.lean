import ChatTranscript.Html.Escape

/-!
# The page

A standalone page: a fixed frame around the title, the style tags of the cards, and the chat
container in its mount element.

## Main definitions

* `Html.page`: the page.
-/

namespace ChatTranscript

namespace Html

/-! ## the frame -/

namespace Frame

/-- Up to the title. -/
def beforeTitle : Text :=
  List.flatten (List.map String.toList [
    "<!DOCTYPE html>\n",
    "<html lang=\"en\">\n",
    "<head>\n",
    "  <meta charset=\"utf-8\" />\n",
    "  <meta name=\"viewport\" content=\"width=device-width, initial-scale=1\" />\n",
    "  <title>"])

/-- From the title to the style tags: the look of the chat itself. -/
def beforeStyles : Text :=
  List.flatten (List.map String.toList [
    "</title>\n",
    "  <link rel=\"stylesheet\" ",
    "href=\"https://cdn.jsdelivr.net/npm/font-awesome@4.7.0/css/font-awesome.min.css\" />\n",
    "  <style>\n",
    "    body \x7b margin: 0; padding: 24px; background: #f2f3f5; font-family: -apple-system, ",
    "BlinkMacSystemFont, \"Segoe UI\", Roboto, \"Helvetica Neue\", Arial, sans-serif; \x7d\n",
    "    .chatContainer \x7b max-width: 480px; margin: 0 auto; border-radius: 12px; overflow: ",
    "hidden; background: #f5f5f5; box-shadow: 0 2px 12px rgba(0, 0, 0, 0.12); \x7d\n",
    "    .chatBoxTitle \x7b display: flex; align-items: center; gap: 12px; padding: 12px 16px; ",
    "background: #fff; border-bottom: 1px solid #e5e5e5; \x7d\n",
    "    .chatTitleText \x7b flex: 1; font-weight: 600; text-align: center; \x7d\n",
    "    .chatBoxIcons \x7b display: flex; gap: 12px; color: #666; \x7d\n",
    "    .chatBox \x7b padding: 12px 16px; max-height: 640px; overflow-y: auto; \x7d\n",
    "    .chatItem \x7b display: flex; align-items: flex-start; gap: 8px; margin: 12px 0; ",
    "\x7d\n",
    "    .chatItem.me \x7b flex-direction: row-reverse; \x7d\n",
    "    .chatItem.me .chatContentWrapper \x7b align-items: flex-end; \x7d\n",
    "    .chatAvatar \x7b width: 36px; height: 36px; border-radius: 50%; flex-shrink: 0; \x7d\n",
    "    .chatContentWrapper \x7b display: flex; flex-direction: column; max-width: 75%; \x7d\n",
    "    .chatName \x7b font-size: 12px; font-weight: normal; color: #999; margin-bottom: 4px; ",
    "\x7d\n",
    "    .chatContent \x7b padding: 8px 12px; border-radius: 8px; background: #fff; ",
    "word-break: break-word; \x7d\n",
    "    .chatItem.me .chatContent \x7b background: #95ec69; \x7d\n",
    "    .chatMedia \x7b max-width: 100%; border-radius: 6px; \x7d\n",
    "    .chatLink \x7b color: #1e6fff; word-break: break-all; \x7d\n",
    "    .chatCall \x7b color: #1e6fff; \x7d\n",
    "    .chatQuote, .chatQuoteCard \x7b margin-top: 6px; padding: 6px 8px; border-left: 3px ",
    "solid #ccc; background: rgba(0, 0, 0, 0.04); font-size: 13px; \x7d\n",
    "    .quoteUser, .chatQuoteTitle \x7b color: #888; margin-bottom: 4px; \x7d\n",
    "    .chatMessage \x7b cursor: pointer; color: #333; \x7d\n",
    "    .systemNotification \x7b text-align: center; margin: 12px 0; \x7d\n",
    "    .systemContent \x7b display: inline-block; padding: 2px 8px; border-radius: 4px; ",
    "background: #dadada; color: #fff; font-size: 12px; \x7d\n",
    "    .error \x7b padding: 8px 12px; border-radius: 8px; background: #fdecea; color: ",
    "#b3261e; font-size: 13px; \x7d\n",
    "  </style>\n",
    "  "])

/-- From the style tags to the id of the mount element. -/
def beforeMount : Text :=
  List.flatten (List.map String.toList [
    "\n",
    "</head>\n",
    "<body>\n",
    "  <div id=\""])

/-- From the mount id to the container. -/
def beforeContainer : Text :=
  List.flatten (List.map String.toList [
    "\">"])

/-- What follows the container. -/
def afterContainer : Text :=
  List.flatten (List.map String.toList [
    "</div>\n",
    "</body>\n",
    "</html>"])

end Frame

/-! ## the page -/

def page (container title mount styles : Text) : Text :=
  Frame.beforeTitle ++ escapeWith inPages title ++ Frame.beforeStyles ++ styles ++
    Frame.beforeMount ++ escapeWith inPages mount ++ Frame.beforeContainer ++ container ++
    Frame.afterContainer

end Html

end ChatTranscript

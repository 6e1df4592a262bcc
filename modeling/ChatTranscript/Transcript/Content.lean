import ChatTranscript.Json.Writer

/-!
# Message contents

What makes two contents the same message, and how content that is no text is shown.

## Main definitions

* `ContentKey`, `Json.contentKey`: contents up to the order of keys.
* `Json.contentText`: content as text.
-/

namespace ChatTranscript

/-- A text is never the same as a structure, even one that is written like it. -/
inductive ContentKey where
  | absent
  | text (text : Text)
  | structured (canonical : Text)
  deriving DecidableEq

namespace Json

def contentKey : Json → ContentKey
  | .null => .absent
  | .str text => .text text
  | value => .structured (value.sortKeys.write spaced)

def contentText : Json → Text
  | .str text => text
  | value => value.write spaced

end Json

end ChatTranscript

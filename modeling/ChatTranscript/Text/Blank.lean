import ChatTranscript.Text.Basic
import ChatTranscript.Text.CharRanges

/-!
# Blank characters

White space in the sense of Unicode, with the four information separators counted in.
-/

namespace ChatTranscript

namespace CharRanges

def blank : CharRanges :=
  [(9, 13), (28, 32), (133, 133), (160, 160), (5760, 5760), (8192, 8202), (8232, 8233),
   (8239, 8239), (8287, 8287), (12288, 12288)]

end CharRanges

namespace Text

def isBlank (c : Char) : Bool := CharRanges.blank.contains c

/-- The text without blanks at either end. -/
def strip (text : Text) : Text := trim isBlank text

end Text

end ChatTranscript

import ChatTranscript.Avatar.Roster
import ChatTranscript.Text.Blank
import ChatTranscript.Text.Digit
import ChatTranscript.Url.Reference

/-!
# Choosing an avatar

The image for a sender: the reader's own, the one that a hint gives, or one from the pool.

## Main definitions

* `Avatar.ofHint?`: the image that a hint gives by itself.
* `Avatar.choose`: the image for a sender.
-/

namespace ChatTranscript

namespace Avatar

/-- The image of an account number on the avatar service. -/
def ofAccount (number : Text) : Text :=
  "https://q1.qlogo.cn/g?b=qq&nk=".toList ++ number ++ "&s=100".toList

/-- An absolute URL, or the image of an account number. -/
def ofHint? (hint : Text) : Option Text :=
  let hint := Text.strip hint
  if Url.isAbsolute hint then some hint
  else if !hint.isEmpty && hint.all Text.isDigitChar then some (ofAccount hint)
  else none

structure Sender where
  name : Text
  hint : Option Text
  isOwn : Bool

def choose (myAvatar : Text) (sender : Sender) (roster : Roster) : Text × Roster :=
  if sender.isOwn then (myAvatar, roster)
  else
    match sender.hint.bind ofHint? with
    | some url => (url, roster)
    | none => roster.assign sender.name

end Avatar

end ChatTranscript

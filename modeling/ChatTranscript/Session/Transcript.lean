import ChatTranscript.Session.Card
import ChatTranscript.Transcript.Record
import ChatTranscript.Transcript.Content
import ChatTranscript.Markup.Render

/-!
# Rendering transcripts

Records are rendered in order. A notice of the chat is always shown; a later message with the same
content is left out.

## Main definitions

* `Renderer.notice`, `Renderer.item`: the fragment of one record.
* `Renderer.fragments`: the fragments of a transcript.
* `Renderer.transcript`, `Renderer.container`: a transcript, and a transcript in its frame.
-/

namespace ChatTranscript

/-- The reader's avatar, and whether avatars are shown at all. -/
structure AvatarView where
  myAvatar : Text
  hidden : Bool

def unknownSender : Text := "Unknown".toList

def ownName : Text := "Me".toList

def emptyContent : Text := "No content".toList

namespace Record

/-- The name that avatars go by. -/
def senderName (record : Record) : Text :=
  Text.orDefault unknownSender (some record.sender)

def shownName (record : Record) : Text :=
  if record.isOwn then ownName else record.senderName

/-- Null and the empty text are no content for a message. -/
def messageContent (record : Record) : Json :=
  match record.content with
  | .null | .str [] => .str emptyContent
  | content => content

/-- For a notice only null is no content. -/
def noticeContent (record : Record) : Json :=
  match record.content with
  | .null => .str emptyContent
  | content => content

end Record

namespace Renderer

variable {σ : Type}

/-! ## fragments -/

/-- Text with its markup rendered; structures as JSON text. -/
def textContent (renderer : Renderer σ) : Json → Text
  | .str text => Markup.render renderer.viewer (Text.strip text)
  | content => content.contentText

def notice (renderer : Renderer σ) (record : Record) : Text :=
  Html.notification (renderer.textContent record.noticeContent)

def content (renderer : Renderer σ) (record : Record) (session : Session σ) :
    Except Fault Text × Session σ :=
  match record.element with
  | .card => renderer.cardContent record.messageContent session
  | .text => (.ok (renderer.textContent record.messageContent), session)

/-- The avatar is chosen even if it is hidden, so that turns are taken as in a visible render. -/
def chooseAvatar (view : AvatarView) (record : Record) (session : Session σ) :
    Option Text × Session σ :=
  let (url, roster) :=
    Avatar.choose view.myAvatar ⟨record.senderName, record.avatarHint, record.isOwn⟩
      session.roster
  (if view.hidden then none else some url, { session with roster })

def item (renderer : Renderer σ) (view : AvatarView) (record : Record) (session : Session σ) :
    Except Fault Text × Session σ :=
  let (avatarUrl, session) := chooseAvatar view record session
  match renderer.content record session with
  | (.error fault, session) => (.error fault, session)
  | (.ok content, session) =>
    (.ok (Html.chatItem {
      name := record.shownName
      content
      avatarUrl
      isOwn := record.isOwn
      isCard := record.element = .card }), session)

/-! ## transcripts -/

/-- The fragments of records after notices with the contents in `seen`. A fault ends the render;
what was done before it stays done. -/
def fragmentsFrom (renderer : Renderer σ) (view : AvatarView) :
    List ContentKey → List Record → Session σ → Except Fault (List Text) × Session σ
  | _, [], session => (.ok [], session)
  | seen, record :: rest, session =>
    if record.isSystem then
      match fragmentsFrom renderer view (record.content.contentKey :: seen) rest session with
      | (.error fault, session) => (.error fault, session)
      | (.ok fragments, session) => (.ok (renderer.notice record :: fragments), session)
    else if seen.contains record.content.contentKey then
      fragmentsFrom renderer view seen rest session
    else
      match renderer.item view record session with
      | (.error fault, session) => (.error fault, session)
      | (.ok fragment, session) =>
        match fragmentsFrom renderer view seen rest session with
        | (.error fault, session) => (.error fault, session)
        | (.ok fragments, session) => (.ok (fragment :: fragments), session)

def fragments (renderer : Renderer σ) (view : AvatarView) (records : List Record)
    (session : Session σ) : Except Fault (List Text) × Session σ :=
  renderer.fragmentsFrom view [] records session

def transcript (renderer : Renderer σ) (view : AvatarView) (records : List Record)
    (session : Session σ) : Except Fault Text × Session σ :=
  let (fragments, session) := renderer.fragments view records session
  (fragments.map List.flatten, session)

def container (renderer : Renderer σ) (view : AvatarView) (title : Text) (records : List Record)
    (session : Session σ) : Except Fault Text × Session σ :=
  let (items, session) := renderer.transcript view records session
  (items.map fun items => Html.container items title, session)

end Renderer

end ChatTranscript

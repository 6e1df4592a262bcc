import ChatTranscript.Session.Basic
import ChatTranscript.Card.Variant
import ChatTranscript.Card.Basic
import ChatTranscript.Template.Render
import ChatTranscript.Html.Fragment

/-!
# Rendering cards

A card is shown by the template of its variant. What goes wrong with a card is shown in its place.

## Main definitions

* `Renderer.card`: an accepted card.
* `Renderer.cardContent`: the content of a record, which may not be a card.
-/

namespace ChatTranscript

namespace Renderer

variable {σ : Type}

def templatePath (renderer : Renderer σ) (card : Card) : Text :=
  Card.templatePath renderer.templates card.app (Card.classify card.app card.view)

/-- A card with its template, or what went wrong. -/
def fillCard (renderer : Renderer σ) (card : Card) (session : Session σ) :
    Except Fault Text × Session σ :=
  match session.template renderer.fetch (renderer.templatePath card) with
  | (.error fault, session) => (.error fault, session)
  | (.ok template, session) =>
    let (markup, handlers) :=
      Template.render renderer.ids template (.obj card.context) session.handlers
    (markup, { session with handlers })

def card (renderer : Renderer σ) (card : Card) (session : Session σ) :
    Text × Session σ :=
  match renderer.fillCard card session with
  | (.ok markup, session) => (markup, session)
  | (.error fault, session) =>
    (Html.error "Card render failed".toList fault.description, session)

/-- Content that is no card is shown as such; other faults in reading it are passed on. -/
def cardContent (renderer : Renderer σ) (content : Json) (session : Session σ) :
    Except Fault Text × Session σ :=
  match Card.ofContent content with
  | .ok card =>
    let (markup, session) := renderer.card card session
    (.ok markup, session)
  | .error (.card rejection) =>
    (.ok (Html.error "Card parse failed".toList (Fault.card rejection).description), session)
  | .error fault => (.error fault, session)

end Renderer

end ChatTranscript

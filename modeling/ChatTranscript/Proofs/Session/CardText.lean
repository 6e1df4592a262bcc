import ChatTranscript.Proofs.Json.RoundTrip
import ChatTranscript.Proofs.Transcript.Trace

/-!
# Cards as JSON text

A card may be given as an object or as its JSON text. Both are the same card, at every depth of the
object, so both are rendered alike and leave the session alike.

## Main statements

* `Card.ofContent_contentText`: content is read from its JSON text as the same card.
* `Renderer.cardContent_contentText`: an object and its JSON text are rendered alike.
-/

namespace ChatTranscript

/-- Content that is no string is read from its JSON text as the same card, or refused alike. -/
theorem Card.ofContent_contentText {content : Json} (structured : content.kind ≠ .str)
    (distinct : content.distinctKeys = true) (within : content.withinDigits = true) :
    Card.ofContent (.str content.contentText) = Card.ofContent content := by
  have read : Json.read (content.write Json.spaced) = .ok content :=
    Json.read_write Json.readable_spaced distinct within
  cases content with
  | str text => exact absurd rfl structured
  | null | bool | int | float | arr | obj =>
    simp only [Json.contentText, Card.ofContent, read]

namespace Renderer

variable {σ : Type}

/-- What is wrong with an object is shown in its place, so that it is always rendered. -/
theorem cardContent_obj (renderer : Renderer σ) (fields : Fields) (session : Session σ) :
    ∃ markup after, renderer.cardContent (.obj fields) session = (.ok markup, after) := by
  unfold cardContent
  split
  · exact ⟨_, _, rfl⟩
  · exact ⟨_, _, rfl⟩
  · rename_i fault other read
    obtain ⟨rejection, rfl⟩ | ⟨_, _, -, text, -⟩ := Card.ofContent_error read
    · exact absurd rfl (other rejection)
    · cases text

/-- An object and its JSON text give the same markup, be it of a card or of what is wrong with it,
and leave the same session. -/
theorem cardContent_contentText (renderer : Renderer σ) {fields : Fields}
    (distinct : (Json.obj fields).distinctKeys = true)
    (within : (Json.obj fields).withinDigits = true) (session : Session σ) :
    ∃ markup after,
      renderer.cardContent (.obj fields) session = (.ok markup, after) ∧
      renderer.cardContent (.str (Json.obj fields).contentText) session = (.ok markup, after) := by
  obtain ⟨markup, after, rendered⟩ := renderer.cardContent_obj fields session
  refine ⟨markup, after, rendered, ?_⟩
  rw [cardContent, Card.ofContent_contentText (by simp [Json.kind]) distinct within]
  exact rendered

/-- A card with a click handler, and with values that are easily changed on the way through text. -/
def mixedCard : Fields := [
  ("app".toList, .str "com.tencent.\"news\"".toList),
  ("meta".toList, .obj [("b".toList, .obj []), ("a\n".toList, .arr [])]),
  ("overwrite".toList, .obj [("clickHandler".toList, .str "noop".toList)]),
  ("n".toList, .arr [.int (-7), .float .nan, .float (.finite true .zero), .bool true, .null])]

/-- A renderer whose templates all show the numbers of a card. -/
def showingNumbers : Renderer Unit :=
  ⟨fun _ _ => (.text "\x7b\x7bn\x7d\x7d\x7b\x7b__clickAttrs\x7d\x7d".toList, ()), .counting 0 0,
    [], []⟩

theorem cardContent_contentText_mixedCard :
    ∃ card markup after,
      Card.ofContent (.obj mixedCard) = .ok card ∧
      showingNumbers.cardContent (.obj mixedCard) (.fresh [] [] ()) = (.ok markup, after) ∧
      showingNumbers.cardContent (.str (Json.obj mixedCard).contentText) (.fresh [] [] ()) =
        (.ok markup, after) := by
  have distinct : (Json.obj mixedCard).distinctKeys = true := by decide
  obtain ⟨markup, after, rendered⟩ :=
    showingNumbers.cardContent_contentText distinct (by decide) (.fresh [] [] ())
  exact ⟨_, markup, after, rfl, rendered⟩

end Renderer

end ChatTranscript

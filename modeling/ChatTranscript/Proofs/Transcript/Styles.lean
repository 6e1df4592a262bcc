import ChatTranscript.Proofs.Template.Gains
import ChatTranscript.Proofs.Transcript.Trace

/-!
# The styles that a render gathers

A render changes the template store by asking for the templates of its cards, and in no other way.
So the style scope grows by the style tags of the templates that the render is the first to fetch,
whether it returns or ends with a fault.

## Main statements

* `Renderer.container_gathers`: what a render does to the template store.
-/

namespace ChatTranscript

namespace Renderer

variable {σ : Type} {renderer : Renderer σ} {view : AvatarView} {record : Record}
  {records : List Record} {session after : Session σ} {fragment : Text}
  {result : Except Fault (List Text)}

/-- The template of a card is all that the store is asked for to fill it. -/
theorem fillCard_gathers {card : Card} {outcome : Except Fault Text}
    (filled : renderer.fillCard card session = (outcome, after)) :
    session.store.Gathers after.store := by
  have asked : session.store.Gathers
      (session.template renderer.fetch (renderer.templatePath card)).2.store :=
    Template.Store.get_gathers _ _ _ _
  unfold fillCard at filled
  rcases answer : session.template renderer.fetch (renderer.templatePath card) with
    ⟨fault | template, next⟩
  all_goals
    rw [answer] at filled asked
    cases filled
    exact asked

theorem Shows.gathers (h : Shows renderer view record session fragment after) :
    session.store.Gathers after.store := by
  have unchanged : (chooseAvatar view record session).2.store = session.store := rfl
  cases h with
  | notice | text | noCard => exact .refl session.store
  | card message element accepted filled | failedCard message element accepted filled =>
    exact unchanged ▸ fillCard_gathers filled

theorem Trace.gathers (h : Trace renderer view records session result after) :
    session.store.Gathers after.store := by
  induction h with
  | done | stop => exact .refl _
  | step shows _ ih => exact shows.gathers.trans ih

/-- To the template store, a render only adds the templates of its cards. -/
theorem container_gathers (renderer : Renderer σ) (view : AvatarView) (title : Text)
    (records : List Record) (session : Session σ) :
    session.store.Gathers (renderer.container view title records session).2.store :=
  (fragmentsFrom_trace records .nil).gathers

end Renderer

end ChatTranscript

import ChatTranscript.Proofs.Transcript.Composition

/-!
# Rejected cards

A card that is rejected is shown as a note in its frame. Apart from the note, its record leaves the
mark of a message of text: it takes the turn of its sender's avatar, and no template is asked for
and no click handler bound. So any text may stand in its place without a change to the rest of a
render.

## Main definitions

* `Record.Rejected`: a message whose content is no card although it should be one.
* `Record.withText`: the message of the same sender that holds a text.

## Main statements

* `Renderer.transcript_rejected`: what a rejected card changes in a render.
-/

namespace ChatTranscript

namespace Record

/-- A message whose content is no card although it should be one. -/
structure Rejected (record : Record) : Prop where
  message : record.isSystem = false
  element : record.element = .card
  content : ∃ rejection, Card.ofContent record.content = .error (.card rejection)

/-- The message of the same sender that holds a text. -/
def withText (text : Text) (record : Record) : Record :=
  { record with element := .text, content := .str text }

/-- What stands for missing content is no card either. -/
theorem Rejected.messageContent {record : Record} (rejected : record.Rejected) :
    ∃ rejection, Card.ofContent record.messageContent = .error (.card rejection) := by
  unfold Record.messageContent
  split
  · exact ⟨_, rfl⟩
  · exact ⟨_, rfl⟩
  · exact rejected.content

theorem repeats_withText {record : Record} {text : Text} {earlier : List Record}
    (repeats : (record.withText text).Repeats earlier) :
    ∃ notice ∈ earlier, notice.isSystem = true ∧ notice.content = .str text := by
  obtain ⟨-, notice, member, system, same⟩ := repeats
  refine ⟨notice, member, system, ?_⟩
  rw [withText] at same
  cases content : notice.content with
  | str other =>
    rw [content] at same
    cases same
    rfl
  | null | bool | int | float | arr | obj =>
    rw [content] at same
    cases same

end Record

namespace Renderer

variable {σ : Type} {renderer : Renderer σ} {view : AvatarView} {record : Record}
  {before later : List Record} {session middle after : Session σ} {seen : List ContentKey}
  {fragment : Text} {first fragments : List Text}

/-- A rejected card is a note in a frame, and nothing of a card is done for it. -/
theorem item_rejected {rejection : CardRejection} (element : record.element = .card)
    (rejected : Card.ofContent record.messageContent = .error (.card rejection))
    (session : Session σ) :
    renderer.item view record session =
      (.ok (frame view record session
        (Html.error "Card parse failed".toList (Fault.card rejection).description)),
        (chooseAvatar view record session).2) := by
  simp [item, Renderer.content, element, cardContent, rejected, frame]

theorem item_withText (text : Text) (session : Session σ) :
    renderer.item view (record.withText text) session =
      (.ok (frame view (record.withText text) session
        (renderer.textContent (record.withText text).messageContent)),
        (chooseAvatar view record session).2) := rfl

/-- If a render returns, so does the render of a front of its records. -/
theorem Returns.front (before : List Record)
    (h : Returns renderer view seen (before ++ later) session fragments after) :
    ∃ first middle, Returns renderer view seen before session first middle := by
  induction before generalizing seen session fragments with
  | nil => exact ⟨[], session, .done seen session⟩
  | cons record before ih =>
    cases h with
    | notice system rest =>
      obtain ⟨first, middle, front⟩ := ih rest
      exact ⟨_, middle, .notice system front⟩
    | repeated message known rest =>
      obtain ⟨first, middle, front⟩ := ih rest
      exact ⟨first, middle, .repeated message known front⟩
    | shown message new item rest =>
      obtain ⟨first, middle, front⟩ := ih rest
      exact ⟨_, middle, .shown message new item front⟩

/-- A message that repeats no notice is shown between the fragments before it and after it. What
comes after it depends on the session that it leaves, and not on the message. -/
theorem fragments_between (front : renderer.fragments view before session = (.ok first, middle)) :
    ∃ more, ∀ {record : Record} {fragment : Text} {next : Session σ} (later : List Record),
      record.isSystem = false → ¬ record.Repeats before →
      renderer.item view record middle = (.ok fragment, next) →
      renderer.fragments view (before ++ record :: later) session =
        prependAll (first ++ [fragment]) (renderer.fragmentsFrom view more later next) := by
  obtain ⟨more, tracks, goesOn⟩ := (returns_of_eq_ok front).append .nil
  rw [List.nil_append] at tracks
  refine ⟨more, fun {record fragment next} later message new item => ?_⟩
  rw [fragments, goesOn, fragmentsFrom_shown message (mt (tracks.repeats_iff message).2 new) item]
  rcases renderer.fragmentsFrom view more later next with ⟨fault | rest, last⟩
  · rfl
  · simp [prependAll, prepend, Except.map]

/-- A rejected card that repeats no notice changes its own fragment only. With any text in its place
that no notice before it has for its content, the render gives the same fragments before and after
it, and leaves the same session. -/
theorem transcript_rejected (before later : List Record) (text : Text) {markup : Text}
    (rejected : record.Rejected) (new : ¬ record.Repeats before)
    (other : ∀ notice ∈ before, notice.isSystem = true → notice.content ≠ .str text)
    (returns : renderer.transcript view (before ++ record :: later) session =
      (.ok markup, after)) :
    ∃ first middle rejection rest,
      renderer.fragments view before session = (.ok first, middle) ∧
      renderer.fragments view (before ++ record :: later) session =
        (.ok (first ++ frame view record middle
          (Html.error "Card parse failed".toList (Fault.card rejection).description) :: rest),
          after) ∧
      renderer.fragments view (before ++ record.withText text :: later) session =
        (.ok (first ++ frame view (record.withText text) middle
          (renderer.textContent (record.withText text).messageContent) :: rest), after) := by
  obtain ⟨shown, whole, rfl⟩ := returns_of_transcript returns
  obtain ⟨first, middle, front⟩ := whole.front
  obtain ⟨rejection, refused⟩ := rejected.messageContent
  have unlike : ¬ (record.withText text).Repeats before := fun repeats => by
    obtain ⟨notice, member, system, same⟩ := Record.repeats_withText repeats
    exact other notice member system same
  obtain ⟨more, between⟩ := fragments_between front.eq_ok
  have card := between later rejected.message new (item_rejected rejected.element refused middle)
  have plain := between later (show (record.withText text).isSystem = false from rejected.message)
    unlike (item_withText text middle)
  -- both renders go on with the same records from the same session
  rcases goesOn : renderer.fragmentsFrom view more later (chooseAvatar view record middle).2 with
    ⟨fault | rest, last⟩
  · rw [goesOn] at card
    cases card.symm.trans whole.eq_ok
  · rw [goesOn] at card plain
    obtain rfl : last = after := congrArg Prod.snd (card.symm.trans whole.eq_ok)
    refine ⟨first, middle, rejection, rest, front.eq_ok, ?_, ?_⟩
    · simpa [prependAll, Except.map] using card
    · simpa [prependAll, Except.map] using plain

/-- A card that is an array. -/
def arrayCard : Record := ⟨"bob".toList, .card, .arr [], none⟩

theorem transcript_rejected_array :
    ∃ markup after first middle rejection rest,
      sampleRenderer.transcript ⟨[], false⟩ (sampleParts.1 ++ arrayCard :: sampleParts.2)
        (.fresh [] [] ()) = (.ok markup, after) ∧
      sampleRenderer.fragments ⟨[], false⟩ sampleParts.1 (.fresh [] [] ()) = (.ok first, middle) ∧
      sampleRenderer.fragments ⟨[], false⟩ (sampleParts.1 ++ arrayCard :: sampleParts.2)
        (.fresh [] [] ()) =
        (.ok (first ++ frame ⟨[], false⟩ arrayCard middle
          (Html.error "Card parse failed".toList (Fault.card rejection).description) :: rest),
          after) ∧
      sampleRenderer.fragments ⟨[], false⟩
        (sampleParts.1 ++ arrayCard.withText "B".toList :: sampleParts.2) (.fresh [] [] ()) =
        (.ok (first ++ frame ⟨[], false⟩ (arrayCard.withText "B".toList) middle
          (sampleRenderer.textContent (.str "B".toList)) :: rest), after) := by
  have rejected : arrayCard.Rejected := ⟨by decide, rfl, _, rfl⟩
  obtain ⟨first, middle, rejection, rest, parts⟩ :=
    transcript_rejected sampleParts.1 sampleParts.2 "B".toList rejected (by decide)
      (by simp [sampleParts]) rfl
  exact ⟨_, _, first, middle, rejection, rest, rfl, parts⟩

end Renderer

end ChatTranscript

import ChatTranscript.Proofs.Transcript.Trace
import Mathlib.Data.List.Forall2

/-!
# Renders without avatars

Hiding avatars is a matter of the markup alone. A render without them ends as the one with them
does, in the same session, and its markup is the same with the image of every chat item taken out.

## Main definitions

* `Html.ChatItem.front`, `Html.ChatItem.back`: what stands around the image of a chat item.
* `Renderer.Unpictured`: the fragment of a record with and without its image.

## Main statements

* `Renderer.transcript_hidden`: both renders of a transcript, fragment by fragment.
-/

namespace ChatTranscript

namespace Html

namespace ChatItem

/-- What stands before the image. -/
def front (item : ChatItem) : Text :=
  "\n<div class=\"".toList ++ (if item.isOwn then "chatItem me" else "chatItem").toList ++
    "\">\n  ".toList

/-- What stands after the image. -/
def back (item : ChatItem) : Text :=
  "\n  <div class=\"chatContentWrapper\">\n    <b class=\"chatName\">".toList ++
    escape item.name ++ "</b>\n    <div class=\"".toList ++
    (if item.isCard then "chatCardContent" else "chatContent").toList ++ "\">".toList ++
    item.content ++ "</div>\n  </div>\n</div>".toList

end ChatItem

theorem chatItem_eq (item : ChatItem) :
    chatItem item = item.front ++ avatar item.avatarUrl ++ item.back := by
  unfold chatItem ChatItem.front ChatItem.back
  simp only [List.append_assoc]

end Html

namespace Renderer

variable {σ : Type} {renderer : Renderer σ} {myAvatar : Text} {record : Record}
  {records earlier : List Record} {session after : Session σ} {seen : List ContentKey}

/-- Notices have no image. A chat item without its image is what stands around the image. -/
inductive Unpictured (renderer : Renderer σ) (record : Record) : Text × Text → Prop where
  | notice (system : record.isSystem = true) :
      Unpictured renderer record (renderer.notice record, renderer.notice record)
  | item {item : Html.ChatItem} (message : record.isSystem = false)
      (sender : item.name = record.shownName ∧ item.isOwn = record.isOwn) :
      Unpictured renderer record (Html.chatItem item, item.front ++ item.back)

/-- The image is left out after it has been chosen. -/
theorem unpictured_frame (renderer : Renderer σ) (myAvatar : Text) (session : Session σ)
    (content : Text) (message : record.isSystem = false) :
    renderer.Unpictured record
      (frame ⟨myAvatar, false⟩ record session content,
        frame ⟨myAvatar, true⟩ record session content) := by
  let item : Html.ChatItem := {
    name := record.shownName
    content
    avatarUrl := (chooseAvatar ⟨myAvatar, false⟩ record session).1
    isOwn := record.isOwn
    isCard := record.element = .card }
  have bare : frame ⟨myAvatar, true⟩ record session content = item.front ++ item.back := by
    have hidden : (chooseAvatar ⟨myAvatar, true⟩ record session).1 = none := rfl
    rw [frame, hidden, Html.chatItem_eq, Html.avatar, List.append_nil]
    rfl
  rw [bare]
  exact .item message ⟨rfl, rfl⟩

theorem item_hidden (renderer : Renderer σ) (myAvatar : Text) (session : Session σ)
    (message : record.isSystem = false) :
    ∃ (outcome : Except Fault (Text × Text)) (after : Session σ),
      renderer.item ⟨myAvatar, false⟩ record session = (outcome.map Prod.fst, after) ∧
      renderer.item ⟨myAvatar, true⟩ record session = (outcome.map Prod.snd, after) ∧
      ∀ pair, outcome = .ok pair → renderer.Unpictured record pair := by
  have same : (chooseAvatar ⟨myAvatar, true⟩ record session).2 =
      (chooseAvatar ⟨myAvatar, false⟩ record session).2 := rfl
  rw [item_eq, item_eq, same]
  generalize renderer.content record (chooseAvatar ⟨myAvatar, false⟩ record session).2 = outcome
  obtain ⟨fault | content, after⟩ := outcome
  · exact ⟨.error fault, after, rfl, rfl, by rintro _ ⟨⟩⟩
  · refine ⟨.ok (_, _), after, rfl, rfl, ?_⟩
    rintro _ ⟨⟩
    exact unpictured_frame renderer myAvatar session content message

/-- Both renders of some records, with the fragments side by side. -/
theorem fragmentsFrom_hidden (renderer : Renderer σ) (myAvatar : Text) (records : List Record)
    (session : Session σ) (h : Tracks seen earlier) :
    ∃ (outcome : Except Fault (List (Text × Text))) (after : Session σ),
      renderer.fragmentsFrom ⟨myAvatar, false⟩ seen records session =
        (outcome.map (List.map Prod.fst), after) ∧
      renderer.fragmentsFrom ⟨myAvatar, true⟩ seen records session =
        (outcome.map (List.map Prod.snd), after) ∧
      ∀ pairs, outcome = .ok pairs →
        List.Forall₂ renderer.Unpictured (Transcript.distinctFrom earlier records) pairs := by
  induction records generalizing seen earlier session with
  | nil => exact ⟨.ok [], session, rfl, rfl, by rintro pairs ⟨⟩; exact .nil⟩
  | cons record records ih =>
    unfold Transcript.distinctFrom
    cases system : record.isSystem with
    | true =>
      have kept : ¬ record.Repeats earlier := by simp [Record.Repeats, system]
      obtain ⟨outcome, after, shown, hidden, pictures⟩ := ih session (h.notice system)
      rw [if_neg kept, fragmentsFrom_notice system, fragmentsFrom_notice system, shown, hidden]
      cases outcome with
      | error fault => exact ⟨.error fault, after, rfl, rfl, by rintro _ ⟨⟩⟩
      | ok pairs =>
        refine ⟨.ok ((_, _) :: pairs), after, rfl, rfl, ?_⟩
        rintro _ ⟨⟩
        exact .cons (.notice system) (pictures pairs rfl)
    | false =>
      have tracks := h.message system
      split
      · rename_i repeated
        have known := (h.repeats_iff system).1 repeated
        rw [fragmentsFrom_repeated system known, fragmentsFrom_repeated system known]
        exact ih session tracks
      · rename_i kept
        have new := mt (h.repeats_iff system).2 kept
        obtain ⟨item, next, shown, hidden, picture⟩ :=
          item_hidden renderer myAvatar session system
        cases item with
        | error fault =>
          rw [fragmentsFrom_stopped system new shown, fragmentsFrom_stopped system new hidden]
          exact ⟨.error fault, next, rfl, rfl, by rintro _ ⟨⟩⟩
        | ok pair =>
          rw [fragmentsFrom_shown system new shown, fragmentsFrom_shown system new hidden]
          obtain ⟨outcome, after, shown, hidden, pictures⟩ := ih next tracks
          rw [shown, hidden]
          cases outcome with
          | error fault => exact ⟨.error fault, after, rfl, rfl, by rintro _ ⟨⟩⟩
          | ok pairs =>
            refine ⟨.ok (pair :: pairs), after, rfl, rfl, ?_⟩
            rintro _ ⟨⟩
            exact .cons (picture pair rfl) (pictures pairs rfl)

/-- A render with avatars and one without have one outcome and leave one session: they stop with the
same fault, or give fragments for the same records, where every chat item without avatars is the one
with them less its image. -/
theorem transcript_hidden (renderer : Renderer σ) (myAvatar : Text) (records : List Record)
    (session : Session σ) :
    ∃ (outcome : Except Fault (List (Text × Text))) (after : Session σ),
      renderer.transcript ⟨myAvatar, false⟩ records session =
        (outcome.map fun pairs => (pairs.map Prod.fst).flatten, after) ∧
      renderer.transcript ⟨myAvatar, true⟩ records session =
        (outcome.map fun pairs => (pairs.map Prod.snd).flatten, after) ∧
      ∀ pairs, outcome = .ok pairs →
        List.Forall₂ renderer.Unpictured (Transcript.distinct records) pairs := by
  obtain ⟨outcome, after, shown, hidden, pictures⟩ :=
    fragmentsFrom_hidden renderer myAvatar records session .nil
  refine ⟨outcome, after, ?_, ?_, pictures⟩
  · rw [transcript, Renderer.fragments, shown]
    cases outcome <;> rfl
  · rw [transcript, Renderer.fragments, hidden]
    cases outcome <;> rfl

end Renderer

end ChatTranscript

import ChatTranscript.Proofs.Transcript.Trace
import Mathlib.Data.List.Forall2

/-!
# Messages that repeat a notice

Messages that repeat a notice before them leave no mark on a render: neither the markup nor the
session is other than it would be without them. What is left is shown record by record.

## Main statements

* `Renderer.transcript_distinct`: a transcript renders as the transcript of its distinct records.
-/

namespace ChatTranscript

namespace Renderer

variable {σ : Type} {renderer : Renderer σ} {view : AvatarView} {record : Record}
  {records : List Record} {session after : Session σ} {fragment : Text} {fragments : List Text}
  {result : Except Fault (List Text)}

/-- A notice for a record of the chat itself, one chat item for any other. -/
def IsFragment (renderer : Renderer σ) (record : Record) (fragment : Text) : Prop :=
  if record.isSystem then fragment = renderer.notice record
  else ∃ content avatarUrl, fragment = Html.chatItem {
    name := record.shownName
    content
    avatarUrl
    isOwn := record.isOwn
    isCard := record.element = .card }

theorem Shows.isFragment (shows : Shows renderer view record session fragment after) :
    renderer.IsFragment record fragment := by
  unfold IsFragment
  cases shows with
  | notice system => rw [if_pos system]
  | text message | card message | failedCard message | noCard message =>
    rw [message, if_neg Bool.false_ne_true]
    exact ⟨_, _, rfl⟩

theorem Trace.isFragment (trace : Trace renderer view records session result after)
    (returns : result = .ok fragments) : List.Forall₂ renderer.IsFragment records fragments := by
  induction trace generalizing fragments with
  | done =>
    cases returns
    exact .nil
  | stop => cases returns
  | @step record records _ _ _ fragment result shows _ ih =>
    cases result with
    | error fault => cases returns
    | ok rest =>
      cases returns
      exact .cons shows.isFragment (ih rfl)

/-- Leaving out the repeated notices beforehand changes neither the outcome nor the session, and a
render that returns gives the fragments of the other records in order. A record is left out exactly
if it repeats one of the records before it. -/
theorem transcript_distinct (renderer : Renderer σ) (view : AvatarView) (records : List Record)
    (session : Session σ) :
    renderer.transcript view (Transcript.distinct records) session =
      renderer.transcript view records session ∧
    (∀ markup after, renderer.transcript view records session = (.ok markup, after) →
      ∃ fragments, markup = fragments.flatten ∧
        List.Forall₂ renderer.IsFragment (Transcript.distinct records) fragments ∧
        Trace renderer view (Transcript.distinct records) session (.ok fragments) after) ∧
    ∀ before record rest, records = before ++ record :: rest →
      Transcript.distinct records = Transcript.distinct before ++
        (if record.Repeats before then [] else [record]) ++
        Transcript.distinctFrom (before ++ [record]) rest := by
  refine ⟨?_, fun markup after returns => ?_, ?_⟩
  · simp only [transcript, fragments, Transcript.distinct, fragmentsFrom_distinctFrom .nil]
  · have trace : Trace renderer view (Transcript.distinct records) session _ _ :=
      fragmentsFrom_trace records .nil
    rcases outcome : renderer.fragmentsFrom view [] records session with ⟨fault | fragments, last⟩
    · simp [transcript, Renderer.fragments, outcome, Except.map] at returns
    · obtain ⟨rfl, rfl⟩ : fragments.flatten = markup ∧ last = after := by
        simpa [transcript, Renderer.fragments, outcome, Except.map] using returns
      rw [outcome] at trace
      exact ⟨fragments, rfl, trace.isFragment rfl, trace⟩
  · rintro before record rest rfl
    simp only [Transcript.distinct, Transcript.distinctFrom_append, List.nil_append,
      Transcript.distinctFrom, List.append_assoc]
    split <;> rfl

/-- Only the message after the notice is left out. -/
example : (Transcript.distinct [
    ⟨"bob".toList, .text, .str "A".toList, none⟩, ⟨"sys".toList, .text, .str "A".toList, none⟩,
    ⟨"bob".toList, .text, .str "A".toList, none⟩]).map Record.sender =
    ["bob".toList, "sys".toList] := by
  decide

end Renderer

end ChatTranscript

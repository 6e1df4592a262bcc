import ChatTranscript.Proofs.Json.LongIntegers
import ChatTranscript.Proofs.Transcript.Trace

/-!
# When a transcript is rendered

Whatever the fetcher does and whatever the session holds, a render ends in one of two ways. It gives
one fragment for each record that repeats no notice, with a note in the place of each card that is
none or cannot be filled; or it meets a card whose text holds an integer of too many digits, and
stops there.

## Main statements

* `Renderer.transcript_returns_iff`: a render returns unless it meets such a card.
* `Renderer.transcript_not_total`: there are transcripts that hold such a card.
-/

namespace ChatTranscript

namespace Renderer

variable {σ : Type} {renderer : Renderer σ} {view : AvatarView} {record : Record}
  {records : List Record} {session after : Session σ} {fragment : Text} {fragments : List Text}
  {result : Except Fault (List Text)} {fault : Fault}

/-- A record that is shown can be read. -/
theorem Shows.not_oversized (shows : Shows renderer view record session fragment after)
    (count : Nat) : ¬ record.Oversized count := by
  rintro ⟨message, element, text, content, read⟩
  have refused : Card.ofContent record.messageContent = .error (.tooManyDigits count) := by
    simp [(Record.messageContent_eq_iff read).2 content, Card.ofContent, read]
  cases shows with
  | notice system => simp [system] at message
  | text _ other => simp [other] at element
  | card _ _ accepted _ => simp [accepted] at refused
  | failedCard _ _ accepted _ => simp [accepted] at refused
  | noCard _ _ rejected => simp [rejected] at refused

theorem Trace.not_oversized (trace : Trace renderer view records session result after)
    (returns : result = .ok fragments) :
    ∀ record ∈ records, ∀ count, ¬ record.Oversized count := by
  induction trace generalizing fragments with
  | done => simp
  | stop => cases returns
  | @step record records _ _ _ _ result shows _ ih =>
    cases result with
    | error fault => cases returns
    | ok fragments =>
      intro other member
      obtain rfl | later := List.mem_cons.1 member
      · exact shows.not_oversized
      · exact ih rfl other later

/-- A trace that does not return stops at its first oversized record. -/
theorem Trace.first_oversized (trace : Trace renderer view records session result after)
    (raises : result = .error fault) :
    ∃ shown large rest count, records = shown ++ large :: rest ∧
      (∀ record ∈ shown, ∀ count, ¬ record.Oversized count) ∧ large.Oversized count ∧
      fault = .tooManyDigits count := by
  induction trace with
  | done => cases raises
  | @stop record count records _ large =>
    exact ⟨[], record, records, count, rfl, by simp, large, (Except.error.inj raises).symm⟩
  | @step record records _ _ _ _ result shows _ ih =>
    cases result with
    | ok fragments => cases raises
    | error other =>
      obtain ⟨shown, large, rest, count, rfl, small, found, same⟩ := ih raises
      refine ⟨record :: shown, large, rest, count, rfl, ?_, found, same⟩
      intro earlier member
      obtain rfl | later := List.mem_cons.1 member
      · exact shows.not_oversized
      · exact small earlier later

theorem transcript_trace (renderer : Renderer σ) (view : AvatarView) (records : List Record)
    (session : Session σ) :
    ∃ result after, Trace renderer view (Transcript.distinct records) session result after ∧
      renderer.transcript view records session = (result.map List.flatten, after) :=
  ⟨_, _, fragmentsFrom_trace records .nil, rfl⟩

/-- A render returns exactly if no card that it comes to is too large to be read. Then every record
that repeats no notice has its fragment; else the render stops at the first such card. -/
theorem transcript_returns_iff (renderer : Renderer σ) (view : AvatarView) (records : List Record)
    (session : Session σ) :
    ((∃ fragments after,
        renderer.transcript view records session = (.ok fragments.flatten, after) ∧
        Trace renderer view (Transcript.distinct records) session (.ok fragments) after) ↔
      ∀ record ∈ Transcript.distinct records, ∀ count, ¬ record.Oversized count) ∧
    ∀ fault after, renderer.transcript view records session = (.error fault, after) →
      ∃ shown large rest count, Transcript.distinct records = shown ++ large :: rest ∧
        (∀ record ∈ shown, ∀ count, ¬ record.Oversized count) ∧ large.Oversized count ∧
        fault = .tooManyDigits count := by
  obtain ⟨result, after, trace, eq⟩ := transcript_trace renderer view records session
  refine ⟨⟨?_, fun small => ?_⟩, fun fault last raises => ?_⟩
  · rintro ⟨fragments, last, -, returned⟩
    exact returned.not_oversized rfl
  · cases result with
    | ok fragments => exact ⟨fragments, after, eq, trace⟩
    | error fault =>
      obtain ⟨shown, large, rest, count, split, -, found, -⟩ := trace.first_oversized rfl
      exact absurd found (small large (by simp [split]) count)
  · cases result with
    | ok fragments => simp [eq, Except.map] at raises
    | error other =>
      obtain ⟨rfl, rfl⟩ : other = fault ∧ after = last := by simpa [eq, Except.map] using raises
      exact trace.first_oversized rfl

end Renderer

/-! ## an oversized card -/

/-- A card whose text is one integer of 4301 digits. -/
def Record.ones : Record where
  sender := "alice".toList
  element := .card
  content := .str (List.replicate 4301 '1')
  avatarHint := none

theorem Record.oversized_ones : Record.ones.Oversized 4301 :=
  ⟨by decide, rfl, _, rfl, Json.read_ones (by decide)⟩

theorem Renderer.transcript_not_total :
    ¬ ∀ (renderer : Renderer Unit) (view : AvatarView) (records : List Record)
      (session : Session Unit),
      ∃ markup after, renderer.transcript view records session = (.ok markup, after) := by
  intro total
  obtain ⟨markup, after, returns⟩ :=
    total ⟨fun _ _ => (.text [], ()), .counting 0 0, [], []⟩ ⟨[], false⟩ [.ones] (.fresh [] [] ())
  have message : Record.ones.isSystem = false := Record.oversized_ones.1
  have new : ¬ [].contains Record.ones.content.contentKey = true := by simp
  simp [transcript, fragments, fragmentsFrom_stopped message new
    (item_of_oversized Record.oversized_ones), Except.map] at returns

end ChatTranscript

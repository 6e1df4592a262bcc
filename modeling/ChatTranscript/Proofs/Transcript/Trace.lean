import ChatTranscript.Session.Transcript

/-!
# Traces of a transcript render

A render as a sequence of steps, one for each record that is shown. A record is left out if it
repeats an earlier notice. A step either gives a fragment or, for a card whose text holds too long
an integer, ends the render.

## Main definitions

* `Record.Repeats`, `Transcript.distinct`: the records that are left out, and the others.
* `Renderer.Shows`: the fragment of one record, by the five ways in which records are shown.
* `Renderer.Trace`: the fragments of a sequence of records.
* `Record.Oversized`: the records that end a render.
-/

namespace ChatTranscript

/-! ## repeated notices -/

/-- An earlier notice has the same content as this message. -/
def Record.Repeats (earlier : List Record) (record : Record) : Prop :=
  record.isSystem = false ∧ ∃ notice ∈ earlier,
    notice.isSystem = true ∧ notice.content.contentKey = record.content.contentKey

instance (earlier : List Record) (record : Record) : Decidable (record.Repeats earlier) := by
  unfold Record.Repeats; infer_instance

namespace Transcript

/-- The records after `earlier` that repeat no notice. -/
def distinctFrom : List Record → List Record → List Record
  | _, [] => []
  | earlier, record :: rest =>
    if record.Repeats earlier then distinctFrom (earlier ++ [record]) rest
    else record :: distinctFrom (earlier ++ [record]) rest

/-- The transcript without the messages that repeat a notice before them. -/
def distinct (records : List Record) : List Record := distinctFrom [] records

@[simp] theorem distinctFrom_append (earlier before rest : List Record) :
    distinctFrom earlier (before ++ rest) =
      distinctFrom earlier before ++ distinctFrom (earlier ++ before) rest := by
  induction before generalizing earlier with
  | nil => simp [distinctFrom]
  | cons record before ih =>
    simp only [List.cons_append, distinctFrom, ih, List.append_assoc, List.nil_append]
    split
    · rfl
    · rfl

end Transcript

namespace Renderer

variable {σ : Type}

/-! ## one record -/

/-- A message with its sender, around content that is rendered already. -/
def frame (view : AvatarView) (record : Record) (session : Session σ) (content : Text) : Text :=
  Html.chatItem {
    name := record.shownName
    content
    avatarUrl := (chooseAvatar view record session).1
    isOwn := record.isOwn
    isCard := record.element = .card }

/-- A message is its content in a frame. -/
theorem item_eq (renderer : Renderer σ) (view : AvatarView) (record : Record)
    (session : Session σ) :
    renderer.item view record session =
      ((renderer.content record (chooseAvatar view record session).2).1.map
          (frame view record session),
        (renderer.content record (chooseAvatar view record session).2).2) := by
  unfold item
  dsimp only
  generalize renderer.content record (chooseAvatar view record session).2 = outcome
  obtain ⟨fault | content, next⟩ := outcome
  · rfl
  · rfl

/-- A record is shown as a notice, or as a message that holds text, a card, or a note about what
went wrong with a card. -/
inductive Shows (renderer : Renderer σ) (view : AvatarView) (record : Record)
    (session : Session σ) : Text → Session σ → Prop where
  | notice (system : record.isSystem = true) :
      Shows renderer view record session (renderer.notice record) session
  | text (message : record.isSystem = false) (element : record.element = .text) :
      Shows renderer view record session
        (frame view record session (renderer.textContent record.messageContent))
        (chooseAvatar view record session).2
  | card {card : Card} {markup : Text} {after : Session σ} (message : record.isSystem = false)
      (element : record.element = .card)
      (accepted : Card.ofContent record.messageContent = .ok card)
      (filled : renderer.fillCard card (chooseAvatar view record session).2 = (.ok markup, after)) :
      Shows renderer view record session (frame view record session markup) after
  | failedCard {card : Card} {fault : Fault} {after : Session σ}
      (message : record.isSystem = false) (element : record.element = .card)
      (accepted : Card.ofContent record.messageContent = .ok card)
      (failed : renderer.fillCard card (chooseAvatar view record session).2 =
        (.error fault, after)) :
      Shows renderer view record session
        (frame view record session (Html.error "Card render failed".toList fault.description)) after
  | noCard {rejection : CardRejection} (message : record.isSystem = false)
      (element : record.element = .card)
      (rejected : Card.ofContent record.messageContent = .error (.card rejection)) :
      Shows renderer view record session
        (frame view record session
          (Html.error "Card parse failed".toList (Fault.card rejection).description))
        (chooseAvatar view record session).2

end Renderer

/-- The text of a card holds an integer of `count` digits, which is more than are read. -/
def Record.Oversized (count : Nat) (record : Record) : Prop :=
  record.isSystem = false ∧ record.element = .card ∧
    ∃ text, record.content = .str text ∧ Json.read text = .error (.tooManyDigits count)

theorem Card.ofContent_error {content : Json} {fault : Fault}
    (h : Card.ofContent content = .error fault) :
    (∃ rejection, fault = .card rejection) ∨ ∃ count text, fault = .tooManyDigits count ∧
      content = .str text ∧ Json.read text = .error (.tooManyDigits count) := by
  have ofJson {value : Json} (h : Card.ofJson value = .error fault) :
      ∃ rejection, fault = .card rejection := by
    unfold Card.ofJson at h
    split at h
    · split at h
      · cases h
      · exact ⟨_, (Except.error.inj h).symm⟩
    · exact ⟨_, (Except.error.inj h).symm⟩
  cases content with
  | str text =>
    simp only [Card.ofContent] at h
    split at h
    · exact .inl (ofJson h)
    · exact .inl ⟨_, (Except.error.inj h).symm⟩
    · rename_i count read
      exact .inr ⟨count, text, (Except.error.inj h).symm, rfl, read⟩
  | null | bool | int | float | arr | obj =>
    simp only [Card.ofContent] at h
    exact .inl (ofJson h)

/-- Null and the empty text stand for content that is read without a fault. -/
theorem Record.messageContent_eq_iff {record : Record} {text : Text} {count : Nat}
    (read : Json.read text = .error (.tooManyDigits count)) :
    record.messageContent = .str text ↔ record.content = .str text := by
  have notEmpty : text ≠ [] := by
    rintro rfl
    cases read
  have notDefault : text ≠ emptyContent := by
    rintro rfl
    cases read
  unfold messageContent
  split
  · rename_i h
    simp [h, Ne.symm notDefault]
  · rename_i h
    simp [h, Ne.symm notDefault, Ne.symm notEmpty]
  · rfl

namespace Renderer

variable {σ : Type} {renderer : Renderer σ} {view : AvatarView} {record : Record}
  {session after : Session σ} {fragment : Text} {count : Nat}

theorem item_of_oversized (large : record.Oversized count) :
    renderer.item view record session =
      (.error (.tooManyDigits count), (chooseAvatar view record session).2) := by
  obtain ⟨-, element, text, content, read⟩ := large
  have message := (Record.messageContent_eq_iff read).2 content
  simp [item, Renderer.content, element, cardContent, message, Card.ofContent, read]

/-- A message is shown unless its card is too large to be read. -/
theorem item_shows (renderer : Renderer σ) (view : AvatarView) (session : Session σ)
    (message : record.isSystem = false) :
    (∃ count, record.Oversized count) ∨
      ∃ fragment after, renderer.item view record session = (.ok fragment, after) ∧
        Shows renderer view record session fragment after := by
  cases element : record.element with
  | text =>
    refine .inr ⟨_, _, ?_, .text message element⟩
    simp [item, Renderer.content, element, frame]
  | card =>
    cases read : Card.ofContent record.messageContent with
    | ok card =>
      rcases filled : renderer.fillCard card (chooseAvatar view record session).2 with
        ⟨fault | markup, after⟩
      · refine .inr ⟨_, _, ?_, .failedCard message element read filled⟩
        simp [item, Renderer.content, element, cardContent, read, Renderer.card, filled, frame]
      · refine .inr ⟨_, _, ?_, .card message element read filled⟩
        simp [item, Renderer.content, element, cardContent, read, Renderer.card, filled, frame]
    | error fault =>
      obtain ⟨rejection, rfl⟩ | ⟨count, text, rfl, content, long⟩ := Card.ofContent_error read
      · refine .inr ⟨_, _, ?_, .noCard message element read⟩
        simp [item, Renderer.content, element, cardContent, read, frame]
      · exact .inl ⟨count, message, element, text,
          (Record.messageContent_eq_iff long).1 content, long⟩

/-- The steps of a render, one for each record: it is shown, or it is too large and ends the
render. -/
inductive Trace (renderer : Renderer σ) (view : AvatarView) :
    List Record → Session σ → Except Fault (List Text) → Session σ → Prop where
  | done (session : Session σ) : Trace renderer view [] session (.ok []) session
  | stop {record : Record} {count : Nat} (records : List Record) (session : Session σ)
      (large : record.Oversized count) :
      Trace renderer view (record :: records) session (.error (.tooManyDigits count))
        (chooseAvatar view record session).2
  | step {record : Record} {records : List Record} {session middle after : Session σ}
      {fragment : Text} {result : Except Fault (List Text)}
      (shows : Shows renderer view record session fragment middle)
      (rest : Trace renderer view records middle result after) :
      Trace renderer view (record :: records) session (result.map (fragment :: ·)) after

end Renderer

/-! ## contents seen so far -/

/-- The contents of the notices among the records so far. -/
def Tracks (seen : List ContentKey) (earlier : List Record) : Prop :=
  ∀ key, key ∈ seen ↔
    ∃ notice ∈ earlier, notice.isSystem = true ∧ notice.content.contentKey = key

namespace Tracks

variable {seen : List ContentKey} {earlier : List Record} {record : Record}

theorem nil : Tracks [] [] := by
  intro key
  simp

theorem notice (h : Tracks seen earlier) (system : record.isSystem = true) :
    Tracks (record.content.contentKey :: seen) (earlier ++ [record]) := by
  intro key
  simp only [List.mem_cons, h key, List.mem_append, List.not_mem_nil, or_false]
  constructor
  · rintro (rfl | ⟨other, member, found⟩)
    · exact ⟨record, .inr rfl, system, rfl⟩
    · exact ⟨other, .inl member, found⟩
  · rintro ⟨other, member | rfl, found⟩
    · exact .inr ⟨other, member, found⟩
    · exact .inl found.2.symm

theorem message (h : Tracks seen earlier) (message : record.isSystem = false) :
    Tracks seen (earlier ++ [record]) := by
  intro key
  simp only [h key, List.mem_append, List.mem_singleton]
  constructor
  · rintro ⟨other, member, found⟩
    exact ⟨other, .inl member, found⟩
  · rintro ⟨other, member | rfl, found⟩
    · exact ⟨other, member, found⟩
    · simp [message] at found

theorem repeats_iff (h : Tracks seen earlier) (message : record.isSystem = false) :
    record.Repeats earlier ↔ seen.contains record.content.contentKey = true := by
  simp [Record.Repeats, message, h record.content.contentKey]

end Tracks

namespace Renderer

/-! ## runs -/

variable {σ : Type} {renderer : Renderer σ} {view : AvatarView} {session middle : Session σ}
  {seen : List ContentKey} {earlier records : List Record} {record : Record} {fragment : Text}

/-- Both outcomes of the rest of a render, after one more fragment. -/
def prepend (fragment : Text) (rest : Except Fault (List Text) × Session σ) :
    Except Fault (List Text) × Session σ :=
  (rest.1.map (fragment :: ·), rest.2)

theorem fragmentsFrom_notice (system : record.isSystem = true) :
    renderer.fragmentsFrom view seen (record :: records) session =
      prepend (renderer.notice record)
        (renderer.fragmentsFrom view (record.content.contentKey :: seen) records session) := by
  rw [fragmentsFrom, if_pos system]
  rcases renderer.fragmentsFrom view (record.content.contentKey :: seen) records session with
    ⟨fault | fragments, after⟩ <;> rfl

theorem fragmentsFrom_repeated (message : record.isSystem = false)
    (known : seen.contains record.content.contentKey = true) :
    renderer.fragmentsFrom view seen (record :: records) session =
      renderer.fragmentsFrom view seen records session := by
  rw [fragmentsFrom, message, if_neg Bool.false_ne_true, if_pos known]

theorem fragmentsFrom_shown (message : record.isSystem = false)
    (new : ¬ seen.contains record.content.contentKey = true)
    (item : renderer.item view record session = (.ok fragment, middle)) :
    renderer.fragmentsFrom view seen (record :: records) session =
      prepend fragment (renderer.fragmentsFrom view seen records middle) := by
  rw [fragmentsFrom, message, if_neg Bool.false_ne_true, if_neg new, item]
  dsimp only
  rcases renderer.fragmentsFrom view seen records middle with ⟨fault | fragments, after⟩ <;> rfl

theorem fragmentsFrom_stopped {fault : Fault} (message : record.isSystem = false)
    (new : ¬ seen.contains record.content.contentKey = true)
    (item : renderer.item view record session = (.error fault, middle)) :
    renderer.fragmentsFrom view seen (record :: records) session = (.error fault, middle) := by
  rw [fragmentsFrom, message, if_neg Bool.false_ne_true, if_neg new, item]

/-- Leaving out the repeated notices first changes nothing. -/
theorem fragmentsFrom_distinctFrom (h : Tracks seen earlier) :
    renderer.fragmentsFrom view seen (Transcript.distinctFrom earlier records) session =
      renderer.fragmentsFrom view seen records session := by
  induction records generalizing seen earlier session with
  | nil => rfl
  | cons record rest ih =>
    unfold Transcript.distinctFrom
    cases system : record.isSystem with
    | true =>
      have kept : ¬ record.Repeats earlier := by simp [Record.Repeats, system]
      rw [if_neg kept, fragmentsFrom_notice system, fragmentsFrom_notice system,
        ih (h.notice system)]
    | false =>
      have tracks := h.message system
      split
      · rename_i repeated
        rw [fragmentsFrom_repeated system ((h.repeats_iff system).1 repeated), ih tracks]
      · rename_i kept
        have new := mt (h.repeats_iff system).2 kept
        rcases item : renderer.item view record session with ⟨fault | fragment, middle⟩
        · rw [fragmentsFrom_stopped system new item, fragmentsFrom_stopped system new item]
        · rw [fragmentsFrom_shown system new item, fragmentsFrom_shown system new item, ih tracks]

/-- A render is a trace of the records that repeat no notice. -/
theorem fragmentsFrom_trace (records : List Record) (h : Tracks seen earlier) :
    Trace renderer view (Transcript.distinctFrom earlier records) session
      (renderer.fragmentsFrom view seen records session).1
      (renderer.fragmentsFrom view seen records session).2 := by
  -- only notices enter `seen`, but every record enters `earlier`; `Tracks` relates the two
  induction records generalizing seen earlier session with
  | nil => exact .done session
  | cons record rest ih =>
    unfold Transcript.distinctFrom
    cases system : record.isSystem with
    | true =>
      have kept : ¬ record.Repeats earlier := by simp [Record.Repeats, system]
      rw [if_neg kept, fragmentsFrom_notice system]
      exact .step (.notice system) (ih (h.notice system))
    | false =>
      have tracks := h.message system
      split
      · rename_i repeated
        rw [fragmentsFrom_repeated system ((h.repeats_iff system).1 repeated)]
        exact ih tracks
      · rename_i kept
        have new := mt (h.repeats_iff system).2 kept
        obtain ⟨count, large⟩ | ⟨fragment, middle, item, shows⟩ :=
          item_shows renderer view session system
        · rw [fragmentsFrom_stopped system new (item_of_oversized large)]
          exact .stop _ _ large
        · rw [fragmentsFrom_shown system new item]
          exact .step shows (ih tracks)

end Renderer

end ChatTranscript

import ChatTranscript.Proofs.Click.History
import ChatTranscript.Proofs.Click.JumpUrl
import ChatTranscript.Proofs.Click.Parameters

/-!
# Which clicks are answered

The parameters of a click stand in the page as a text, and a page can hold any text. Whatever is not
the text of an object gives no parameters, with one exception: a text with an integer of too many
digits is met as a fault. Parameters that were read never lead to a fault. A registry that only
cards were put into answers every click, under whatever id.

## Main definitions

* `Click.objectOf?`: the object whose text stands in an attribute.
* `Click.Registry.HoldsCards`: every handler has a card to act on.

## Main statements

* `Click.Registry.holdsCards_run`: a run that brings in cards only leaves such a registry.
* `Click.Registry.clicks_answered`: which attributes are read, and how clicks with them are
  answered.
* `Click.Registry.clicks_not_total`: there are attributes that are not read.
-/

namespace ChatTranscript

namespace Click

/-! ## parameters -/

/-- The object whose text stands in an attribute, if one does. -/
def objectOf? (raw : Option Text) : Option Fields :=
  raw.bind fun text =>
    match Json.read text with
    | .ok (.obj fields) => some fields
    | _ => none

/-- The attribute holds a text that is refused for an integer. -/
def TooLong (raw : Option Text) (count : Nat) : Prop :=
  ∃ text, raw = some text ∧ Json.read text = .error (.tooManyDigits count)

variable {raw : Option Text} {text : Text} {params card : Fields} {fault : Fault}

theorem not_tooLong (read : ∀ count, Json.read text ≠ .error (.tooManyDigits count)) (count : Nat) :
    ¬ TooLong (some text) count := by
  rintro ⟨_, ⟨⟩, stops⟩
  exact read count stops

/-- The parameters are the object that the attribute holds, or none; or the attribute is refused. -/
theorem readParams_cases (raw : Option Text) :
    (readParams raw = .ok ((objectOf? raw).getD []) ∧ ∀ count, ¬ TooLong raw count) ∨
      ∃ count, readParams raw = .error (.tooManyDigits count) ∧ TooLong raw count := by
  match raw with
  | none => exact .inl ⟨rfl, by simp [TooLong]⟩
  | some [] => exact .inl ⟨rfl, not_tooLong nofun⟩
  | some (c :: text) =>
    cases read : Json.read (c :: text) with
    | ok value =>
      refine .inl ⟨?_, not_tooLong (by simp [read])⟩
      cases value <;> simp [readParams, objectOf?, read]
    | error stop =>
      cases stop with
      | malformed place =>
        exact .inl ⟨by simp [readParams, objectOf?, read], not_tooLong (by simp [read])⟩
      | tooManyDigits count => exact .inr ⟨count, by simp [readParams, read], _, rfl, read⟩

theorem readParams_eq_ok_iff : readParams raw = .ok params ↔
    (∀ count, ¬ TooLong raw count) ∧ params = (objectOf? raw).getD [] := by
  obtain ⟨reads, short⟩ | ⟨count, stops, long⟩ := readParams_cases raw
  · rw [reads, Except.ok.injEq, eq_comm]
    exact (and_iff_right short).symm
  · rw [stops]
    exact iff_of_false nofun fun ⟨short, _⟩ => short count long

/-- An attribute that is refused holds so many digits in a row. -/
theorem of_readParams_eq_error (stops : readParams raw = .error fault) :
    ∃ text count, raw = some text ∧ fault = .tooManyDigits count ∧ Json.maxDigits < count ∧
      text.HasRun Json.isAsciiDigit count := by
  obtain ⟨reads, -⟩ | ⟨count, refused, text, rfl, long⟩ := readParams_cases raw
  · cases stops.symm.trans reads
  · cases stops.symm.trans refused
    exact ⟨text, count, rfl, rfl, Json.hasRun_of_read long⟩

/-- Parameters that were read have a text again. -/
theorem of_readParams_eq_ok (reads : readParams raw = .ok params) :
    (Json.obj params).distinctKeys = true ∧ (Json.obj params).withinDigits = true := by
  obtain ⟨-, rfl⟩ := readParams_eq_ok_iff.1 reads
  cases holds : objectOf? raw with
  | none => exact ⟨rfl, rfl⟩
  | some object =>
    obtain ⟨text, rfl, found⟩ := Option.bind_eq_some_iff.1 holds
    split at found
    · cases found
      exact ⟨Json.distinctKeys_read ‹_›, Json.withinDigits_read ‹_›⟩
    · cases found

/-! ## cards -/

/-- Every handler has a card to act on. -/
def Registry.HoldsCards (registry : Registry) : Prop :=
  ∀ id handler, registry.get? id = some handler → ∃ card, handler.payload = .obj card

/-- What an operation registers by name acts on a card. -/
def Operation.BringsCard : Operation → Prop
  | .register _ payload _ => ∃ card, payload = .obj card
  | .newId | .render _ _ | .dispatch _ _ | .clear => True

variable {source : IdSource} {registry : Registry} {operation : Operation}
  {operations : List Operation} {request : Request} {id : HandlerId} {handler : Handler}

theorem Request.payload_of_ofName? {name : Text} {payload : Json} {id : Option HandlerId}
    (asks : ofName? name payload id = some request) :
    request.handler.payload = payload := by
  obtain ⟨action, -, rfl⟩ := Option.map_eq_some_iff.1 asks
  rfl

/-- A context that asks for a handler is a card. -/
theorem Request.payload_of_ofContext? {context : Json}
    (asks : ofContext? context = some request) : ∃ card, request.handler.payload = .obj card := by
  cases context with
  | obj card =>
    unfold ofContext? at asks
    split at asks
    · obtain ⟨name, -, asks⟩ := Option.bind_eq_some_iff.1 asks
      obtain ⟨id, -, asks⟩ := Option.bind_eq_some_iff.1 asks
      exact ⟨card, payload_of_ofName? asks⟩
    · cases asks
  | null | bool | int | float | str | arr => cases asks

theorem Operation.card_of_request? (brings : operation.BringsCard)
    (asks : operation.request? = some request) : ∃ card, request.handler.payload = .obj card := by
  cases operation with
  | register name payload id =>
    obtain ⟨card, rfl⟩ := brings
    exact ⟨card, Request.payload_of_ofName? asks⟩
  | render template context => exact Request.payload_of_ofContext? asks
  | newId | dispatch | clear => cases asks

theorem Operation.request?_of_event?
    (event : operation.event? source registry = some (.bound id handler)) :
    ∃ request, operation.request? = some request ∧ request.handler = handler := by
  cases operation with
  | newId | dispatch | clear => cases event
  | register | render =>
    obtain ⟨request, asks, same⟩ := Option.map_eq_some_iff.1 event
    exact ⟨request, asks, (Event.bound.inj same).2⟩

namespace Registry

/-- A registry of cards stays one. -/
theorem HoldsCards.perform (holds : registry.HoldsCards) (brings : operation.BringsCard) :
    (registry.perform source operation).HoldsCards := by
  intro id handler found
  rw [get?_perform] at found
  split at found
  · exact holds id handler found
  · rename_i other bound event
    obtain ⟨request, asks, rfl⟩ := Operation.request?_of_event? event
    split at found
    · cases found
      exact Operation.card_of_request? brings asks
    · exact holds id handler found
  · cases found

theorem holdsCards_run (source : IdSource)
    (brings : ∀ operation ∈ operations, operation.BringsCard) :
    (run source operations).HoldsCards := by
  induction operations using List.reverseRecOn with
  | nil => exact nofun
  | append_singleton before operation ih =>
    rw [List.forall_mem_append, List.forall_mem_singleton] at brings
    rw [run_append_singleton]
    exact (ih brings.1).perform brings.2

/-! ## clicks -/

/-- The action of a handler is carried out on its card. -/
theorem dispatch_obj {action : Action} (found : registry.get? id = some ⟨action, .obj card⟩)
    (params : Fields) :
    registry.dispatch id (.obj params) = .ok ((target? card params).bind action.leadTo) := by
  have own : (if (Json.obj params).isTruthy then Json.obj params else .obj []) = .obj params := by
    cases params <;> rfl
  rw [dispatch, found]
  dsimp only
  rw [own]
  exact run_eq_leadTo (clickUrl?_obj card params)

/-- Every click is answered in a registry of cards: not at all under an id that nothing is bound to,
else by the action there, on the URL of the click if it has one. -/
theorem HoldsCards.dispatch_cases (holds : registry.HoldsCards) (id : HandlerId)
    (params : Fields) :
    registry.get? id = none ∧ registry.dispatch id (.obj params) = .ok none ∨
      ∃ action card, registry.get? id = some ⟨action, .obj card⟩ ∧
        registry.dispatch id (.obj params) = .ok ((target? card params).bind action.leadTo) := by
  cases found : registry.get? id with
  | none => exact .inl ⟨rfl, by rw [dispatch, found]⟩
  | some handler =>
    obtain ⟨action, payload⟩ := handler
    obtain ⟨card, rfl⟩ := holds id _ found
    exact .inr ⟨action, card, rfl, dispatch_obj found params⟩

/-- The attribute of a click gives its object, or no parameters if it holds none, exactly if no
integer in it has too many digits; else that is the fault. With parameters that were read every
click is answered, after any run that brings in cards only: there is an answer without a fault, and
it is an effect where the action of the handler has a URL to lead to. -/
theorem clicks_answered (source : IdSource)
    (brings : ∀ operation ∈ operations, operation.BringsCard) (raw : Option Text) :
    (∀ params, readParams raw = .ok params ↔
      (∀ count, ¬ TooLong raw count) ∧ params = (objectOf? raw).getD []) ∧
    (∀ fault, readParams raw = .error fault →
      ∃ text count, raw = some text ∧ fault = .tooManyDigits count ∧ Json.maxDigits < count ∧
        text.HasRun Json.isAsciiDigit count) ∧
    ∀ params, readParams raw = .ok params →
      ((Json.obj params).distinctKeys = true ∧ (Json.obj params).withinDigits = true) ∧
      ∀ id,
        (run source operations).get? id = none ∧
          (run source operations).dispatch id (.obj params) = .ok none ∨
        ∃ action card, (run source operations).get? id = some ⟨action, .obj card⟩ ∧
          (run source operations).dispatch id (.obj params) =
            .ok ((target? card params).bind action.leadTo) := by
  refine ⟨fun params => readParams_eq_ok_iff, fun fault => of_readParams_eq_error,
    fun params reads => ⟨of_readParams_eq_ok reads, fun id => ?_⟩⟩
  exact (holdsCards_run source brings).dispatch_cases id params

/-- Two cards, of which the second one is there after a clearing. -/
def clearedRun : List Operation := [
  .register "noop".toList (.obj []) (some (.text "g".toList)), .newId, .clear,
  .register "open_chat_window".toList
    (.obj [("meta".toList, .obj [("jumpUrl".toList, .str "w".toList)])]) (some (.text "h".toList))]

/-- The text of any value is a URL, and goes before the one of the card. -/
theorem clicks_answered_list :
    (∀ operation ∈ clearedRun, operation.BringsCard) ∧
      readParams (some "\x7b\"url\": [5, null]\x7d".toList) =
        .ok [("url".toList, .arr [.int 5, .null])] ∧
      (run (.counting 0 0) clearedRun).dispatch (.text "g".toList)
        (.obj [("url".toList, .arr [.int 5, .null])]) = .ok none ∧
      (run (.counting 0 0) clearedRun).dispatch (.text "h".toList)
        (.obj [("url".toList, .arr [.int 5, .null])]) =
          .ok (some ⟨"open_window".toList, "[5, None]".toList, windowFeatures⟩) := by
  have brings : ∀ operation ∈ clearedRun, operation.BringsCard := by
    simp [clearedRun, Operation.BringsCard]
  have written : "\x7b\"url\": [5, null]\x7d".toList =
      Json.write Json.spaced (.obj [("url".toList, .arr [.int 5, .null])]) := by decide
  have reads : readParams (some "\x7b\"url\": [5, null]\x7d".toList) =
      .ok [("url".toList, .arr [.int 5, .null])] := by
    rw [written]
    exact readParams_write (by decide) (by decide)
  have answers := ((clicks_answered (.counting 0 0) brings _).2.2 _ reads).2
  refine ⟨brings, reads, ?_, ?_⟩
  · obtain ⟨-, answer⟩ | ⟨action, card, found, -⟩ := answers (.text "g".toList)
    · exact answer
    · cases found
  · obtain ⟨free, -⟩ | ⟨action, card, found, answer⟩ := answers (.text "h".toList)
    · cases free
    · cases found
      exact answer

/-- An attribute of ones is not read, though nothing is registered yet. -/
theorem clicks_not_total :
    ¬ ∀ (source : IdSource) (operations : List Operation) (raw : Option Text) (id : HandlerId),
      (∀ operation ∈ operations, operation.BringsCard) →
        ∃ params answer, readParams raw = .ok params ∧
          (run source operations).dispatch id (.obj params) = .ok answer := by
  intro total
  obtain ⟨params, -, reads, -⟩ :=
    total (.counting 0 0) [] (some (List.replicate 4301 '1')) (.text []) nofun
  exact (readParams_eq_ok_iff.1 reads).1 4301 ⟨_, rfl, Json.read_ones (by decide)⟩

end Registry

end Click

end ChatTranscript

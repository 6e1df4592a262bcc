import ChatTranscript.Proofs.Click.Registration
import Mathlib.Data.List.Induction

/-!
# Histories of a registry

Handlers are registered by name or by rendering cards, ids are drawn, clicks are answered, and now
and then everything is cleared. Whatever the order, a click is answered by the handler that was last
bound to its id since the registry was last cleared, and a handler without an id of its own becomes
a new entry that touches no other.

## Main definitions

* `Click.Operation`, `Click.Registry.run`: what is done with a registry, from a new one on.
* `Click.Event`, `Click.events`: the bindings and clearings of a run, in order.
* `Click.latest?`: the handler that the events leave under an id.
* `Click.Registry.Performs`: what an operation does to a registry.

## Main statements

* `Click.Registry.run_answers`: what operations do, and how clicks are answered after any run.
-/

namespace ChatTranscript

namespace Click

/-! ## operations -/

inductive Operation where
  | register (name : Text) (payload : Json) (id : Option HandlerId)
  | newId
  | render (template : Text) (context : Json)
  | dispatch (id : HandlerId) (params : Json)
  | clear

/-- The registration that an operation asks for. -/
def Operation.request? : Operation → Option Request
  | .register name payload id => Request.ofName? name payload id
  | .render _ context => Request.ofContext? context
  | .newId | .dispatch _ _ | .clear => none

namespace Registry

/-- The registry after an operation. A click changes nothing. -/
def perform (source : IdSource) (registry : Registry) : Operation → Registry
  | .register name payload id => (registry.register source name payload id).2
  | .newId => (registry.newId source).2
  | .render template context => (Template.render source template context registry).2
  | .dispatch _ _ => registry
  | .clear => registry.clear

/-- A new registry after some operations. -/
def run (source : IdSource) (operations : List Operation) : Registry :=
  operations.foldl (perform source) .empty

end Registry

/-! ## events -/

inductive Event where
  | bound (id : HandlerId) (handler : Handler)
  | cleared

namespace Event

def isClearing : Event → Bool
  | .bound _ _ => false
  | .cleared => true

def id? : Event → Option HandlerId
  | .bound id _ => some id
  | .cleared => none

/-- The handler that the event binds to an id. -/
def handler? (id : HandlerId) : Event → Option Handler
  | .bound other handler => if id.key = other.key then some handler else none
  | .cleared => none

end Event

/-- The event of an operation, if it binds or clears anything. -/
def Operation.event? (source : IdSource) (registry : Registry) : Operation → Option Event
  | .clear => some .cleared
  | operation => operation.request?.map fun request =>
    .bound (registry.grant source request).1 request.handler

def eventsFrom (source : IdSource) : Registry → List Operation → List Event
  | _, [] => []
  | registry, operation :: rest =>
    (operation.event? source registry).toList ++
      eventsFrom source (registry.perform source operation) rest

/-- The events of a run. -/
def events (source : IdSource) (operations : List Operation) : List Event :=
  eventsFrom source .empty operations

/-- The newest handler bound to an id, back to the last clearing. -/
def latest? (id : HandlerId) (events : List Event) : Option Handler :=
  (events.reverse.takeWhile fun event => !event.isClearing).findSome? (Event.handler? id)

@[simp] theorem latest?_cleared (id : HandlerId) (events : List Event) :
    latest? id (events ++ [.cleared]) = none := by
  simp [latest?, Event.isClearing]

theorem latest?_bound (id other : HandlerId) (handler : Handler) (events : List Event) :
    latest? id (events ++ [.bound other handler]) =
      if id.key = other.key then some handler else latest? id events := by
  rw [latest?, List.reverse_concat, List.takeWhile_cons_of_pos rfl, List.findSome?_cons]
  by_cases same : id.key = other.key
  · simp [Event.handler?, same]
  · simp [Event.handler?, same, latest?]

theorem eventsFrom_append (source : IdSource) (registry : Registry)
    (before later : List Operation) :
    eventsFrom source registry (before ++ later) = eventsFrom source registry before ++
      eventsFrom source (before.foldl (Registry.perform source) registry) later := by
  induction before generalizing registry with
  | nil => rfl
  | cons operation before ih =>
    rw [List.cons_append, eventsFrom, ih, eventsFrom, List.append_assoc, List.foldl_cons]

namespace Registry

variable {source : IdSource} {registry : Registry} {operation : Operation} {id : HandlerId}

/-! ## one operation -/

theorem perform_request {request : Request} (asks : operation.request? = some request) :
    registry.perform source operation = (registry.grant source request).2 := by
  cases operation with
  | register name payload id =>
    rw [Operation.request?] at asks
    rw [perform, register_eq, asks]
  | render template context =>
    rw [Operation.request?] at asks
    obtain ⟨other, given, granted⟩ | ⟨idle, -⟩ :=
      Template.registerHandler_cases source context
    · cases asks.symm.trans given
      rw [perform, Template.render_snd, granted]
    · cases asks.symm.trans idle
  | newId | dispatch | clear => cases asks

/-- An operation that asks for nothing changes nothing, unless it draws an id or clears. -/
theorem perform_idle (idle : operation.request? = none) (keeps : operation ≠ .newId)
    (stays : operation ≠ .clear) : registry.perform source operation = registry := by
  cases operation with
  | register name payload id =>
    rw [Operation.request?] at idle
    rw [perform, register_eq, idle]
  | render template context =>
    rw [Operation.request?] at idle
    obtain ⟨request, given, -⟩ | ⟨-, outcome, -, same⟩ :=
      Template.registerHandler_cases source context
    · cases idle.symm.trans given
    · rw [perform, Template.render_snd, same]
  | newId => exact absurd rfl keeps
  | dispatch => rfl
  | clear => exact absurd rfl stays

theorem drawn_le_perform : registry.drawn ≤ (registry.perform source operation).drawn := by
  cases asks : operation.request? with
  | some request =>
    rw [perform_request asks]
    exact drawn_le_grant
  | none =>
    cases operation with
    | newId => exact drawn_le_newId.le
    | clear => exact le_rfl
    | register | render | dispatch => rw [perform_idle asks (by simp) (by simp)]

/-- A lookup after an operation sees its event first. -/
theorem get?_perform : (registry.perform source operation).get? id =
    match operation.event? source registry with
    | none => registry.get? id
    | some (.bound other handler) => if id.key = other.key then some handler else registry.get? id
    | some .cleared => none := by
  cases asks : operation.request? with
  | some request =>
    have event : operation.event? source registry =
        some (.bound (registry.grant source request).1 request.handler) := by
      cases operation with
      | register | render | newId | dispatch => simp only [Operation.event?, asks, Option.map_some]
      | clear => cases asks
    rw [perform_request asks, event]
    exact get?_grant
  | none =>
    cases operation with
    | newId =>
      rw [perform, get?, newId_entries]
      rfl
    | clear => rfl
    | register | render | dispatch =>
      rw [perform_idle asks (by simp) (by simp)]
      simp only [Operation.event?, asks, Option.map_none]

/-- What an operation does: a new id is the first one drawn that is not bound; a handler without a
given id becomes a new last entry under such an id; one with an id is bound to it; and whoever
registers by name learns the id. -/
structure Performs (source : IdSource) (operation : Operation) (before after : Registry) :
    Prop where
  idle : operation.request? = none → operation ≠ .newId → operation ≠ .clear → after = before
  newId : operation = .newId → ∃ k, Draws source before k ∧
    before.newId source = (source.id (before.drawn + k), after) ∧
    after = { before with drawn := before.drawn + k + 1 }
  generated : ∀ handler, operation.request? = some ⟨none, handler⟩ → ∃ k, Draws source before k ∧
    after = ⟨before.entries ++ [(.text (source.id (before.drawn + k)), handler)],
      before.drawn + k + 1⟩
  given : ∀ id handler, operation.request? = some ⟨some id, handler⟩ →
    after = { before with entries := put id handler before.entries }
  answer : ∀ name payload id, operation = .register name payload id →
    (before.register source name payload id).1 = (operation.event? source before).bind Event.id?

theorem performs (distinct : source.DistinctBelow (registry.perform source operation).drawn) :
    Performs source operation registry (registry.perform source operation) where
  idle := perform_idle
  newId := by
    rintro rfl
    obtain ⟨k, draws, new⟩ := newId_draws distinct
    exact ⟨k, draws, by rw [perform, new], by rw [perform, new]⟩
  generated := by
    intro handler asks
    rw [perform_request asks] at distinct ⊢
    obtain ⟨k, draws, new⟩ := newId_draws distinct
    exact ⟨k, draws, by rw [grant_drawn draws new]⟩
  given := by
    intro id handler asks
    rw [perform_request asks, grant_given]
  answer := by
    rintro name payload id rfl
    rw [register_eq, Operation.event?, Operation.request?]
    · cases Request.ofName? name payload id <;> rfl
    · nofun

/-! ## runs -/

@[simp] theorem run_append_singleton (source : IdSource) (before : List Operation)
    (operation : Operation) :
    run source (before ++ [operation]) = (run source before).perform source operation := by
  rw [run, run, List.foldl_concat]

theorem drawn_le_foldl (registry : Registry) (operations : List Operation) :
    registry.drawn ≤ (operations.foldl (perform source) registry).drawn := by
  induction operations generalizing registry with
  | nil => exact le_rfl
  | cons operation operations ih => exact drawn_le_perform.trans (ih _)

/-- After any run a lookup finds what the events leave. -/
theorem get?_run (source : IdSource) (operations : List Operation) (id : HandlerId) :
    (run source operations).get? id = latest? id (events source operations) := by
  induction operations using List.reverseRecOn with
  | nil => rfl
  | append_singleton before operation ih =>
    have last : events source (before ++ [operation]) =
        events source before ++ (operation.event? source (run source before)).toList := by
      rw [events, eventsFrom_append, eventsFrom, eventsFrom, List.append_nil]
      rfl
    rw [run_append_singleton, get?_perform, last, ih]
    match operation.event? source (run source before) with
    | none => rw [Option.toList_none, List.append_nil]
    | some (.bound other handler) => exact (latest?_bound id other handler _).symm
    | some .cleared => exact (latest?_cleared id _).symm

/-- As long as no suffix comes twice, every operation of a run does what it should, and a click is
answered by the handler last bound to its id since the last clearing, with the payload of that
binding; without such a handler there is no answer. -/
theorem run_answers (source : IdSource) (operations : List Operation)
    (distinct : source.DistinctBelow (run source operations).drawn) :
    (∀ before operation later, operations = before ++ operation :: later →
      Performs source operation (run source before) (run source (before ++ [operation]))) ∧
    ∀ id params, (run source operations).dispatch id params =
      match latest? id (events source operations) with
      | none => .ok none
      | some handler =>
        handler.action.run handler.payload (if params.isTruthy then params else .obj []) := by
  refine ⟨?_, fun id params => ?_⟩
  · rintro before operation later rfl
    rw [run_append_singleton]
    refine performs (distinct.mono ?_)
    have split : run source (before ++ operation :: later) =
        later.foldl (perform source) ((run source before).perform source operation) := by
      rw [run, run, List.foldl_append, List.foldl_cons]
    rw [split]
    exact drawn_le_foldl _ later
  · have found := get?_run source operations id
    cases last : latest? id (events source operations) with
    | none => rw [dispatch, found, last]
    | some handler => rw [dispatch, found, last]

/-- The first id that would be drawn is taken by a registration that brings it along. -/
def sampleRun : List Operation := [
  .register "noop".toList (.obj []) (some (.text "handler_0_aaaaa".toList)),
  .register " open_url ".toList
    (.obj [("meta".toList, .obj [("jumpUrl".toList, .str "u".toList)])]) none,
  .render [] (.obj [("overwrite".toList, .obj [("clickHandler".toList, .str "noop".toList)])]),
  .dispatch (.text "handler_0_aaaaa".toList) .null]

/-- The second registration is found under the second id that was drawn for it. -/
theorem run_answers_sample :
    (IdSource.counting 0 0).DistinctBelow (run (.counting 0 0) sampleRun).drawn ∧
      (run (.counting 0 0) sampleRun).dispatch (.text "handler_0_aaaab".toList) .null =
        .ok (some ⟨"open_url".toList, "u".toList, []⟩) := by
  have distinct : (IdSource.counting 0 0).DistinctBelow (run (.counting 0 0) sampleRun).drawn := by
    have drawn : (run (.counting 0 0) sampleRun).drawn = 3 := by decide
    rw [drawn, IdSource.DistinctBelow]
    decide
  exact ⟨distinct, ((run_answers _ _ distinct).2 _ _).trans rfl⟩

end Registry

end Click

end ChatTranscript

import ChatTranscript.Proofs.Session.Growth
import ChatTranscript.Proofs.Template.StyleHistory
import Mathlib.Data.List.Nodup

/-!
# Schedules of concurrent requests

Over resources that do not change it does not matter in which order the requests on a store go on
and their fetches end: they get the same answers, leave the same templates and fetch each path as
often. Only the order of the style tags is that of the schedule. The fetches are counted by what is
left to do: a step that begins to fetch a path takes one from the fetches of that path that are
still to come, and no other step changes their number.

## Main definitions

* `Template.Gathering.Follows`: the fetches of a run bring what the resources hold.
* `Template.Gathering.IsComplete`: all requests are done.
* `Template.Gathering.fetches`: the paths that a run fetches.
* `Template.Gathering.remaining`: how many fetches of a path are still to come.

## Main statements

* `Template.Gathering.Sound.remaining_step`: what a step does to the fetches to come.
* `Template.Gathering.schedules_agree`: two schedules that run the requests to completion.
-/

namespace ChatTranscript

namespace Template

/-- The request has not begun to fetch. -/
def Phase.isPending : Phase → Bool
  | .ready | .queued | .called => true
  | .fetching | .done _ => false

def Phase.isDone : Phase → Bool
  | .done _ => true
  | _ => false

namespace Gathering

variable {resources : Text → FetchOutcome} {g : Gathering} {i j : Nat} {path other template : Text}
  {a b : Phase} {event : Event} {events : List Event} {p : Phase → Bool}

/-! ## runs over fixed resources -/

/-- A fetch that ends brings what the resources hold. -/
def Brings (resources : Text → FetchOutcome) (g : Gathering) (event : Event) : Prop :=
  ∀ i outcome path, event = .answer i outcome → g.At i path .fetching → outcome = resources path

/-- Every fetch of the run brings what the resources hold. -/
def Follows (resources : Text → FetchOutcome) : Gathering → List Event → Prop
  | _, [] => True
  | g, event :: events => g.Brings resources event ∧ Follows resources (g.step event) events

/-- All requests are done. -/
def IsComplete (g : Gathering) : Prop :=
  ∀ request ∈ g.requests, request.phase.isDone = true

instance (g : Gathering) : Decidable g.IsComplete :=
  inferInstanceAs (Decidable (∀ request ∈ g.requests, request.phase.isDone = true))

theorem IsComplete.answered (complete : g.IsComplete) (found : g.At i path a) :
    ∃ answer, a = .done answer := by
  have done := complete _ (List.mem_of_getElem? found)
  cases a with
  | done answer => exact ⟨answer, rfl⟩
  | ready | queued | called | fetching => cases done

theorem brings_resume : g.Brings resources (.resume i) := by
  rintro _ _ _ ⟨⟩

theorem brings_answer (at_i : g.At i path .fetching) :
    g.Brings resources (.answer i (resources path)) := by
  rintro _ _ other ⟨⟩ found
  cases at_i.symm.trans found
  rfl

theorem Brings.extends (brings : g.Brings resources event) :
    g.store.Extends resources (g.step event).store := by
  obtain same | ⟨i, path, outcome, rfl, at_i, settled⟩ := step_store g event
  · rw [same]
    exact .refl resources _
  · rw [settled, brings i outcome path rfl at_i]
    exact Store.settle_extends resources path g.store

theorem Follows.extends (follows : g.Follows resources events) :
    g.store.Extends resources (g.after events).store := by
  induction events generalizing g with
  | nil => exact .refl resources _
  | cons event events ih => exact follows.1.extends.trans (ih follows.2)

/-! ## requests stay in their places -/

@[simp] theorem length_setPhase : (g.setPhase i a).requests.length = g.requests.length := by
  simp [setPhase]

@[simp] theorem length_call : (g.call path).requests.length = g.requests.length := by
  unfold call
  split
  · exact length_setPhase
  · rfl

@[simp] theorem length_step (g : Gathering) (event : Event) :
    (g.step event).requests.length = g.requests.length := by
  cases event with
  | resume i =>
    rw [Gathering.step, resume]
    split
    · rfl
    · split
      · split
        · exact length_setPhase
        · split <;> exact length_setPhase
      · dsimp only
        split
        · exact length_call.trans length_setPhase
        · exact length_setPhase
      · rfl
  | answer i outcome =>
    rw [Gathering.step, answer]
    split
    · exact length_call.trans length_setPhase
    · rfl

/-- A request has come to its phase by the step. -/
theorem Sound.came (h : Sound g) (found : (g.step event).At j path b) :
    ∃ a, g.At j path a ∧ Moves g.store path j event a b := by
  cases before : g.requests[j]? with
  | none =>
    rw [List.getElem?_eq_none_iff, ← length_step g event, ← List.getElem?_eq_none_iff] at before
    cases before.symm.trans found
  | some request =>
    obtain ⟨b', found', move⟩ := (h.step event).moves before
    cases found'.symm.trans found
    exact ⟨request.phase, before, move⟩

theorem Sound.after_at (h : Sound g) (at_i : g.At i path a) (events : List Event) :
    ∃ b, (g.after events).At i path b := by
  induction events generalizing g a with
  | nil => exact ⟨a, at_i⟩
  | cons event events ih =>
    obtain ⟨b, found, -⟩ := (h.step event).moves at_i
    exact ih (h.step event).sound found

@[simp] theorem length_after (g : Gathering) (events : List Event) :
    (g.after events).requests.length = g.requests.length := by
  induction events generalizing g with
  | nil => rfl
  | cons event events ih => rw [after_cons, ih, length_step]

/-! ## answers -/

/-- Requests that are done were answered as the resources have it, and have left the text behind
if there is one. -/
def Settled (resources : Text → FetchOutcome) (g : Gathering) : Prop :=
  ∀ i path answer, g.At i path (.done answer) → answer = g.store.answer resources path ∧
    (g.store.get? path = none → ∀ template, resources path ≠ .text template)

theorem settled_ofPaths (store : Store) (paths : List Text) :
    (ofPaths store paths).Settled resources := by
  intro i path answer found
  simp only [At, ofPaths, List.getElem?_map, Option.map_eq_some_iff] at found
  obtain ⟨_, -, same⟩ := found
  cases same

theorem Sound.settled_step (h : Sound g) (brings : g.Brings resources event)
    (settled : g.Settled resources) : (g.step event).Settled resources := by
  intro j path answer found
  have grows := brings.extends
  rw [grows.answer_eq]
  -- what is kept before the step is kept after it
  have absent (missing : (g.step event).store.get? path = none) : g.store.get? path = none := by
    cases kept : g.store.get? path with
    | none => rfl
    | some template => cases (grows.kept path template kept).symm.trans missing
  obtain ⟨a, before, move⟩ := h.came found
  cases move with
  | stays =>
    obtain ⟨same, left⟩ := settled j path answer before
    exact ⟨same, fun missing => left (absent missing)⟩
  | hit kept | served kept =>
    refine ⟨by simp only [Store.answer, kept], fun missing => ?_⟩
    cases (absent missing).symm.trans kept
  | ends outcome =>
    have here := brings j outcome path rfl before
    have new := h.absent before
    refine ⟨by simp only [Store.answer, new, here], fun missing template text => ?_⟩
    rw [Gathering.step, answer_end before, call_store, here, text] at missing
    simp [Store.settle] at missing

theorem Sound.settled (h : Sound g) (follows : g.Follows resources events)
    (settled : g.Settled resources) : (g.after events).Settled resources := by
  induction events generalizing g with
  | nil => exact settled
  | cons event events ih =>
    exact ih (h.step event).sound follows.2 (h.settled_step follows.1 settled)

/-- Once all requests are done, each has the answer that the store and the resources have for its
path. -/
theorem requests_of_complete {store : Store} {paths : List Text}
    (follows : (ofPaths store paths).Follows resources events)
    (complete : (started store paths events).IsComplete) :
    (started store paths events).requests =
      paths.map fun path => ⟨path, .done (store.answer resources path)⟩ := by
  have sound := sound_ofPaths store paths
  refine List.ext_getElem? fun i => ?_
  rw [List.getElem?_map]
  cases at_i : paths[i]? with
  | none =>
    rw [List.getElem?_eq_none_iff] at at_i
    simpa [started, ofPaths] using at_i
  | some path =>
    have ready : (ofPaths store paths).At i path .ready := by simp [At, ofPaths, at_i]
    obtain ⟨phase, found⟩ := sound.after_at ready events
    obtain ⟨answer, rfl⟩ := complete.answered found
    have answered := (sound.settled follows (settled_ofPaths store paths) i path answer found).1
    rw [follows.extends.answer_eq] at answered
    rw [started, found, answered]
    rfl

/-! ## templates -/

/-- What a store gains in a run. -/
theorem Sound.after_gains (h : Sound g) (events : List Event) :
    g.store.Gains (g.arrivals events) (stylesOf (g.arrivals events)) (g.after events).store := by
  induction events generalizing g with
  | nil => exact .nothing g.store
  | cons event events ih =>
    rw [arrivals, stylesOf_append]
    exact (h.step_gains event).trans (ih (h.step event).sound)

theorem Sound.mem_arrivals_iff (h : Sound g) : (path, template) ∈ g.arrivals events ↔
    g.store.get? path = none ∧ (g.after events).store.get? path = some template := by
  constructor
  · intro arrived
    exact ⟨(h.after_gains events).new _ arrived, h.arrivals_kept arrived⟩
  · rintro ⟨absent, kept⟩
    rw [Store.get?] at absent
    rw [Store.get?, (h.after_gains events).kept, Pairs.lookup_append, absent,
      Option.none_or] at kept
    exact Pairs.mem_of_lookup kept

/-- Only what is requested arrives. -/
theorem Sound.requested_of_arrival (h : Sound g) (arrived : (path, template) ∈ g.arrivals events) :
    ∃ i a, g.At i path a := by
  induction events generalizing g with
  | nil => cases arrived
  | cons event events ih =>
    obtain now | later := List.mem_append.1 arrived
    · obtain ⟨i, -, at_i⟩ := arrival?_some (by simpa using now)
      exact ⟨i, _, at_i⟩
    · obtain ⟨i, b, found⟩ := ih (h.step event).sound later
      obtain ⟨a, before, -⟩ := h.came found
      exact ⟨i, a, before⟩

/-- What one run keeps in the end, any other that is complete keeps too. -/
theorem Sound.kept_of_complete {first second : List Event} (h : Sound g)
    (settled : g.Settled resources) (follows : g.Follows resources first)
    (follows' : g.Follows resources second) (complete : (g.after second).IsComplete)
    (kept : (g.after first).store.get? path = some template) :
    (g.after second).store.get? path = some template := by
  cases before : g.store.get? path with
  | some old =>
    cases (follows.extends.kept path old before).symm.trans kept
    exact follows'.extends.kept path _ before
  | none =>
    have text := follows.extends.fetched path template before kept
    obtain ⟨i, a, at_i⟩ := h.requested_of_arrival (h.mem_arrivals_iff.2 ⟨before, kept⟩)
    obtain ⟨b, found⟩ := h.after_at at_i second
    obtain ⟨answer, rfl⟩ := complete.answered found
    have left := (h.settled follows' settled i path answer found).2
    cases after : (g.after second).store.get? path with
    | none => exact absurd text (left after template)
    | some other =>
      have same := follows'.extends.fetched path other before after
      rw [text] at same
      cases same
      rfl

/-! ## fetches -/

/-- The path that the event begins to fetch. -/
def begins? (g : Gathering) (event : Event) : Option Text :=
  match g.requests[event.request]?, (g.step event).requests[event.request]? with
  | some before, some ⟨path, .fetching⟩ => if before.phase.isFetching then none else some path
  | _, _ => none

/-- The paths that a run fetches, in order. -/
def fetches : Gathering → List Event → List Text
  | _, [] => []
  | g, event :: events => (g.begins? event).toList ++ fetches (g.step event) events

/-- The requests for a path that are in such a phase, marked. -/
def marks (g : Gathering) (p : Phase → Bool) (path : Text) : List Bool :=
  g.requests.map fun request => request.path == path && p request.phase

/-- How many requests for a path are in such a phase. -/
def tally (g : Gathering) (p : Phase → Bool) (path : Text) : Nat :=
  (g.marks p path).count true

/-- How many fetches of a path are still to come. A text is fetched for all by the first who needs
it; what cannot be fetched is fetched by everyone. -/
def remaining (resources : Text → FetchOutcome) (g : Gathering) (path : Text) : Nat :=
  match g.store.get? path, resources path with
  | some _, _ => 0
  | none, .text _ =>
    if g.tally Phase.isFetching path = 0 then min 1 (g.tally Phase.isPending path) else 0
  | none, .failed _ | none, .raised _ => g.tally Phase.isPending path

theorem tally_eq_zero_iff :
    g.tally p path = 0 ↔ ∀ i phase, g.At i path phase → p phase = false := by
  simp only [tally, marks, List.count_eq_zero, List.mem_map, Bool.and_eq_true, beq_iff_eq,
    not_exists, not_and, Bool.not_eq_true]
  constructor
  · intro unmarked i phase found
    exact unmarked _ (List.mem_of_getElem? found) rfl
  · rintro unmarked request member rfl
    obtain ⟨i, found⟩ := List.mem_iff_getElem?.1 member
    exact unmarked i request.phase found

theorem begins?_eq (turn : event.request = i) (before : g.At i path a)
    (after : (g.step event).At i path b) :
    g.begins? event = if !a.isFetching && b.isFetching then some path else none := by
  rw [begins?, turn, before, after]
  cases a <;> cases b <;> rfl

theorem begins?_missing (missing : g.requests[event.request]? = none) :
    g.begins? event = none := by
  rw [begins?, missing]

theorem step_missing (missing : g.requests[event.request]? = none) : g.step event = g := by
  cases event with
  | resume i => rw [Gathering.step, resume, show g.requests[i]? = none from missing]
  | answer i outcome => rw [Gathering.step, answer, show g.requests[i]? = none from missing]

/-- Setting one mark changes the number of marks by that one. -/
theorem count_set {marks : List Bool} {old : Bool} (new : Bool) (at_i : marks[i]? = some old) :
    (marks.set i new).count true + old.toNat = marks.count true + new.toNat := by
  obtain ⟨bound, found⟩ := List.getElem?_eq_some_iff.1 at_i
  have counted := List.boole_getElem_le_countP (p := (· == true)) bound
  rw [List.count_set bound, List.count]
  rw [found] at counted ⊢
  cases old <;> cases new <;> simp_all

theorem marks_at (found : g.At i other a) :
    (g.marks p path)[i]? = some (other == path && p a) := by
  simp [marks, found]

/-- A step changes the mark of the request whose turn it is and no other, unless the marks tell
those who were called from those who still wait. -/
theorem Sound.marks_step (h : Sound g) (blind : p .called = p .queued) (turn : event.request = i)
    (after : (g.step event).At i other b) :
    (g.step event).marks p path = (g.marks p path).set i (other == path && p b) := by
  refine List.ext_getElem? fun j => ?_
  cases at_j : g.requests[j]? with
  | none =>
    have outside := List.getElem?_eq_none_iff.1 at_j
    rw [List.getElem?_eq_none, List.getElem?_eq_none] <;> simpa [marks] using outside
  | some request =>
    obtain ⟨there, phase⟩ := request
    obtain ⟨next, found, move⟩ := (h.step event).moves at_j
    by_cases here : i = j
    · subst here
      rw [marks_at after, List.getElem?_set_self']
      simp [marks_at at_j]
    · rw [List.getElem?_set_ne here, marks_at found, marks_at at_j]
      cases move with
      | stays => rfl
      | isCalled => rw [blind]
      | hit | waits | starts | served | retries | ends => exact absurd turn.symm here

theorem Sound.tally_step (h : Sound g) (event : Event) (path : Text)
    (blind : p .called = p .queued) (turn : event.request = i) (before : g.At i other a)
    (after : (g.step event).At i other b) :
    (g.step event).tally p path + (other == path && p a).toNat =
      g.tally p path + (other == path && p b).toNat := by
  rw [tally, tally, h.marks_step blind turn after]
  exact count_set _ (marks_at before)

/-! ## fetches to come -/

theorem remaining_of_kept (kept : g.store.get? path = some template) :
    g.remaining resources path = 0 := by
  rw [remaining, kept]

theorem remaining_of_text (absent : g.store.get? path = none)
    (text : resources path = .text template) : g.remaining resources path =
      if g.tally Phase.isFetching path = 0 then min 1 (g.tally Phase.isPending path) else 0 := by
  rw [remaining, absent, text]

theorem remaining_of_failure (absent : g.store.get? path = none)
    (failure : ∀ template, resources path ≠ .text template) :
    g.remaining resources path = g.tally Phase.isPending path := by
  rw [remaining, absent]
  cases outcome : resources path with
  | text template => exact absurd outcome (failure template)
  | failed | raised => rfl

theorem remaining_congr {g' : Gathering} (same : g'.store.get? path = g.store.get? path)
    (pending : g'.tally Phase.isPending path = g.tally Phase.isPending path)
    (fetching : g'.tally Phase.isFetching path = g.tally Phase.isFetching path) :
    g'.remaining resources path = g.remaining resources path := by
  rw [remaining, remaining, same, pending, fetching]

theorem remaining_of_complete (complete : g.IsComplete) : g.remaining resources path = 0 := by
  have none : g.tally Phase.isPending path = 0 := by
    rw [tally_eq_zero_iff]
    intro i phase found
    obtain ⟨answer, rfl⟩ := complete.answered found
    rfl
  rw [remaining, none]
  split <;> simp

/-- A step for another path leaves the store as it is for this one. -/
theorem get?_step_of_ne (turn : event.request = i) (before : g.At i other a) (ne : other ≠ path) :
    (g.step event).store.get? path = g.store.get? path := by
  obtain same | ⟨j, there, outcome, rfl, at_j, settled⟩ := step_store g event
  · rw [same]
  · subst turn
    cases at_j.symm.trans before
    rw [settled, Store.get?_settle_of_ne ne]

/-- A request that rests leaves the store as it is. -/
theorem step_store_of_rests (turn : event.request = i) (before : g.At i path a)
    (rests : event.moves a = false) : (g.step event).store = g.store := by
  obtain same | ⟨j, there, outcome, rfl, at_j, -⟩ := step_store g event
  · exact same
  · subst turn
    cases at_j.symm.trans before
    cases rests

/-- Who begins to fetch a path is alone in it. -/
theorem Sound.none_fetching (h : Sound g) (turn : event.request = i) (before : g.At i path a)
    (waited : a.isFetching = false) (after : (g.step event).At i path .fetching) :
    g.tally Phase.isFetching path = 0 := by
  rw [tally_eq_zero_iff]
  intro j phase found
  cases phase with
  | ready | queued | called | done => rfl
  | fetching =>
    obtain ⟨next, still, move⟩ := (h.step event).moves found
    obtain rfl : j = i := by
      cases move with
      | stays => exact (h.step event).sound.alone still after rfl rfl
      | ends => exact turn
    cases found.symm.trans before
    cases waited

/-- Who begins to fetch a path takes one from the fetches to come. -/
theorem Sound.remaining_begin (h : Sound g) (turn : event.request = i) (before : g.At i path a)
    (waited : a.isPending = true) (after : (g.step event).At i path .fetching)
    (same : (g.step event).store = g.store) :
    1 + (g.step event).remaining resources path = g.remaining resources path := by
  have idle : a.isFetching = false := by
    cases a with
    | fetching => cases waited
    | ready | queued | called | done => rfl
  have begun : Phase.fetching.isPending = false ∧ Phase.fetching.isFetching = true := ⟨rfl, rfl⟩
  have absent := (h.step event).sound.absent after
  have pending := h.tally_step (p := Phase.isPending) event path rfl turn before after
  have fetching := h.tally_step (p := Phase.isFetching) event path rfl turn before after
  simp only [waited, idle, begun, beq_self_eq_true, Bool.and_true, Bool.and_false, Bool.toNat_true,
    Bool.toNat_false] at pending fetching
  by_cases text : ∃ template, resources path = .text template
  · obtain ⟨template, text⟩ := text
    have alone := h.none_fetching turn before idle after
    rw [remaining_of_text absent text, remaining_of_text (same ▸ absent) text, if_neg (by omega),
      if_pos alone]
    omega
  · have failure : ∀ template, resources path ≠ .text template := not_exists.1 text
    rw [remaining_of_failure absent failure, remaining_of_failure (same ▸ absent) failure]
    omega

/-- The end of a fetch changes nothing in the fetches to come. -/
theorem Sound.remaining_end {outcome : FetchOutcome} (h : Sound g) (before : g.At i path .fetching)
    (here : outcome = resources path) :
    (g.step (.answer i outcome)).remaining resources path = g.remaining resources path := by
  have absent := h.absent before
  have stored : (g.step (.answer i outcome)).store = (g.store.settle path outcome).2 := by
    rw [Gathering.step, answer_end before, call_store]
  by_cases text : ∃ template, resources path = .text template
  · obtain ⟨template, text⟩ := text
    have kept : (g.step (.answer i outcome)).store.get? path = some template := by
      rw [stored, here, text]
      simp [Store.settle, absent]
    have busy : g.tally Phase.isFetching path ≠ 0 := fun none => by
      cases tally_eq_zero_iff.1 none i _ before
    rw [remaining_of_kept kept, remaining_of_text absent text, if_neg busy]
  · have failure : ∀ template, resources path ≠ .text template := not_exists.1 text
    have same : (g.step (.answer i outcome)).store = g.store := by
      rw [stored]
      cases outcome with
      | text template => exact absurd here.symm (failure template)
      | failed | raised => rfl
    have pending := h.tally_step (p := Phase.isPending) (.answer i outcome) path rfl rfl before
      (h.ends_fetch before outcome)
    simp only [Phase.isPending, Bool.and_false, Bool.toNat_false, Nat.add_zero] at pending
    rw [remaining_of_failure absent failure, remaining_of_failure (same ▸ absent) failure, pending]

/-- A step of a request for a path takes one from the fetches to come if it begins to fetch, and
nothing otherwise. -/
theorem Sound.remaining_of_moves (h : Sound g) (brings : g.Brings resources event)
    (turn : event.request = i) (before : g.At i path a) (after : (g.step event).At i path b)
    (move : Moves g.store path i event a b) :
    (!a.isFetching && b.isFetching).toNat + (g.step event).remaining resources path =
      g.remaining resources path := by
  have pending := h.tally_step (p := Phase.isPending) event path rfl turn before after
  have fetching := h.tally_step (p := Phase.isFetching) event path rfl turn before after
  cases move with
  | stays rests =>
    have same := step_store_of_rests turn before (rests.resolve_left (not_not.2 turn))
    rw [remaining_congr (congrArg (·.get? path) same) (Nat.add_right_cancel pending)
      (Nat.add_right_cancel fetching)]
    cases a <;> exact Nat.zero_add _
  | hit kept | served kept =>
    rw [remaining_of_kept kept, remaining_of_kept (step_kept kept)]
    rfl
  | waits =>
    rw [remaining_congr (congrArg (·.get? path) resume_store) (Nat.add_right_cancel pending)
      (Nat.add_right_cancel fetching)]
    exact Nat.zero_add _
  | starts | retries => exact h.remaining_begin rfl before rfl after resume_store
  | isCalled elsewhere => exact absurd turn elsewhere
  | ends outcome =>
    rw [h.remaining_end before (brings _ _ _ rfl before)]
    exact Nat.zero_add _

/-- A step that begins to fetch a path takes one from the fetches to come; no other step changes
their number. -/
theorem Sound.remaining_step (h : Sound g) (brings : g.Brings resources event) (path : Text) :
    (g.begins? event).toList.count path + (g.step event).remaining resources path =
      g.remaining resources path := by
  cases before : g.requests[event.request]? with
  | none => simp [begins?_missing before, step_missing before]
  | some request =>
    obtain ⟨other, a⟩ := request
    obtain ⟨b, after, move⟩ := (h.step event).moves before
    rw [begins?_eq rfl before after]
    by_cases same : other = path
    · subst same
      rw [← h.remaining_of_moves brings rfl before after move]
      cases !a.isFetching && b.isFetching <;> simp
    · have pending := h.tally_step (p := Phase.isPending) event path rfl rfl before after
      have fetching := h.tally_step (p := Phase.isFetching) event path rfl rfl before after
      simp only [beq_eq_false_iff_ne.2 same, Bool.false_and, Bool.toNat_false, Nat.add_zero]
        at pending fetching
      rw [remaining_congr (get?_step_of_ne rfl before same) pending fetching]
      split <;> simp [same]

/-- The fetches of a run and those still to come after it are those to come before it. -/
theorem Sound.remaining_after (h : Sound g) (follows : g.Follows resources events) (path : Text) :
    (g.fetches events).count path + (g.after events).remaining resources path =
      g.remaining resources path := by
  induction events generalizing g with
  | nil => exact Nat.zero_add _
  | cons event events ih =>
    rw [fetches, List.count_append, after_cons, Nat.add_assoc, ih (h.step event).sound follows.2,
      h.remaining_step follows.1]

/-- A run to completion begins all fetches that were to come. -/
theorem Sound.count_fetches (h : Sound g) (follows : g.Follows resources events)
    (complete : (g.after events).IsComplete) :
    (g.fetches events).count path = g.remaining resources path := by
  rw [← h.remaining_after follows path, remaining_of_complete complete, Nat.add_zero]

/-! ## two schedules -/

theorem Sound.arrivals_perm {first second : List Event} (h : Sound g)
    (settled : g.Settled resources) (follows : g.Follows resources first)
    (follows' : g.Follows resources second) (complete : (g.after first).IsComplete)
    (complete' : (g.after second).IsComplete) :
    (g.arrivals first).Perm (g.arrivals second) := by
  refine (List.perm_ext_iff_of_nodup (h.after_gains first).once.of_map
    (h.after_gains second).once.of_map).2 fun ⟨path, template⟩ => ?_
  rw [h.mem_arrivals_iff, h.mem_arrivals_iff]
  exact and_congr_right fun _ => ⟨h.kept_of_complete settled follows follows' complete',
    h.kept_of_complete settled follows' follows complete⟩

/-- Over fixed resources, two schedules that run all requests to completion give each request the
same answer, keep the same templates, fetch each path as often and collect the same style tags. The
style tags come in the order in which the successful fetches of a schedule end. -/
theorem schedules_agree (resources : Text → FetchOutcome) (store : Store) (paths : List Text)
    (first second : List Event)
    (follows : (ofPaths store paths).Follows resources first)
    (follows' : (ofPaths store paths).Follows resources second)
    (complete : (started store paths first).IsComplete)
    (complete' : (started store paths second).IsComplete) :
    (started store paths first).requests = (started store paths second).requests ∧
    (started store paths first).store.kept.Perm (started store paths second).store.kept ∧
    (∀ path, (started store paths first).store.get? path =
      (started store paths second).store.get? path) ∧
    (∀ path, ((ofPaths store paths).fetches first).count path =
      ((ofPaths store paths).fetches second).count path) ∧
    (started store paths first).store.styles.tags.Perm
      (started store paths second).store.styles.tags ∧
    ∀ events, (started store paths events).store.styles.tags =
      (store.styles.tags ++ stylesOf ((ofPaths store paths).arrivals events)).eraseDups := by
  have sound := sound_ofPaths store paths
  have settled : (ofPaths store paths).Settled resources := settled_ofPaths store paths
  have arrived := sound.arrivals_perm settled follows follows' complete complete'
  have styles (events : List Event) : (started store paths events).store.styles.tags =
      (store.styles.tags ++ stylesOf ((ofPaths store paths).arrivals events)).eraseDups :=
    (sound.after_gains events).styles
  refine ⟨?_, ?_, fun path => ?_, fun path => ?_, ?_, styles⟩
  · rw [requests_of_complete follows complete, requests_of_complete follows' complete']
  · rw [started, started, (sound.after_gains first).kept, (sound.after_gains second).kept]
    exact arrived.append_left _
  · refine Option.ext fun template => ?_
    exact ⟨sound.kept_of_complete settled follows follows' complete',
      sound.kept_of_complete settled follows' follows complete⟩
  · rw [sound.count_fetches follows complete, sound.count_fetches follows' complete']
  · refine (List.perm_ext_iff_of_nodup (Style.Scope.nodup _) (Style.Scope.nodup _)).2 fun tag => ?_
    rw [styles, styles, List.mem_eraseDups, List.mem_eraseDups, List.mem_append, List.mem_append]
    exact or_congr_right (arrived.flatMap_right _).mem_iff

/-- Two pages, each with a style of its own. -/
def twoPages (path : Text) : FetchOutcome :=
  if path = "a".toList then .text "<style>a</style>".toList
  else if path = "b".toList then .text "<style>b</style>".toList
  else .failed (.status 404)

def askedPages : List Text := ["a".toList, "b".toList, "a".toList, "c".toList, "c".toList]

/-- Each request goes on as soon as it can, the first one first. -/
def forwards : List Event :=
  [.resume 0, .resume 1, .resume 2, .resume 3, .resume 4, .answer 0 (twoPages "a".toList),
    .answer 1 (twoPages "b".toList), .resume 2, .answer 3 (twoPages "c".toList), .resume 4,
    .answer 4 (twoPages "c".toList)]

/-- The last request goes first, and the third one only when its page is there. -/
def backwards : List Event :=
  [.resume 4, .resume 3, .resume 1, .resume 0, .answer 4 (twoPages "c".toList),
    .answer 1 (twoPages "b".toList), .resume 3, .answer 0 (twoPages "a".toList), .resume 2,
    .answer 3 (twoPages "c".toList)]

theorem schedules_agree_twoPages :
    (started (.empty []) askedPages forwards).requests =
      (started (.empty []) askedPages backwards).requests ∧
    (∀ path, ((ofPaths (.empty []) askedPages).fetches forwards).count path =
      ((ofPaths (.empty []) askedPages).fetches backwards).count path) ∧
    (started (.empty []) askedPages forwards).store.styles.tags =
      ["<style>a</style>".toList, "<style>b</style>".toList] ∧
    (started (.empty []) askedPages backwards).store.styles.tags =
      ["<style>b</style>".toList, "<style>a</style>".toList] := by
  have follows : (ofPaths (.empty []) askedPages).Follows twoPages forwards :=
    ⟨brings_resume, brings_resume, brings_resume, brings_resume, brings_resume, brings_answer rfl,
      brings_answer rfl, brings_resume, brings_answer rfl, brings_resume, brings_answer rfl,
      trivial⟩
  have follows' : (ofPaths (.empty []) askedPages).Follows twoPages backwards :=
    ⟨brings_resume, brings_resume, brings_resume, brings_resume, brings_answer rfl,
      brings_answer rfl, brings_resume, brings_answer rfl, brings_resume, brings_answer rfl,
      trivial⟩
  have agree := schedules_agree twoPages (.empty []) askedPages forwards backwards follows follows'
    (by decide) (by decide)
  exact ⟨agree.1, agree.2.2.2.1, by decide, by decide⟩

end Gathering

end Template

end ChatTranscript

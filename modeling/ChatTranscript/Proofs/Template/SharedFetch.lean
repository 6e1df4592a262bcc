import ChatTranscript.Proofs.Template.Requests

/-!
# Concurrent requests share their fetches

However the requests on a store are interleaved and whatever their fetches bring, a path is fetched
by one request at a time and fetched with success at most once. From then on all requests for it get
that text. A fetch that fails changes nothing in the store and leaves the path to the next in line.

## Main statements

* `Template.Gathering.requests_share_fetches`: all of this, for every run.
-/

namespace ChatTranscript

namespace Template

namespace Gathering

variable {g : Gathering} {i j : Nat} {path template : Text} {phase : Phase} {event : Event}
  {events : List Event}

/-! ## successful fetches -/

/-- The path and the text of a fetch that the event ends with success. -/
def arrival? (g : Gathering) : Event → Option (Text × Text)
  | .answer i (.text template) =>
    match g.requests[i]? with
    | some ⟨path, .fetching⟩ => some (path, template)
    | _ => none
  | _ => none

/-- The successful fetches of a run, in order. -/
def arrivals : Gathering → List Event → List (Text × Text)
  | _, [] => []
  | g, event :: events => (g.arrival? event).toList ++ arrivals (g.step event) events

theorem arrival?_some (h : g.arrival? event = some (path, template)) :
    ∃ i, event = .answer i (.text template) ∧ g.At i path .fetching := by
  unfold arrival? at h
  split at h
  · rename_i i text
    split at h
    · rename_i at_i
      cases h
      exact ⟨i, rfl, at_i⟩
    · cases h
  · cases h

theorem Sound.arrival (h : Sound g) (arrived : g.arrival? event = some (path, template)) :
    g.store.get? path = none ∧ (g.step event).store.get? path = some template := by
  obtain ⟨i, rfl, at_i⟩ := arrival?_some arrived
  have absent := h.absent at_i
  refine ⟨absent, ?_⟩
  simp [Gathering.step, answer_end at_i, Store.settle, absent]

theorem Sound.arrivals_kept (h : Sound g) (arrived : (path, template) ∈ g.arrivals events) :
    (g.after events).store.get? path = some template := by
  induction events generalizing g with
  | nil => cases arrived
  | cons event events ih =>
    obtain now | later := List.mem_append.1 arrived
    · exact after_kept (h.arrival (by simpa using now)).2 events
    · exact ih (h.step event).sound later

/-- A path arrives once, and only if it was not kept before. -/
theorem Sound.arrivals_nodup (h : Sound g) (events : List Event) :
    ((g.arrivals events).map Prod.fst).Nodup ∧
      ∀ arrived ∈ g.arrivals events, g.store.get? arrived.1 = none := by
  induction events generalizing g with
  | nil => simp [arrivals]
  | cons event events ih =>
    obtain ⟨nodup, absent⟩ := ih (h.step event).sound
    -- the store only grows, so what is absent after the step was absent before it
    have missing (arrived) (later : arrived ∈ arrivals (g.step event) events) :
        g.store.get? arrived.1 = none := by
      cases kept : g.store.get? arrived.1 with
      | none => rfl
      | some template => exact (Option.some_ne_none _ ((step_kept kept).symm.trans
          (absent arrived later))).elim
    cases now : g.arrival? event with
    | none => simpa only [arrivals, now, Option.toList_none, List.nil_append] using ⟨nodup, missing⟩
    | some first =>
      obtain ⟨before, kept⟩ := h.arrival now
      simp only [arrivals, now, Option.toList_some, List.singleton_append, List.map_cons,
        List.nodup_cons, List.mem_map, not_exists, not_and]
      refine ⟨⟨fun arrived later same => ?_, nodup⟩, fun arrived member => ?_⟩
      · rw [← same, absent arrived later] at kept
        cases kept
      · obtain rfl | later := List.mem_cons.1 member
        · exact before
        · exact missing arrived later

/-- With its template kept, a request that is not done yet can only end with that template. -/
theorem Sound.done_of_kept {answer : Except Fault Text} (h : Sound g)
    (kept : g.store.get? path = some template) (at_i : g.At i path phase)
    (fine : ∀ result, phase = .done result → result = .ok template) (events : List Event)
    (finished : (g.after events).At i path (.done answer)) : answer = .ok template := by
  induction events generalizing g phase with
  | nil =>
    cases at_i.symm.trans finished
    exact fine answer rfl
  | cons event events ih =>
    obtain ⟨next, found, move⟩ := (h.step event).moves at_i
    refine ih (h.step event).sound (step_kept kept) found ?_ finished
    cases move with
    | stays => exact fine
    | hit same | served same =>
      rintro _ ⟨rfl⟩
      rw [Option.some.inj (same.symm.trans kept)]
    | waits absent | starts absent | retries absent => simp [absent] at kept
    | isCalled => simp
    | ends outcome => simp [h.absent at_i] at kept

/-! ## failed fetches -/

theorem first?_setPhase : (g.setPhase i phase).first? path = g.first? path := by
  have same (k : Nat) : ((g.setPhase i phase).requests[k]?).map (·.path) =
      (g.requests[k]?).map (·.path) := by
    by_cases eq : k = i
    · subst eq
      cases at_k : g.requests[k]? <;> simp [setPhase, at_k]
    · rw [setPhase_other eq]
  unfold first?
  congr 1
  funext k
  have := same k
  split <;> split <;> simp_all

/-- A request that is called stays called, with its template absent, until it goes on. -/
theorem Sound.stays_called (h : Sound g) (at_j : g.At j path .called)
    (absent : g.store.get? path = none) (events : List Event) (waits : .resume j ∉ events) :
    Sound (g.after events) ∧ (g.after events).At j path .called ∧
      (g.after events).store.get? path = none := by
  induction events generalizing g with
  | nil => exact ⟨h, at_j, absent⟩
  | cons event events ih =>
    obtain ⟨now, later⟩ : .resume j ≠ event ∧ .resume j ∉ events := by simpa using waits
    refine ih (h.step event).sound ?_ ?_ later
    · obtain ⟨next, found, move⟩ := (h.step event).moves at_j
      cases move with
      | stays => exact found
      | served | retries => exact absurd rfl now
    · obtain same | ⟨i, other, outcome, -, at_i, settled⟩ := step_store g event
      · rw [same, absent]
      · rw [settled, Store.get?_settle_of_ne, absent]
        rintro rfl
        cases h.alone at_i at_j rfl rfl
        cases at_i.symm.trans at_j

theorem call_of_first (first : g.first? path = some j) : g.call path = g.setPhase j .called := by
  simp [call, first]

/-- The end of a fetch calls the first in line. -/
theorem Sound.calls_first {outcome : FetchOutcome} (h : Sound g) (at_i : g.At i path .fetching)
    (first : g.first? path = some j) : (g.answer i outcome).At j path .called := by
  obtain ⟨member, a, at_j⟩ := first?_some first
  have ne : j ≠ i := by
    rintro rfl
    simp [h.inLine at_i, Phase.inLine] at member
  have called : g.answer i outcome = _ :=
    (answer_end at_i).trans (call_of_first (first?_setPhase.trans first))
  rw [called]
  exact setPhase_self ((setPhase_other ne).trans at_j)

theorem Sound.ends_fetch (h : Sound g) (at_i : g.At i path .fetching) (outcome : FetchOutcome) :
    (g.answer i outcome).At i path (.done (g.store.settle path outcome).1) := by
  obtain ⟨next, found, move⟩ := (h.step (.answer i outcome)).moves at_i
  cases move with
  | stays rests => simp [Event.request, Event.moves] at rests
  | ends => exact found

/-- While a path is fetched, the first in its line is a request that waits, and after a failure it
fetches the path whenever it goes on. -/
theorem Sound.hands_over {outcome : FetchOutcome} (h : Sound g) (at_i : g.At i path .fetching)
    (failed : (g.answer i outcome).store = g.store) {k : Nat} (waiting : g.At k path .queued) :
    ∃ j, g.first? path = some j ∧ g.At j path .queued ∧
      ∀ later, .resume j ∉ later →
        (((g.answer i outcome).after later).resume j).At j path .fetching := by
  have listed : k ∈ g.line := (h.inLine waiting).2 rfl
  cases first : g.first? path with
  | none =>
    have := List.find?_eq_none.1 first k listed
    simp [waiting] at this
  | some j =>
    obtain ⟨member, a, at_j⟩ := first?_some first
    have called : (g.answer i outcome).At j path .called := h.calls_first at_i first
    have sound : Sound (g.answer i outcome) := (h.step (.answer i outcome)).sound
    have absent : (g.answer i outcome).store.get? path = none := by
      rw [failed]
      exact h.absent at_i
    refine ⟨j, rfl, ?_, fun later waits => ?_⟩
    · have lined := (h.inLine at_j).1 member
      cases a with
      | queued => exact at_j
      | called =>
        cases h.alone at_i at_j rfl rfl
        cases at_i.symm.trans at_j
      | ready | fetching | done => cases lined
    · obtain ⟨-, still, missing⟩ := sound.stays_called called absent later waits
      rw [resume_retry still missing]
      exact setPhase_self still

/-! ## all runs -/

/-- The requests for some paths after some steps. -/
def started (store : Store) (paths : List Text) (events : List Event) : Gathering :=
  (ofPaths store paths).after events

@[simp] theorem started_append (store : Store) (paths : List Text) (events later : List Event) :
    started store paths (events ++ later) = (started store paths events).after later := by
  simp [started, after]

theorem started_sound (store : Store) (paths : List Text) (events : List Event) :
    Sound (started store paths events) := (sound_ofPaths store paths).after events

/-- How a request ends whose own fetch brings no text. -/
inductive Failure (store : Store) : FetchOutcome → Except Fault Text → Prop where
  | failed (failure : FetchFailure) : Failure store (.failed failure) (.ok store.fallback)
  | raised (fault : Fault) : Failure store (.raised fault) (.error fault)

theorem Failure.settle {store kept : Store} {outcome : FetchOutcome} {answer : Except Fault Text}
    (failure : Failure store outcome answer) (same : kept.fallback = store.fallback)
    (path : Text) : kept.settle path outcome = (answer, kept) := by
  cases failure with
  | failed => rw [Store.settle, same]
  | raised => rfl

/-- In every run, a path is fetched by one request at a time, and it arrives at most once and only
if it was not kept at first. Once it has arrived nobody fetches it any more, and who ends later ends
with that text. A request whose own fetch fails leaves the store as it was and ends with the
fallback or the fault; the first in line for the path then fetches it, whatever happens before it
goes on. -/
theorem requests_share_fetches (store : Store) (paths : List Text) (events : List Event) :
    (∀ i j path, (started store paths events).At i path .fetching →
      (started store paths events).At j path .fetching → i = j) ∧
    (((ofPaths store paths).arrivals events).map Prod.fst).Nodup ∧
    (∀ path template, (path, template) ∈ (ofPaths store paths).arrivals events →
      store.get? path = none ∧ ∀ later,
        (∀ i, ¬ (started store paths (events ++ later)).At i path .fetching) ∧
        ∀ i phase answer, (started store paths events).At i path phase →
          (∀ result, phase ≠ .done result) →
          (started store paths (events ++ later)).At i path (.done answer) →
          answer = .ok template) ∧
    ∀ i path outcome answer, (started store paths events).At i path .fetching →
      Failure store outcome answer →
      (started store paths (events ++ [.answer i outcome])).store =
        (started store paths events).store ∧
      (started store paths (events ++ [.answer i outcome])).At i path (.done answer) ∧
      ∀ k, (started store paths events).At k path .queued →
        ∃ j, (started store paths events).first? path = some j ∧
          (started store paths events).At j path .queued ∧
          ∀ later, .resume j ∉ later →
            (started store paths (events ++ .answer i outcome :: later ++ [.resume j])).At j path
              .fetching := by
  have sound := started_sound store paths events
  refine ⟨fun i j path at_i at_j => sound.alone at_i at_j rfl rfl,
    ((sound_ofPaths store paths).arrivals_nodup events).1, ?_, ?_⟩
  · intro path template arrived
    refine ⟨((sound_ofPaths store paths).arrivals_nodup events).2 _ arrived, fun later => ?_⟩
    have kept := (sound_ofPaths store paths).arrivals_kept arrived
    rw [started_append]
    refine ⟨fun i at_i => ?_, fun i phase answer at_i pending finished => ?_⟩
    · cases (after_kept kept later).symm.trans ((sound.after later).absent at_i)
    · exact sound.done_of_kept kept at_i (fun result done => absurd done (pending result)) later
        finished
  · intro i path outcome answer at_i failure
    have settled : (started store paths events).store.settle path outcome =
        (answer, (started store paths events).store) :=
      failure.settle (after_fallback (ofPaths store paths) events) path
    have unchanged : ((started store paths events).answer i outcome).store =
        (started store paths events).store := by
      obtain same | ⟨other, at_i', changed⟩ := answer_store (started store paths events) i outcome
      · exact same
      · cases at_i.symm.trans at_i'
        rw [changed, settled]
    have ended := sound.ends_fetch at_i outcome
    rw [settled] at ended
    refine ⟨by rw [started_append]; exact unchanged, by rw [started_append]; exact ended, ?_⟩
    intro k waiting
    obtain ⟨j, first, at_j, fetches⟩ := sound.hands_over at_i unchanged waiting
    refine ⟨j, first, at_j, fun later waits => ?_⟩
    rw [started_append, started_append]
    exact fetches later waits

/-- Of three requests for one path, the second stands in line behind the first. -/
example : let g := started (.empty []) ["p".toList, "p".toList, "p".toList] [.resume 0, .resume 1]
    g.At 0 "p".toList .fetching ∧ g.At 1 "p".toList .queued ∧ g.At 2 "p".toList .ready :=
  ⟨rfl, rfl, rfl⟩

end Gathering

end Template

end ChatTranscript

import ChatTranscript.Proofs.Pairs
import ChatTranscript.Template.Gathering

/-!
# Steps of concurrent requests

A request that fetches holds its path, and so does one that was called and has not gone on yet.
Every step keeps at most one holder of a path, and moves a single request along its life: it is
ready, it may stand in line and be called, it may fetch, and it is done.

## Main definitions

* `Template.Gathering.Sound`: what holds of requests, line and store at any time.
* `Template.Gathering.Moves`: what a step can do to a request.
-/

namespace ChatTranscript

namespace Template

/-- The request has its path for itself, or is about to look into the store with it. -/
def Phase.holds : Phase → Bool
  | .fetching | .called => true
  | _ => false

/-! ## the store -/

namespace Store

variable {store : Store} {path other template : Text}

@[simp, grind =] theorem get?_keep : (store.keep path template).get? other =
    (store.get? other).or (if path = other then some template else none) := by
  rw [get?, keep, Pairs.lookup_append, List.find?_singleton]
  by_cases same : path = other <;> simp [get?, same]

/-- What is kept stays as it is. -/
theorem get?_settle_of_kept {outcome : FetchOutcome} (kept : store.get? other = some template) :
    (store.settle path outcome).2.get? other = some template := by
  cases outcome with
  | text body => simp [settle, kept]
  | failed | raised => exact kept

theorem get?_settle_of_ne {outcome : FetchOutcome} (h : path ≠ other) :
    (store.settle path outcome).2.get? other = store.get? other := by
  cases outcome with
  | text body => simp [settle, h]
  | failed | raised => rfl

end Store

namespace Gathering

variable {g : Gathering} {i j : Nat} {path other : Text} {phase next : Phase} {event : Event}

/-! ## one request -/

/-- A request for a path has come to a phase. -/
abbrev At (g : Gathering) (i : Nat) (path : Text) (phase : Phase) : Prop :=
  g.requests[i]? = some ⟨path, phase⟩

theorem setPhase_self (h : g.At i path phase) : (g.setPhase i next).At i path next := by
  simp [At, setPhase, h]

theorem setPhase_other (h : j ≠ i) : (g.setPhase i next).requests[j]? = g.requests[j]? := by
  simp [setPhase, Ne.symm h]

theorem isBusy_iff : g.isBusy path = true ↔
    ∃ i phase, g.At i path phase ∧ (phase.isFetching = true ∨ phase.inLine = true) := by
  simp only [isBusy, List.any_eq_true, Bool.and_eq_true, beq_iff_eq, Bool.or_eq_true]
  constructor
  · rintro ⟨request, member, rfl, busy⟩
    obtain ⟨i, found⟩ := List.mem_iff_getElem?.1 member
    exact ⟨i, request.phase, found, busy⟩
  · rintro ⟨i, phase, found, busy⟩
    exact ⟨_, List.mem_of_getElem? found, rfl, busy⟩

theorem first?_some (h : g.first? path = some i) :
    i ∈ g.line ∧ ∃ phase, g.At i path phase := by
  have found := List.find?_some h
  refine ⟨List.mem_of_find?_eq_some h, ?_⟩
  cases at_i : g.requests[i]? with
  | none => simp [at_i] at found
  | some request =>
    obtain ⟨where_, phase⟩ := request
    simp only [at_i, beq_iff_eq] at found
    subst found
    exact ⟨phase, at_i⟩

/-! ## soundness -/

/-- The line holds those who stand in it, a path has at most one holder, and what is being fetched
is not kept yet. -/
structure Sound (g : Gathering) : Prop where
  nodup : g.line.Nodup
  inLine : ∀ {i path phase}, g.At i path phase → (i ∈ g.line ↔ phase.inLine = true)
  alone : ∀ {i j path a b}, g.At i path a → g.At j path b →
    a.holds = true → b.holds = true → i = j
  absent : ∀ {i path}, g.At i path .fetching → g.store.get? path = none

theorem sound_ofPaths (store : Store) (paths : List Text) : Sound (ofPaths store paths) := by
  have ready {i : Nat} {path : Text} {phase : Phase}
      (h : (ofPaths store paths).At i path phase) : phase = .ready := by
    simp only [At, ofPaths, List.getElem?_map, Option.map_eq_some_iff] at h
    obtain ⟨_, -, h⟩ := h
    cases h
    rfl
  refine ⟨List.nodup_nil, ?_, ?_, ?_⟩
  · intro i path phase h
    cases ready h
    simp [ofPaths, Phase.inLine]
  · intro i j path a b h _ holds _
    cases ready h
    cases holds
  · intro i path h
    cases ready h

/-- A change of one request keeps a gathering sound if the request may have its new phase. -/
theorem Sound.change (h : Sound g) (at_i : g.At i path phase) {store : Store} {line : List Nat}
    (nodup : line.Nodup) (others : ∀ j, j ≠ i → (j ∈ line ↔ j ∈ g.line))
    (self : i ∈ line ↔ next.inLine = true)
    (alone : next.holds = true → ∀ j a, j ≠ i → g.At j path a → a.holds = false)
    (absent : ∀ j other, j ≠ i → g.At j other .fetching → store.get? other = none)
    (fresh : next = .fetching → store.get? path = none) :
    Sound { g.setPhase i next with store, line } := by
  have here : (g.setPhase i next).At i path next := setPhase_self at_i
  refine ⟨nodup, ?_, ?_, ?_⟩
  · intro j other a found
    by_cases same : j = i
    · subst same
      cases here.symm.trans found
      exact self
    · rw [others j same]
      exact h.inLine ((setPhase_other same).symm.trans found)
  · intro j k other a b found_j found_k holds_j holds_k
    by_cases same_j : j = i
    · subst same_j
      cases here.symm.trans found_j
      by_cases same_k : k = j
      · exact same_k.symm
      · have := alone holds_j k b same_k ((setPhase_other same_k).symm.trans found_k)
        simp [this] at holds_k
    · have old_j := (setPhase_other same_j).symm.trans found_j
      by_cases same_k : k = i
      · subst same_k
        cases here.symm.trans found_k
        have := alone holds_k j a same_j old_j
        simp [this] at holds_j
      · exact h.alone old_j ((setPhase_other same_k).symm.trans found_k) holds_j holds_k
  · intro j other found
    by_cases same : j = i
    · subst same
      cases here.symm.trans found
      exact fresh rfl
    · exact absent j other same ((setPhase_other same).symm.trans found)

@[simp] theorem call_store : (g.call path).store = g.store := by
  unfold call
  split <;> rfl

/-- Calling the first in the line of a path that has no holder makes it the holder. -/
theorem Sound.call (h : Sound g) (free : ∀ i a, g.At i path a → a.holds = false) :
    Sound (g.call path) ∧ ∀ i other a, g.At i other a →
      (g.call path).At i other a ∨ a = .queued ∧ (g.call path).At i other .called := by
  unfold Gathering.call
  cases first : g.first? path with
  | none => exact ⟨h, fun i other a found => .inl found⟩
  | some i =>
    obtain ⟨member, phase, at_i⟩ := first?_some first
    have waiting : phase = .queued := by
      have := (h.inLine at_i).1 member
      have := free i phase at_i
      cases phase <;> simp_all [Phase.inLine, Phase.holds]
    subst waiting
    refine ⟨?_, fun j other a found => ?_⟩
    · refine h.change at_i h.nodup (fun _ _ => .rfl) (by simpa [Phase.inLine] using member)
        (fun _ j a _ => free j a) (fun j other _ => h.absent) (by simp)
    · by_cases same : j = i
      · subst same
        cases at_i.symm.trans found
        exact .inr ⟨rfl, setPhase_self at_i⟩
      · exact .inl ((setPhase_other same).trans found)

/-! ## steps -/

/-- The request whose turn it is. -/
def Event.request : Event → Nat
  | .resume i | .answer i _ => i

/-- The event lets a request in this phase go on. -/
def Event.moves : Event → Phase → Bool
  | .resume _, .ready | .resume _, .called | .answer _ _, .fetching => true
  | _, _ => false

/-- What a step can do to the request `i` for a path, with the store as it is before the step. -/
inductive Moves (store : Store) (path : Text) (i : Nat) : Event → Phase → Phase → Prop where
  | stays {event : Event} {phase : Phase} (rests : event.request ≠ i ∨ event.moves phase = false) :
      Moves store path i event phase phase
  | hit {template : Text} (kept : store.get? path = some template) :
      Moves store path i (.resume i) .ready (.done (.ok template))
  | waits (absent : store.get? path = none) : Moves store path i (.resume i) .ready .queued
  | starts (absent : store.get? path = none) : Moves store path i (.resume i) .ready .fetching
  | isCalled {event : Event} (other : event.request ≠ i) : Moves store path i event .queued .called
  | served {template : Text} (kept : store.get? path = some template) :
      Moves store path i (.resume i) .called (.done (.ok template))
  | retries (absent : store.get? path = none) : Moves store path i (.resume i) .called .fetching
  | ends (outcome : FetchOutcome) :
      Moves store path i (.answer i outcome) .fetching (.done (store.settle path outcome).1)

/-- A step of one request moves it and no other. -/
theorem moves_setPhase {a : Phase} (turn : event.request = i) (at_i : g.At i path phase)
    (move : Moves g.store path i event phase next) (found : g.At j other a) :
    ∃ b, (g.setPhase i next).At j other b ∧ Moves g.store other j event a b := by
  by_cases same : j = i
  · subst same
    cases at_i.symm.trans found
    exact ⟨next, setPhase_self at_i, move⟩
  · exact ⟨a, (setPhase_other same).trans found, .stays (.inl (turn ▸ Ne.symm same))⟩

section

variable {template : Text} {outcome : FetchOutcome}

theorem resume_hit (at_i : g.At i path .ready) (kept : g.store.get? path = some template) :
    g.resume i = g.setPhase i (.done (.ok template)) := by
  simp [resume, at_i, kept]

theorem resume_wait (at_i : g.At i path .ready) (absent : g.store.get? path = none)
    (busy : g.isBusy path = true) :
    g.resume i = { g.setPhase i .queued with line := g.line ++ [i] } := by
  simp [resume, at_i, absent, busy]

theorem resume_start (at_i : g.At i path .ready) (absent : g.store.get? path = none)
    (idle : ¬ g.isBusy path = true) : g.resume i = g.setPhase i .fetching := by
  simp [resume, at_i, absent, idle]

theorem resume_serve (at_i : g.At i path .called) (kept : g.store.get? path = some template) :
    g.resume i =
      ({ g.setPhase i (.done (.ok template)) with line := g.line.erase i }).call path := by
  simp [resume, at_i, kept, setPhase]

theorem resume_retry (at_i : g.At i path .called) (absent : g.store.get? path = none) :
    g.resume i = { g.setPhase i .fetching with line := g.line.erase i } := by
  simp [resume, at_i, absent, setPhase]

theorem answer_end (at_i : g.At i path .fetching) : g.answer i outcome =
    ({ g.setPhase i (.done (g.store.settle path outcome).1) with
      store := (g.store.settle path outcome).2 }).call path := by
  simp [answer, at_i, setPhase]

end

/-- A step from a gathering to the next one that keeps it sound and moves each request as the
event allows. -/
structure Step (g : Gathering) (event : Event) (after : Gathering) : Prop where
  sound : Sound after
  moves : ∀ {j other a}, g.At j other a →
    ∃ b, after.At j other b ∧ Moves g.store other j event a b

/-- The others on the path of a holder hold nothing. -/
theorem Sound.others_free (h : Sound g) (at_i : g.At i path phase) (holds : phase.holds = true)
    (j : Nat) (a : Phase) (ne : j ≠ i) (found : g.At j path a) : a.holds = false := by
  cases held : a.holds with
  | false => rfl
  | true => exact absurd (h.alone found at_i held holds) ne

/-- A holder that is done passes its path on to the first in line. -/
theorem Sound.finish {result : Except Fault Text} {store : Store} {line : List Nat} (h : Sound g)
    (turn : event.request = i) (at_i : g.At i path phase) (holds : phase.holds = true)
    (move : Moves g.store path i event phase (.done result)) (nodup : line.Nodup)
    (others : ∀ j, j ≠ i → (j ∈ line ↔ j ∈ g.line)) (gone : i ∉ line)
    (absent : ∀ j other, j ≠ i → g.At j other .fetching → store.get? other = none) :
    Step g event (({ g.setPhase i (.done result) with store, line } : Gathering).call path) := by
  have sound : Sound { g.setPhase i (.done result) with store, line } :=
    h.change at_i nodup others (by simp [gone, Phase.inLine]) (by simp [Phase.holds]) absent
      (by simp)
  have self : (g.setPhase i (.done result)).At i path (.done result) := setPhase_self at_i
  have free (j : Nat) (a : Phase) (found : (g.setPhase i (.done result)).At j path a) :
      a.holds = false := by
    by_cases same : j = i
    · subst same
      cases self.symm.trans found
      rfl
    · exact h.others_free at_i holds j a same ((setPhase_other same).symm.trans found)
  obtain ⟨after, moved⟩ := sound.call free
  refine ⟨after, fun {j other a} found => ?_⟩
  by_cases same : j = i
  · subst same
    cases at_i.symm.trans found
    obtain stays | ⟨queued, -⟩ := moved j path _ self
    · exact ⟨_, stays, move⟩
    · cases queued
  · obtain stays | ⟨rfl, called⟩ := moved j other a ((setPhase_other same).trans found)
    · exact ⟨a, stays, .stays (.inl (turn ▸ Ne.symm same))⟩
    · exact ⟨.called, called, .isCalled (turn ▸ Ne.symm same)⟩

theorem Sound.resume_ready (h : Sound g) (at_i : g.At i path .ready) :
    Step g (.resume i) (g.resume i) := by
  have outside : i ∉ g.line := by simp [h.inLine at_i, Phase.inLine]
  cases kept : g.store.get? path with
  | some template =>
    rw [resume_hit at_i kept]
    exact ⟨h.change at_i h.nodup (fun _ _ => .rfl) (by simp [outside, Phase.inLine])
      (by simp [Phase.holds]) (fun j other _ => h.absent) (by simp),
      moves_setPhase rfl at_i (.hit kept)⟩
  | none =>
    by_cases busy : g.isBusy path = true
    · rw [resume_wait at_i kept busy]
      refine ⟨h.change at_i ?_ ?_ (by simp [Phase.inLine]) (by simp [Phase.holds])
        (fun j other _ => h.absent) (by simp), moves_setPhase rfl at_i (.waits kept)⟩
      · rw [List.nodup_append]
        refine ⟨h.nodup, by simp, ?_⟩
        rintro j member _ new rfl
        rw [List.mem_singleton] at new
        exact outside (new ▸ member)
      · intro j ne
        simp [ne]
    · rw [resume_start at_i kept busy]
      refine ⟨h.change at_i h.nodup (fun _ _ => .rfl) (by simp [outside, Phase.inLine]) ?_
        (fun j other _ => h.absent) (fun _ => kept), moves_setPhase rfl at_i (.starts kept)⟩
      intro _ j a _ found
      cases a with
      | fetching => exact absurd (isBusy_iff.2 ⟨j, _, found, .inl rfl⟩) busy
      | called => exact absurd (isBusy_iff.2 ⟨j, _, found, .inr rfl⟩) busy
      | ready | queued | done => rfl

theorem Sound.resume_called (h : Sound g) (at_i : g.At i path .called) :
    Step g (.resume i) (g.resume i) := by
  have others (j : Nat) (ne : j ≠ i) : j ∈ g.line.erase i ↔ j ∈ g.line :=
    List.mem_erase_of_ne ne
  have gone : i ∉ g.line.erase i := h.nodup.not_mem_erase
  cases kept : g.store.get? path with
  | some template =>
    rw [resume_serve at_i kept]
    exact h.finish rfl at_i rfl (.served kept) (h.nodup.erase i) others gone fun j other _ =>
      h.absent
  | none =>
    rw [resume_retry at_i kept]
    exact ⟨h.change at_i (h.nodup.erase i) others (by simp [gone, Phase.inLine])
      (fun _ => h.others_free at_i rfl) (fun j other _ => h.absent) (fun _ => kept),
      moves_setPhase rfl at_i (.retries kept)⟩

theorem Sound.answer_fetching (h : Sound g) (outcome : FetchOutcome)
    (at_i : g.At i path .fetching) : Step g (.answer i outcome) (g.answer i outcome) := by
  have outside : i ∉ g.line := by simp [h.inLine at_i, Phase.inLine]
  rw [answer_end at_i]
  refine h.finish rfl at_i rfl (.ends outcome) h.nodup (fun _ _ => .rfl) outside ?_
  intro j other ne found
  rw [Store.get?_settle_of_ne]
  · exact h.absent found
  · rintro rfl
    exact ne (h.alone found at_i rfl rfl)

/-- Every step keeps a gathering sound and moves each request as the event allows. -/
theorem Sound.step (h : Sound g) (event : Event) : Step g event (g.step event) := by
  have idle (same : g.step event = g)
      (rests : ∀ path phase, g.At event.request path phase → event.moves phase = false) :
      Step g event (g.step event) := by
    rw [same]
    refine ⟨h, fun {j other a} found => ⟨a, found, .stays ?_⟩⟩
    by_cases turn : event.request = j
    · exact .inr (rests other a (turn ▸ found))
    · exact .inl turn
  cases event with
  | resume i =>
    cases at_i : g.requests[i]? with
    | none =>
      exact idle (by simp [Gathering.step, resume, at_i]) (by simp [At, Event.request, at_i])
    | some request =>
      obtain ⟨path, phase⟩ := request
      cases phase with
      | ready => exact h.resume_ready at_i
      | called => exact h.resume_called at_i
      | queued | fetching | done =>
        exact idle (by simp [Gathering.step, resume, at_i])
          (by simp [At, Event.request, at_i, Event.moves])
  | answer i outcome =>
    cases at_i : g.requests[i]? with
    | none =>
      exact idle (by simp [Gathering.step, answer, at_i]) (by simp [At, Event.request, at_i])
    | some request =>
      obtain ⟨path, phase⟩ := request
      cases phase with
      | fetching => exact h.answer_fetching outcome at_i
      | ready | queued | called | done =>
        exact idle (by simp [Gathering.step, answer, at_i])
          (by simp [At, Event.request, at_i, Event.moves])

/-! ## the store in a step -/

theorem resume_store : (g.resume i).store = g.store := by
  unfold resume
  split
  · rfl
  · split
    · split
      · rfl
      · split <;> rfl
    · dsimp only
      split
      · rw [call_store]
        rfl
      · rfl
    · rfl

theorem answer_store (g : Gathering) (i : Nat) (outcome : FetchOutcome) :
    (g.answer i outcome).store = g.store ∨ ∃ path, g.At i path .fetching ∧
      (g.answer i outcome).store = (g.store.settle path outcome).2 := by
  unfold answer
  split
  · rename_i path at_i
    exact .inr ⟨path, at_i, by rw [call_store]; rfl⟩
  · exact .inl rfl

/-- Only the end of a fetch changes the store. -/
theorem step_store (g : Gathering) (event : Event) : (g.step event).store = g.store ∨
    ∃ i path outcome, event = .answer i outcome ∧ g.At i path .fetching ∧
      (g.step event).store = (g.store.settle path outcome).2 := by
  cases event with
  | resume i => exact .inl resume_store
  | answer i outcome =>
    obtain same | ⟨path, at_i, settled⟩ := answer_store g i outcome
    · exact .inl same
    · exact .inr ⟨i, path, outcome, rfl, at_i, settled⟩

theorem step_kept {template : Text} (kept : g.store.get? path = some template) :
    (g.step event).store.get? path = some template := by
  obtain same | ⟨i, _, outcome, -, -, settled⟩ := step_store g event
  · rw [same, kept]
  · rw [settled, Store.get?_settle_of_kept kept]

theorem step_fallback : (g.step event).store.fallback = g.store.fallback := by
  obtain same | ⟨i, _, outcome, -, -, settled⟩ := step_store g event
  · rw [same]
  · rw [settled]
    cases outcome <;> rfl

/-! ## runs -/

/-- The gathering after some steps. -/
def after (g : Gathering) (events : List Event) : Gathering := events.foldl Gathering.step g

@[simp, grind =] theorem after_cons (g : Gathering) (event : Event) (events : List Event) :
    g.after (event :: events) = (g.step event).after events := rfl

theorem Sound.after (h : Sound g) (events : List Event) : Sound (g.after events) := by
  induction events generalizing g with
  | nil => exact h
  | cons event events ih => exact ih (h.step event).sound

theorem after_kept {template : Text} (kept : g.store.get? path = some template)
    (events : List Event) : (g.after events).store.get? path = some template := by
  induction events generalizing g with
  | nil => exact kept
  | cons event events ih => exact ih (step_kept kept)

@[simp] theorem after_fallback (g : Gathering) (events : List Event) :
    (g.after events).store.fallback = g.store.fallback := by
  induction events generalizing g with
  | nil => rfl
  | cons event events ih => rw [after_cons, ih, step_fallback]

end Gathering

end Template

end ChatTranscript

import ChatTranscript.Proofs.Chatroom.Reports

/-!
# The phases of a chatroom render

A chatroom is loaded, rendered and handed to a target. Loading and rendering can be looked at by
themselves: what they come to decides whether the target is given anything, and nothing else does.
Timing only writes to its log.

## Main definitions

* `Chatroom.draw`: loading and rendering, without a target and without a clock.
* `Target.noting`: a target that keeps notes of what it is given.

## Main statements

* `Chatroom.render_outcome`: a render is loading and rendering, and then a delivery.
* `Chatroom.render_writes_once`: the target is given the markup once, or nothing.
-/

namespace ChatTranscript

variable {σ τ : Type}

/-- The target, with notes of the markup that it is given. -/
def Target.noting (target : Target τ) : Target (τ × List Text) := fun styles markup (sink, notes) =>
  let (taken, sink) := target styles markup sink
  (taken, sink, notes ++ [markup])

namespace Chatroom

variable (room : Chatroom) (load : Fetcher σ) (renderer : Renderer σ) (target : Target τ)
  (session : Session σ) (sink : τ) (log : Timing.Log)

/-- Loads the transcript and renders it. -/
def draw : Except Fault Text × Session σ :=
  match Transcript.load load room.source session.source with
  | (.error fault, source) => (.error fault, { session with source })
  | (.ok records, source) =>
    renderer.container room.view room.title records { session with source }

/-- Gives what was drawn to a target, if it is markup. -/
def deliver : Except Fault Text × Session σ → Except Fault Text × Session σ × τ
  | (.error fault, session) => (.error fault, session, sink)
  | (.ok markup, session) =>
    ((target session.store.styles markup sink).1.map fun () => markup, session,
      (target session.store.styles markup sink).2)

/-- What a run comes to, without its log. -/
def outcome (ended : Except Fault Text × Run σ τ) : Except Fault Text × Session σ × τ :=
  (ended.1, ended.2.session, ended.2.target)

/-- With all reports taken, the phases before the target come to what is drawn. -/
theorem drawOn_takesAll (start : Binary64) :
    outcome (room.drawOn .takesAll load renderer start ⟨session, sink, log⟩) =
      ((room.draw load renderer session).1, (room.draw load renderer session).2, sink) := by
  unfold drawOn draw
  simp only [Run.phase_takesAll, loadStep]
  rcases Transcript.load load room.source session.source with ⟨fault | records, source⟩
  · rfl
  · rfl

theorem render_outcome : outcome (room.render load renderer target ⟨session, sink, log⟩) =
    deliver target sink (room.draw load renderer session) := by
  unfold render renderOn
  simp only [Run.phase_takesAll]
  have drew := drawOn_takesAll room load renderer session sink log.now.2 log.now.1
  generalize room.drawOn .takesAll load renderer log.now.1 ⟨session, sink, log.now.2⟩ = ended,
    room.draw load renderer session = drawn at drew ⊢
  obtain ⟨fault | markup, last⟩ := ended
  all_goals
    obtain ⟨answer, after⟩ := drawn
    cases drew
  · rfl
  · simp only [writeStep, deliver]
    rcases target last.session.store.styles markup last.target with ⟨fault | _, sink⟩
    · rfl
    · rfl

/-- Whatever comes of the reports, the target is given what was drawn, if it is markup. -/
theorem target_renderOn (console : Console) (run : Run σ τ) :
    let drawn := room.drawOn console load renderer run.log.now.1 { run with log := run.log.now.2 }
    (room.renderOn console load renderer target run).2.target =
      (deliver target run.target (drawn.1, drawn.2.session)).2.2 := by
  intro drawn
  have kept : drawn.2.target = run.target := target_drawOn
  rcases drew : drawn with ⟨fault | markup, last⟩
  all_goals
    rw [drew] at kept
    replace drew : room.drawOn console load renderer run.log.now.1
      { run with log := run.log.now.2 } = _ := drew
    simp only [renderOn, drew]
  · exact kept
  · rw [deliver, ← kept]
    rcases written : last.phase console writePhase run.log.now.1 (writeStep target markup) with
      ⟨fault | _, sink⟩
    all_goals exact (congrArg (·.2.target) written).symm

variable {room load renderer target session sink log} {markup : Text} {fault : Fault}
  {after : Session σ}

theorem draw_of_unloaded {source : σ}
    (unloaded : Transcript.load load room.source session.source = (.error fault, source)) :
    room.draw load renderer session = (.error fault, { session with source }) := by
  rw [draw, unloaded]

theorem deliver_of_error {drawn : Except Fault Text × Session σ} (failed : drawn.1 = .error fault) :
    deliver target sink drawn = (.error fault, drawn.2, sink) := by
  obtain ⟨answer, after⟩ := drawn
  cases failed
  rfl

theorem deliver_of_ok {drawn : Except Fault Text × Session σ} (shown : drawn.1 = .ok markup) :
    deliver target sink drawn =
      ((target drawn.2.store.styles markup sink).1.map fun () => markup, drawn.2,
        (target drawn.2.store.styles markup sink).2) := by
  obtain ⟨answer, after⟩ := drawn
  cases shown
  rfl

theorem deliver_noting (drawn : Except Fault Text × Session σ) (notes : List Text) :
    deliver target.noting (sink, notes) drawn =
      ((deliver target sink drawn).1, (deliver target sink drawn).2.1,
        (deliver target sink drawn).2.2, notes ++ drawn.1.toOption.toList) := by
  obtain ⟨fault | markup, after⟩ := drawn
  · simp [deliver, Except.toOption]
  · rfl

theorem deliver_eq_ok {drawn : Except Fault Text × Session σ} {last : τ}
    (returns : deliver target sink drawn = (.ok markup, after, last)) :
    drawn = (.ok markup, after) ∧ target after.store.styles markup sink = (.ok (), last) := by
  obtain ⟨fault | shown, session⟩ := drawn
  · cases returns
  · rw [deliver] at returns
    rcases taken : target session.store.styles shown sink with ⟨fault | _, sink⟩
    · rw [taken] at returns
      cases returns
    · rw [taken] at returns
      cases returns
      exact ⟨rfl, taken⟩

/-- A render returns what was drawn, and the target has taken it. -/
theorem render_eq_ok {run ended : Run σ τ}
    (returns : room.render load renderer target run = (.ok markup, ended)) :
    room.draw load renderer run.session = (.ok markup, ended.session) ∧
      target ended.session.store.styles markup run.target = (.ok (), ended.target) := by
  have delivered := render_outcome room load renderer target run.session run.target run.log
  rw [returns] at delivered
  exact deliver_eq_ok delivered.symm

/-- What was drawn is returned, with any log, if the target takes it. -/
theorem render_of_draw {last : τ} (shown : room.draw load renderer session = (.ok markup, after))
    (taken : target after.store.styles markup sink = (.ok (), last)) (log : Timing.Log) :
    ∃ ended, room.render load renderer target ⟨session, sink, log⟩ = (.ok markup, ended) ∧
      ended.session = after ∧ ended.target = last := by
  have delivered := render_outcome room load renderer target session sink log
  rw [shown, deliver, taken] at delivered
  rcases rendered : room.render load renderer target ⟨session, sink, log⟩ with ⟨answer, ended⟩
  rw [rendered] at delivered
  cases delivered
  exact ⟨ended, rfl, rfl, rfl⟩

@[simp] theorem deliver_session (drawn : Except Fault Text × Session σ) :
    (deliver target sink drawn).2.1 = drawn.2 := by
  obtain ⟨fault | markup, after⟩ := drawn <;> rfl

/-- A chatroom is rendered in three phases. Loading and rendering decide what the target is given:
their markup, once, which is then the answer unless the target refuses it; or nothing, and then
their fault is the answer. A fault in loading leaves the session as it was, but for the fetcher. The
answer, the session and the target are the same for every log, timed or not. A slot always takes the
markup, and keeps it unless it is detached. -/
theorem render_writes_once (room : Chatroom) (load : Fetcher σ) (renderer : Renderer σ)
    (target : Target τ) (session : Session σ) (sink : τ) (log : Timing.Log) :
    let drawn := room.draw load renderer session
    let ended := room.render load renderer target.noting ⟨session, (sink, []), log⟩
    ended.2.session = drawn.2 ∧
    ended.2.target.2 = drawn.1.toOption.toList ∧
    (∀ markup, ended.1 = .ok markup → ended.2.target.2 = [markup]) ∧
    (∀ fault, drawn.1 = .error fault → ended.1 = .error fault ∧ ended.2.target.1 = sink) ∧
    (∀ markup, drawn.1 = .ok markup →
      ended.1 = (target drawn.2.store.styles markup sink).1.map (fun () => markup) ∧
      ended.2.target.1 = (target drawn.2.store.styles markup sink).2) ∧
    (∀ fault source, Transcript.load load room.source session.source = (.error fault, source) →
      drawn.1 = .error fault ∧ drawn.2 = { session with source }) ∧
    (∀ other, outcome (room.render load renderer target ⟨session, sink, other⟩) =
      (ended.1, ended.2.session, ended.2.target.1)) ∧
    ∀ slot markup, drawn.1 = .ok markup →
      outcome (room.render load renderer Slot.target ⟨session, slot, log⟩) =
        (.ok markup, drawn.2,
          if slot.detached then slot else { slot with markup := some markup }) := by
  intro drawn ended
  have delivered : outcome ended = deliver target.noting (sink, []) drawn := render_outcome ..
  rw [deliver_noting] at delivered
  have answer : ended.1 = (deliver target sink drawn).1 := congrArg Prod.fst delivered
  have state : ended.2.session = drawn.2 :=
    (congrArg (·.2.1) delivered).trans (deliver_session drawn)
  have notes : ended.2.target.2 = drawn.1.toOption.toList := congrArg (·.2.2.2) delivered
  have taken : ended.2.target.1 = (deliver target sink drawn).2.2 :=
    congrArg (·.2.2.1) delivered
  refine ⟨state, notes, fun markup returns => ?_, fun fault failed => ?_, fun markup shown => ?_,
    fun fault source unloaded => ?_, fun other => ?_, fun slot markup shown => ?_⟩
  · have delivered : deliver target sink drawn = (.ok markup, _, _) :=
      Prod.ext (answer ▸ returns) rfl
    rw [notes, (deliver_eq_ok delivered).1]
    rfl
  · rw [answer, taken, deliver_of_error failed]
    exact ⟨rfl, rfl⟩
  · rw [answer, taken, deliver_of_ok shown]
    exact ⟨rfl, rfl⟩
  · exact Prod.mk.inj (draw_of_unloaded unloaded)
  · rw [render_outcome, answer, state, taken, ← deliver_session drawn]
  · rw [render_outcome, deliver_of_ok shown]
    rfl

end Chatroom

end ChatTranscript

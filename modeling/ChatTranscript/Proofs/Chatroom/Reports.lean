import ChatTranscript.Chatroom.Run

/-!
# Reports on phases

A timed phase prints a report when it ends. While the console takes the reports, all phases end with
outcomes of their own, and the log is the one on a console that takes everything. A report that is
refused ends the run with a fault.

## Main definitions

* `Console.Takes`: the console takes these lines, one after the other.
* `Timing.Log.reports`: the reports on phases, each of them taken.

## Main statements

* `Timing.Log.phase_eq_ok`: when a phase ends well.
* `Chatroom.drawOn_eq_ok`: when a transcript is loaded and rendered.
* `Chatroom.renderOn_eq_ok`: when a render ends well.
-/

namespace ChatTranscript

/-! ## consoles -/

/-- The console takes these lines, one after the other. -/
def Console.Takes (console : Console) : Text → List Text → Prop
  | _, [] => True
  | printed, line :: lines => console printed line = .ok () ∧ console.Takes (printed ++ line) lines

namespace Console

variable {console : Console} {printed line : Text} {lines more : List Text}

@[simp] theorem takes_nil : console.Takes printed [] := trivial

@[simp] theorem takes_singleton : console.Takes printed [line] ↔ console printed line = .ok () :=
  and_iff_left trivial

@[simp] theorem takes_append : console.Takes printed (lines ++ more) ↔
    console.Takes printed lines ∧ console.Takes (printed ++ lines.flatten) more := by
  induction lines generalizing printed with
  | nil => simp
  | cons line lines ih =>
    rw [List.cons_append, Takes, Takes, ih, and_assoc, List.flatten_cons, List.append_assoc]

end Console

/-! ## logs -/

namespace Timing.Log

variable {α : Type} {console : Console} {name : Text} {names more : List Text}
  {start : Option Binary64} {outcome : Except Fault α} {value : α} {log last : Log}

/-- The log once a phase has ended and its report is taken. -/
def after (name : Text) (start : Option Binary64) (log : Log) : Log :=
  (log.phase .takesAll name start (.ok ())).2

/-- The log once phases of these names have ended. -/
def afterAll (start : Option Binary64) (names : List Text) (log : Log) : Log :=
  names.foldl (fun log name => log.after name start) log

/-- The report on a phase, if phases are timed. -/
def reportOn (name : Text) (start : Option Binary64) (log : Log) : List Text :=
  if log.enabled then [report name log.now.1 log.now.2.now.1 start] else []

/-- The reports on phases of these names, each of them taken. -/
def reports (start : Option Binary64) : List Text → Log → List Text
  | [], _ => []
  | name :: names, log => log.reportOn name start ++ (log.after name start).reports start names

@[simp] theorem reports_singleton : log.reports start [name] = log.reportOn name start :=
  List.append_nil _

@[simp] theorem afterAll_append :
    log.afterAll start (names ++ more) = (log.afterAll start names).afterAll start more :=
  List.foldl_append

@[simp] theorem reports_append : log.reports start (names ++ more) =
    log.reports start names ++ (log.afterAll start names).reports start more := by
  induction names generalizing log with
  | nil => rfl
  | cons name names ih =>
    rw [List.cons_append, reports, ih, reports, List.append_assoc]
    rfl

theorem lines_after :
    (log.after name start).lines = log.lines ++ (log.reportOn name start).flatten := by
  cases timed : log.enabled <;> simp [reportOn, after, phase, timed, print, Console.takesAll, now]

theorem lines_afterAll :
    (log.afterAll start names).lines = log.lines ++ (log.reports start names).flatten := by
  induction names generalizing log with
  | nil => exact (List.append_nil _).symm
  | cons name names ih =>
    rw [reports, List.flatten_append, ← List.append_assoc, ← lines_after]
    exact ih

/-- The reports on some phases and then on others are taken if the first ones are, and then the
others behind them. -/
theorem takes_reports_append : console.Takes log.lines (log.reports start (names ++ more)) ↔
    console.Takes log.lines (log.reports start names) ∧
      console.Takes (log.afterAll start names).lines
        ((log.afterAll start names).reports start more) := by
  rw [reports_append, Console.takes_append, lines_afterAll]

/-- A text is printed if the console takes it. -/
theorem print_eq_ok {text : Text} : log.print console text = (.ok (), last) ↔
    console log.lines text = .ok () ∧ last = { log with lines := log.lines ++ text } := by
  unfold print
  cases console log.lines text <;> simp [eq_comm]

/-- A phase ends well if its outcome is good and its report is taken. -/
theorem phase_eq_ok : log.phase console name start outcome = (.ok value, last) ↔
    outcome = .ok value ∧ console.Takes log.lines (log.reportOn name start) ∧
      last = log.after name start := by
  cases timed : log.enabled with
  | false => simp [phase, reportOn, after, timed, eq_comm]
  | true =>
    cases printed : console log.lines (report name log.clock.read.1 log.clock.read.2.read.1 start)
    all_goals
      simp [phase, reportOn, after, print, Console.takesAll, timed, now, printed, Except.bind,
        eq_comm]

/-- With all reports taken a phase ends with its own outcome. -/
theorem phase_takesAll :
    log.phase .takesAll name start outcome = (outcome, log.after name start) := by
  cases timed : log.enabled <;> simp [phase, after, print, Console.takesAll, timed, Except.bind]

end Timing.Log

/-! ## renders -/

variable {σ τ : Type} {console : Console} {name : Text} {start : Binary64} {run ended : Run σ τ}

namespace Run

variable {α : Type} {step : Run σ τ → Except Fault α × Run σ τ} {value : α}

theorem phase_takesAll : run.phase .takesAll name start step =
    ((step run).1, { (step run).2 with log := (step run).2.log.after name (some start) }) := by
  unfold phase
  simp only [Timing.Log.phase_takesAll]

theorem phase_eq_ok : run.phase console name start step = (.ok value, ended) ↔
    ∃ middle, step run = (.ok value, middle) ∧
      console.Takes middle.log.lines (middle.log.reportOn name (some start)) ∧
      ended = { middle with log := middle.log.after name (some start) } := by
  unfold phase
  rcases step run with ⟨outcome, middle⟩
  dsimp only
  rcases phased : middle.log.phase console name (some start) outcome with ⟨outcome', log⟩
  constructor
  · rintro ⟨⟩
    obtain ⟨rfl, taken, rfl⟩ := Timing.Log.phase_eq_ok.1 phased
    exact ⟨middle, rfl, taken, rfl⟩
  · rintro ⟨_, ⟨⟩, taken, rfl⟩
    cases phased.symm.trans (Timing.Log.phase_eq_ok.2 ⟨rfl, taken, rfl⟩)
    rfl

end Run

namespace Chatroom

variable {room : Chatroom} {load : Fetcher σ} {renderer : Renderer σ} {target : Target τ}
  {markup : Text} {records : List Record}

theorem loadStep_eq_ok : room.loadStep load run = (.ok records, ended) ↔
    ∃ source, Transcript.load load room.source run.session.source = (.ok records, source) ∧
      ended = { run with session := { run.session with source } } := by
  unfold loadStep
  rcases Transcript.load load room.source run.session.source with ⟨read, source⟩
  simp [and_assoc, eq_comm]

theorem renderStep_eq_ok : room.renderStep renderer records run = (.ok markup, ended) ↔
    ∃ session,
      renderer.container room.view room.title records run.session = (.ok markup, session) ∧
      ended = { run with session } := by
  unfold renderStep
  rcases renderer.container room.view room.title records run.session with ⟨shown, session⟩
  simp [and_assoc, eq_comm]

theorem writeStep_eq_ok : writeStep target markup run = (.ok (), ended) ↔
    ∃ sink, target run.session.store.styles markup run.target = (.ok (), sink) ∧
      ended = { run with target := sink } := by
  unfold writeStep
  rcases target run.session.store.styles markup run.target with ⟨taken, sink⟩
  simp [and_assoc, eq_comm]

/-- The phases before the markup is handed to the target. -/
def drawPhases (count : Nat) : List Text := [loadPhase, renderPhase count]

/-- A transcript is drawn if it is loaded and rendered, and the console takes the reports. -/
theorem drawOn_eq_ok : room.drawOn console load renderer start run = (.ok markup, ended) ↔
    ∃ records source session,
      Transcript.load load room.source run.session.source = (.ok records, source) ∧
      renderer.container room.view room.title records { run.session with source } =
        (.ok markup, session) ∧
      console.Takes run.log.lines (run.log.reports (some start) (drawPhases records.length)) ∧
      ended = ⟨session, run.target, run.log.afterAll (some start) (drawPhases records.length)⟩ := by
  let first := run.log.after loadPhase (some start)
  have both (count : Nat) :
      console.Takes run.log.lines
          (run.log.reports (some start) ([loadPhase] ++ [renderPhase count])) ↔
        console.Takes run.log.lines (run.log.reports (some start) [loadPhase]) ∧
          console.Takes first.lines (first.reports (some start) [renderPhase count]) :=
    Timing.Log.takes_reports_append
  unfold drawOn
  constructor
  · intro drawn
    split at drawn
    · cases drawn
    rename_i records _ loaded
    obtain ⟨_, step, tookFirst, rfl⟩ := Run.phase_eq_ok.1 loaded
    obtain ⟨source, read, rfl⟩ := loadStep_eq_ok.1 step
    obtain ⟨_, step, tookSecond, rfl⟩ := Run.phase_eq_ok.1 drawn
    obtain ⟨session, shown, rfl⟩ := renderStep_eq_ok.1 step
    exact ⟨records, source, session, read, shown,
      (both records.length).2 (by simpa using ⟨tookFirst, tookSecond⟩), rfl⟩
  · rintro ⟨records, source, session, read, shown, took, rfl⟩
    obtain ⟨tookFirst, tookSecond⟩ := (both records.length).1 took
    rw [Timing.Log.reports_singleton] at tookFirst tookSecond
    rw [Run.phase_eq_ok.2 ⟨_, loadStep_eq_ok.2 ⟨source, read, rfl⟩, tookFirst, rfl⟩]
    exact Run.phase_eq_ok.2 ⟨_, renderStep_eq_ok.2 ⟨session, shown, rfl⟩, tookSecond, rfl⟩

@[simp] theorem target_drawOn :
    (room.drawOn console load renderer start run).2.target = run.target := by
  unfold drawOn
  rcases loaded : run.phase console loadPhase start (room.loadStep load) with
    ⟨fault | records, ended⟩
  all_goals exact (congrArg (·.2.target) loaded).symm

/-- A render ends well if the transcript is drawn, the target takes the markup, and the console
takes the report on that. -/
theorem renderOn_eq_ok : room.renderOn console load renderer target run = (.ok markup, ended) ↔
    ∃ drawn sink,
      room.drawOn console load renderer run.log.now.1 { run with log := run.log.now.2 } =
        (.ok markup, drawn) ∧
      target drawn.session.store.styles markup drawn.target = (.ok (), sink) ∧
      console.Takes drawn.log.lines (drawn.log.reportOn writePhase (some run.log.now.1)) ∧
      ended = ⟨drawn.session, sink, drawn.log.after writePhase (some run.log.now.1)⟩ := by
  unfold renderOn
  dsimp only
  constructor
  · intro ends
    split at ends
    · cases ends
    rename_i shown drawn drew
    split at ends
    · cases ends
    rename_i _ written
    cases ends
    obtain ⟨_, step, took, rfl⟩ := Run.phase_eq_ok.1 written
    obtain ⟨sink, taken, rfl⟩ := writeStep_eq_ok.1 step
    exact ⟨drawn, sink, drew, taken, took, rfl⟩
  · rintro ⟨drawn, sink, drew, taken, took, rfl⟩
    rw [drew]
    dsimp only
    rw [Run.phase_eq_ok.2 ⟨_, writeStep_eq_ok.2 ⟨sink, taken, rfl⟩, took, rfl⟩]

end Chatroom

end ChatTranscript

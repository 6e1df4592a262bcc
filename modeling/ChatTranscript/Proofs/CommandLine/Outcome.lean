import ChatTranscript.CommandLine.Command
import ChatTranscript.Proofs.Chatroom.Page
import ChatTranscript.Proofs.Fetch.Locations

/-!
# What a command line leaves

A command line that asks for a page has its transcript loaded and rendered, and the page written.
Three things are left after that, and each of them can still fail the run: the report on the write,
closing the fetcher, and telling what was rendered. The page stays then. A run that fails before
leaves all files as they were.

## Main definitions

* `CommandLine.Asks`: a command line that asks for a page.
* `CommandLine.Conversion`: all that is loaded, rendered and written for a command line.
* `Conversion.Writes`, `Conversion.Closes`, `Conversion.Tells`: what else it takes.

## Main statements

* `CommandLine.conversion_of_run`: behind exit code 0 stands a conversion.
* `CommandLine.run_all_or_nothing`: when a run ends well, and what it leaves if not.
* `CommandLine.run_not_all_or_nothing`: a run that fails and leaves its page.
-/

namespace ChatTranscript

namespace CommandLine

/-- The command line asks for a chatroom and for the path of its page. -/
def Asks (templatesUrl : Text) (words : List Text) (invocation : Invocation) (room : Chatroom)
    (output : FilePath) : Prop :=
  Invocation.ofArguments words = .ok invocation ∧ invocation.plan templatesUrl = .ok (room, output)

/-- All that is loaded, rendered and written for a command line, from a fresh session to the disk
with the page. -/
structure Conversion {σ : Type} (fetch : Fetcher σ) (surroundings : Surroundings σ)
    (words : List Text) (source : σ) (disk : Disk) where
  invocation : Invocation
  room : Chatroom
  output : FilePath
  records : List Record
  loaded : σ
  markup : Text
  session : Session σ
  after : Disk
  asks : Asks surroundings.templatesUrl words invocation room output
  load : Transcript.load fetch room.source source = (.ok records, loaded)
  render : (surroundings.renderer room fetch).container room.view room.title records
    (.fresh [] Template.fallback loaded) = (.ok markup, session)
  write : (room.pageFile output).target session.store.styles markup disk = (.ok (), after)

variable {σ τ : Type} {fetch : Fetcher σ} {surroundings : Surroundings σ} {words : List Text}
  {source : σ} {disk : Disk}

/-- The reports of a run on phases of these names. -/
def Surroundings.reports (surroundings : Surroundings σ) (phases : List Text) : List Text :=
  surroundings.log.now.2.reports (some surroundings.log.now.1) phases

namespace Conversion

variable (done : Conversion fetch surroundings words source disk)

/-- Standard output takes the reports on loading and rendering. -/
def Writes : Prop :=
  surroundings.console.Takes [] (surroundings.reports (Chatroom.drawPhases done.records.length))

/-- The fetcher can be closed in the end. -/
def Closes : Prop := (surroundings.close done.session.source).1 = .ok ()

/-- Standard output takes all three reports, and then what is told. -/
def Tells : Prop :=
  surroundings.console.Takes [] <|
    surroundings.reports (Chatroom.drawPhases done.records.length ++ [Chatroom.writePhase]) ++
      [unstyled (successLine done.invocation.source done.output)]

end Conversion

/-! ## runs and conversions -/

section

variable {target : PageFile → Target τ} {sink : τ} {invocation : Invocation} {room : Chatroom}
  {output : FilePath}

/-- A command line that asks for no page fails, and nothing is fetched or written. -/
theorem asks_or_fails (fetch : Fetcher σ) (target : PageFile → Target τ)
    (surroundings : Surroundings σ) (words : List Text) (source : σ) (sink : τ) :
    (∃ invocation room output, Asks surroundings.templatesUrl words invocation room output) ∨
      (run fetch target surroundings words source sink).1.exit ≠ 0 ∧
        (run fetch target surroundings words source sink).2 = (source, sink) := by
  unfold run
  cases parsed : Invocation.ofArguments words with
  | error fault => exact .inr ⟨Nat.succ_ne_zero 1, rfl⟩
  | ok invocation =>
    cases planned : invocation.plan surroundings.templatesUrl with
    | error fault =>
      dsimp only
      rw [planned]
      exact .inr ⟨Nat.succ_ne_zero 0, rfl⟩
    | ok pair => exact .inl ⟨invocation, pair.1, pair.2, parsed, planned⟩

/-- Telling is the last that can fail. -/
theorem exit_tell {message : Text} {log : Timing.Log} {answer : Except Fault Text} :
    (surroundings.tell message log answer).exit = 0 ↔
      ∃ markup, answer = .ok markup ∧
        surroundings.console log.lines (unstyled message) = .ok () := by
  cases answer with
  | error fault => simp [Surroundings.tell, Outcome.failure]
  | ok markup =>
    rcases told : log.print surroundings.console (unstyled message) with ⟨fault | _, last⟩
    · have refused : surroundings.console log.lines (unstyled message) ≠ .ok () := fun taken => by
        cases told.symm.trans (Timing.Log.print_eq_ok.2 ⟨taken, rfl⟩)
      simp [Surroundings.tell, told, Outcome.failure, refused]
    · simp [Surroundings.tell, told, (Timing.Log.print_eq_ok.1 told).1]

/-- A command line that asks for a page ends as the conversion of the chatroom does, once that is
told. -/
theorem run_of_asks (asks : Asks surroundings.templatesUrl words invocation room output) :
    let converted := convert fetch (target (room.pageFile output)) surroundings room source sink
    run fetch target surroundings words source sink =
      (surroundings.tell (successLine invocation.source output) converted.2.log converted.1,
        converted.2.session.source, converted.2.target) := by
  obtain ⟨parsed, planned⟩ := asks
  unfold run
  rw [parsed]
  dsimp only
  rw [planned]

theorem convert_eq_ok {target : Target τ} {markup : Text} {last : Run σ τ} :
    convert fetch target surroundings room source sink = (.ok markup, last) ↔
      ∃ ended closed,
        room.renderOn surroundings.console fetch (surroundings.renderer room fetch) target
          (surroundings.start source sink) = (.ok markup, ended) ∧
        surroundings.close ended.session.source = (.ok (), closed) ∧
        last = { ended with session := { ended.session with source := closed } } := by
  unfold convert
  rcases room.renderOn _ _ _ _ _ with ⟨answer, ended⟩
  rcases closing : surroundings.close ended.session.source with ⟨fault | _, closed⟩
  · simp [closing, Except.bind]
  · simp [closing, Except.bind, and_assoc, eq_comm]

end

/-- What is drawn for a chatroom, with the reports on that. -/
def Surroundings.draws (surroundings : Surroundings σ) (fetch : Fetcher σ) (room : Chatroom)
    (run : Run σ τ) : Except Fault Text × Run σ τ :=
  room.drawOn surroundings.console fetch (surroundings.renderer room fetch) run.log.now.1
    { run with log := run.log.now.2 }

namespace Conversion

variable (done : Conversion fetch surroundings words source disk)

/-- The log of the run when the page is to be written. -/
def log : Timing.Log :=
  surroundings.log.now.2.afterAll (some surroundings.log.now.1)
    (Chatroom.drawPhases done.records.length)

theorem tells_iff : done.Tells ↔
    done.Writes ∧
      surroundings.console.Takes done.log.lines
        (done.log.reportOn Chatroom.writePhase (some surroundings.log.now.1)) ∧
      surroundings.console (done.log.after Chatroom.writePhase (some surroundings.log.now.1)).lines
        (unstyled (successLine done.invocation.source done.output)) = .ok () := by
  -- nothing is printed before the first report
  have silent : surroundings.log.now.2.lines = [] := rfl
  unfold Tells Writes Surroundings.reports
  rw [Console.takes_append, Console.takes_singleton, ← silent, ← Timing.Log.lines_afterAll,
    Timing.Log.takes_reports_append, Timing.Log.reports_singleton, Timing.Log.afterAll_append,
    and_assoc]
  rfl

theorem draws_of_writes (writes : done.Writes) :
    surroundings.draws fetch done.room (surroundings.start source disk) =
      (.ok done.markup, ⟨done.session, disk, done.log⟩) :=
  Chatroom.drawOn_eq_ok.2
    ⟨done.records, done.loaded, done.session, done.load, done.render, writes, rfl⟩

theorem draw : done.room.draw fetch (surroundings.renderer done.room fetch)
    (.fresh [] Template.fallback source) = (.ok done.markup, done.session) := by
  have load : Transcript.load fetch done.room.source
      (Session.fresh [] Template.fallback source).source = (.ok done.records, done.loaded) :=
    done.load
  rw [Chatroom.draw, load]
  exact done.render

/-- The page is written once the reports on loading and rendering are taken. -/
theorem after_of_writes (writes : done.Writes) :
    (run fetch PageFile.target surroundings words source disk).2.2 = done.after := by
  have drew := done.draws_of_writes writes
  rw [run_of_asks done.asks]
  change (done.room.renderOn surroundings.console fetch (surroundings.renderer done.room fetch)
    (done.room.pageFile done.output).target (surroundings.start source disk)).2.target = done.after
  rw [Chatroom.target_renderOn]
  change (Chatroom.deliver _ _ ((surroundings.draws fetch done.room _).1,
    (surroundings.draws fetch done.room _).2.session)).2.2 = done.after
  rw [drew, Chatroom.deliver_of_ok rfl]
  exact congrArg Prod.snd done.write

/-- What is converted, closed and told ends well. -/
theorem exit_of_tells (closes : done.Closes) (tells : done.Tells) :
    (run fetch PageFile.target surroundings words source disk).1.exit = 0 := by
  obtain ⟨writes, took, told⟩ := done.tells_iff.1 tells
  have rendered : done.room.renderOn surroundings.console fetch
      (surroundings.renderer done.room fetch) (done.room.pageFile done.output).target
      (surroundings.start source disk) = (.ok done.markup, _) :=
    Chatroom.renderOn_eq_ok.2
      ⟨_, done.after, done.draws_of_writes writes, done.write, took, rfl⟩
  have converted := convert_eq_ok.2 ⟨_, _, rendered, Prod.ext closes rfl, rfl⟩
  rw [run_of_asks done.asks, converted]
  exact exit_tell.2 ⟨done.markup, rfl, told⟩

end Conversion

/-- What is drawn and then written is a conversion. -/
theorem conversion_of_draws {invocation : Invocation} {room : Chatroom} {output : FilePath}
    {markup : Text} {drawn : Run σ Disk} {after : Disk}
    (asks : Asks surroundings.templatesUrl words invocation room output)
    (drew : surroundings.draws fetch room (surroundings.start source disk) = (.ok markup, drawn))
    (write : (room.pageFile output).target drawn.session.store.styles markup disk =
      (.ok (), after)) :
    ∃ done : Conversion fetch surroundings words source disk,
      done.invocation = invocation ∧ done.output = output ∧ done.session = drawn.session ∧
        done.log = drawn.log ∧ done.Writes := by
  obtain ⟨records, loaded, session, load, render, writes, rfl⟩ := Chatroom.drawOn_eq_ok.1 drew
  exact ⟨⟨invocation, room, output, records, loaded, markup, session, after, asks, load, render,
    write⟩, rfl, rfl, rfl, rfl, writes⟩

/-- Behind exit code 0 stands a conversion. -/
theorem conversion_of_run
    (well : (run fetch PageFile.target surroundings words source disk).1.exit = 0) :
    ∃ done : Conversion fetch surroundings words source disk, done.Closes ∧ done.Tells := by
  obtain ⟨invocation, room, output, asks⟩ | ⟨fails, -⟩ :=
    asks_or_fails fetch PageFile.target surroundings words source disk
  case inr => exact absurd well fails
  rw [run_of_asks asks] at well
  rcases converted : convert fetch (room.pageFile output).target surroundings room source disk with
    ⟨answer, last⟩
  rw [converted] at well
  obtain ⟨markup, rfl, told⟩ := exit_tell.1 well
  obtain ⟨ended, closed, rendered, closes, rfl⟩ := convert_eq_ok.1 converted
  obtain ⟨drawn, after, drew, taken, took, rfl⟩ := Chatroom.renderOn_eq_ok.1 rendered
  have begun : drawn.target = disk :=
    (congrArg (·.2.target) drew).symm.trans Chatroom.target_drawOn
  rw [begun] at taken
  obtain ⟨done, rfl, rfl, same, log, writes⟩ := conversion_of_draws asks drew taken
  rw [← log] at took told
  refine ⟨done, ?_, done.tells_iff.2 ⟨writes, took, told⟩⟩
  rw [Conversion.Closes, same, closes]

/-- While no page is written, all files are as they were. -/
theorem files_of_run
    (none : ∀ done : Conversion fetch surroundings words source disk, ¬ done.Writes) :
    (run fetch PageFile.target surroundings words source disk).2.2.files = disk.files := by
  obtain ⟨invocation, room, output, asks⟩ | ⟨-, left⟩ :=
    asks_or_fails fetch PageFile.target surroundings words source disk
  case inr => rw [left]
  rw [run_of_asks asks]
  change (room.renderOn surroundings.console fetch (surroundings.renderer room fetch)
    (room.pageFile output).target (surroundings.start source disk)).2.target.files = disk.files
  rw [Chatroom.target_renderOn]
  change (Chatroom.deliver (room.pageFile output).target disk
    ((surroundings.draws fetch room _).1, (surroundings.draws fetch room _).2.session)).2.2.files =
      disk.files
  rcases drew : surroundings.draws fetch room (surroundings.start source disk) with
    ⟨fault | markup, drawn⟩
  · rfl
  · rcases taken : (room.pageFile output).target drawn.session.store.styles markup disk with
      ⟨fault | _, after⟩
    · rw [Chatroom.deliver, taken]
      exact (PageFile.furnishes_of_target taken).files
    · obtain ⟨done, -, -, -, -, writes⟩ := conversion_of_draws asks drew taken
      exact absurd writes (none done)

/-- A run ends with exit code 0 just if there is a conversion for its command line, the fetcher can
be closed, and standard output takes all that is printed. The disk is as the conversion leaves it
once the reports on loading and rendering are taken, and without a conversion that comes so far all
files are as they were. So a run that fails has changed no file, unless its page was complete and
closing or telling failed. A conversion writes the page that a render of its chatroom into the file
writes from a fresh session, timed or not. -/
theorem run_all_or_nothing (fetch : Fetcher σ) (surroundings : Surroundings σ) (words : List Text)
    (source : σ) (disk : Disk) :
    let ended := run fetch PageFile.target surroundings words source disk
    (ended.1.exit = 0 ↔
      ∃ done : Conversion fetch surroundings words source disk, done.Closes ∧ done.Tells) ∧
    (∀ done : Conversion fetch surroundings words source disk,
      (done.Tells → done.Writes) ∧
      (done.Writes → ended.2.2 = done.after) ∧
      disk.Wrote done.output
        (Utf8.encode
          ((done.room.pageFile done.output).page done.session.store.styles done.markup))
        done.after ∧
      ∀ log, ∃ converted,
        done.room.render fetch (surroundings.renderer done.room fetch)
            (done.room.pageFile done.output).target
            ⟨.fresh [] Template.fallback source, disk, log⟩ = (.ok done.markup, converted) ∧
          converted.session.store.styles = done.session.store.styles ∧
          converted.target = done.after) ∧
    ((∀ done : Conversion fetch surroundings words source disk, ¬ done.Writes) →
      ended.2.2.files = disk.files) ∧
    (ended.1.exit ≠ 0 →
      ended.2.2.files = disk.files ∨
        ∃ done : Conversion fetch surroundings words source disk,
          done.Writes ∧ ¬ (done.Closes ∧ done.Tells) ∧ ended.2.2 = done.after) := by
  intro ended
  refine ⟨⟨conversion_of_run, fun ⟨done, closes, tells⟩ => done.exit_of_tells closes tells⟩,
    fun done => ⟨fun tells => (done.tells_iff.1 tells).1, done.after_of_writes,
      PageFile.wrote_of_target done.write, fun log => ?_⟩, files_of_run, fun fails => ?_⟩
  · obtain ⟨converted, rendered, session, left⟩ :=
      Chatroom.render_of_draw done.draw done.write log
    exact ⟨converted, rendered, congrArg (·.store.styles) session, left⟩
  · by_cases written : ∃ done : Conversion fetch surroundings words source disk, done.Writes
    · obtain ⟨done, writes⟩ := written
      refine .inr ⟨done, writes, fun ⟨closes, tells⟩ => ?_, done.after_of_writes writes⟩
      exact fails (done.exit_of_tells closes tells)
    · exact .inl (files_of_run fun done writes => written ⟨done, writes⟩)

/-! ## a failing run -/

/-- A transcript with one record. -/
def greeting : List UInt8 :=
  Utf8.encode "[\x7b\"name\": \"alice\", \"content\": \"hi\"\x7d]".toList

/-- A disk with a transcript in the working directory. -/
def holding (name : Text) : Disk :=
  ⟨[[], Disk.here], [(Disk.here ++ [name], greeting)]⟩

/-- Surroundings without a clock, where nothing fails but what a console refuses. -/
def untimed (console : Console) : Surroundings Unit :=
  ⟨"T".toList, [], ⟨[], .ofInt 0⟩, .counting 0 0, console, fun source => (.ok (), source)⟩

/-- What the command line with this source, and with no more than it needs, comes to. -/
def runOn (console : Console) (name : Text) : Outcome × Unit × Disk :=
  run (fetchOver nothingFound (holding name)) PageFile.target (untimed console)
    [name, "--my-avatar".toList, "me".toList] () (holding name)

/-- A console that has no letters for the name of the transcript refuses what is told in the end. -/
theorem run_not_all_or_nothing :
    ¬ ∀ (client : Client) (disk : Disk) (surroundings : Surroundings Unit) (words : List Text),
      (run (fetchOver client disk) PageFile.target surroundings words () disk).1.exit ≠ 0 →
      (run (fetchOver client disk) PageFile.target surroundings words () disk).2.2.files =
        disk.files := by
  intro allOrNothing
  have fails : (runOn (.ofCharset .latin1) "中.json".toList).1.exit ≠ 0 := by decide +kernel
  have wrote : (runOn (.ofCharset .latin1) "中.json".toList).2.2.files ≠
      (holding "中.json".toList).files := by decide +kernel
  unfold runOn at fails wrote
  exact wrote (allOrNothing _ _ _ _ fails)

end CommandLine

end ChatTranscript

import ChatTranscript.Chatroom.Basic
import ChatTranscript.Chatroom.Target
import ChatTranscript.Session.Transcript
import ChatTranscript.Transcript.Load
import ChatTranscript.Timing

/-!
# Rendering a chatroom

A configured transcript is loaded, rendered, and handed to a target, in three timed phases.

## Main definitions

* `Run`: what the render of a chatroom changes.
* `Run.phase`: a timed step of a run.
* `Chatroom.drawOn`: the first two phases, with a report on each.
* `Chatroom.renderOn`: all three phases.
* `Chatroom.render`: the same on a console that takes all reports.
-/

namespace ChatTranscript

structure Run (σ τ : Type) where
  session : Session σ
  target : τ
  log : Timing.Log

variable {σ τ : Type}

/-- Takes a step as a phase of a run that began at `start`. Its outcome counts once the report on it
is out. -/
def Run.phase {α : Type} (console : Console) (name : Text) (start : Binary64)
    (step : Run σ τ → Except Fault α × Run σ τ) (run : Run σ τ) : Except Fault α × Run σ τ :=
  let (outcome, run) := step run
  let (outcome, log) := run.log.phase console name (some start) outcome
  (outcome, { run with log })

namespace Chatroom

/-- An empty template root of the room stands for the given one. -/
def renderer (room : Chatroom) (fetch : Fetcher σ) (ids : Click.IdSource) (templatesUrl : Text) :
    Renderer σ where
  fetch
  ids
  templates := Text.orDefault templatesUrl (some room.templatesUrl)
  viewer := Text.orDefault Markup.defaultViewer (some room.viewerUrl)

def view (room : Chatroom) : AvatarView := ⟨room.myAvatar, room.hideAvatars⟩

def pageFile (room : Chatroom) (output : FilePath) : PageFile :=
  ⟨output, room.title, room.mountId⟩

/-! ## phases -/

def loadPhase : Text := "Load transcript".toList

def renderPhase (count : Nat) : Text := "Render (".toList ++ Text.ofNat count ++ " records)".toList

def writePhase : Text := "Write output".toList

def loadStep (room : Chatroom) (load : Fetcher σ) (run : Run σ τ) :
    Except Fault (List Record) × Run σ τ :=
  let (records, source) := Transcript.load load room.source run.session.source
  (records, { run with session := { run.session with source } })

def renderStep (room : Chatroom) (renderer : Renderer σ) (records : List Record) (run : Run σ τ) :
    Except Fault Text × Run σ τ :=
  let (markup, session) := renderer.container room.view room.title records run.session
  (markup, { run with session })

def writeStep (target : Target τ) (markup : Text) (run : Run σ τ) :
    Except Fault Unit × Run σ τ :=
  let (taken, sink) := target run.session.store.styles markup run.target
  (taken, { run with target := sink })

/-- Loads the transcript with `load` and renders it with `renderer`, in a run that began at
`start`. -/
def drawOn (room : Chatroom) (console : Console) (load : Fetcher σ) (renderer : Renderer σ)
    (start : Binary64) (run : Run σ τ) : Except Fault Text × Run σ τ :=
  match run.phase console loadPhase start (room.loadStep load) with
  | (.error fault, run) => (.error fault, run)
  | (.ok records, run) =>
    run.phase console (renderPhase records.length) start (room.renderStep renderer records)

/-- Answers with the markup of the transcript once the target has taken it. The reports on the
phases go to a console. -/
def renderOn (room : Chatroom) (console : Console) (load : Fetcher σ) (renderer : Renderer σ)
    (target : Target τ) (run : Run σ τ) : Except Fault Text × Run σ τ :=
  let (start, log) := run.log.now
  match room.drawOn console load renderer start { run with log } with
  | (.error fault, run) => (.error fault, run)
  | (.ok markup, run) =>
    match run.phase console writePhase start (writeStep target markup) with
    | (.error fault, run) => (.error fault, run)
    | (.ok (), run) => (.ok markup, run)

/-- Renders on a console that takes all reports. -/
def render (room : Chatroom) (load : Fetcher σ) (renderer : Renderer σ) (target : Target τ)
    (run : Run σ τ) : Except Fault Text × Run σ τ :=
  room.renderOn .takesAll load renderer target run

end Chatroom

end ChatTranscript

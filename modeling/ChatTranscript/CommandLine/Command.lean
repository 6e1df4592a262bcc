import ChatTranscript.CommandLine.Arguments
import ChatTranscript.Chatroom.Run

/-!
# The command

Renders a transcript into a page, next to the transcript unless told otherwise. What is done after
the page is written, closing the fetcher and telling what was rendered, can still fail the run.

## Main definitions

* `CommandLine.defaultOutput`: where the page goes by default.
* `CommandLine.convert`: renders a chatroom, and closes the fetcher.
* `CommandLine.run`: runs a command line.
-/

namespace ChatTranscript

namespace CommandLine

/-- What a run finds around it; the template root is used unless the command line gives one. The
fetcher of the run is closed in the end, which can fail. -/
structure Surroundings (σ : Type) where
  templatesUrl : Text
  timing : Text
  clock : Clock
  ids : Click.IdSource
  console : Console
  close : σ → Except Fault Unit × σ

/-- The exit code, the text on standard output, and the message on standard error. -/
structure Outcome where
  exit : Nat
  out : Text
  err : Option Text

/-- Next to a local transcript, or in the working directory. -/
def defaultOutput (source : Text) : Except Fault FilePath :=
  match Url.isRemote source, FilePath.ofLocation source with
  | .ok true, _ => .ok (.parse "chatroom.html".toList)
  | .ok false, .ok path =>
    match path.withSuffix ".html".toList with
    | some output => .ok output
    | none => .error (.namelessPath path.text)
  | .error fault, _ | _, .error fault => .error (.address fault)

def Invocation.room (invocation : Invocation) (templatesUrl : Text) : Except Fault Chatroom :=
  (Chatroom.ofFields templatesUrl [
    ("chatroomName".toList, .str (invocation.mountId.getD Chatroom.defaultName)),
    ("jsonFilePath".toList, .str invocation.source),
    ("MyAvatar".toList, .str invocation.myAvatar),
    ("title".toList, .str (invocation.title.getD Chatroom.defaultTitle)),
    ("hideAvatar".toList, .bool invocation.hideAvatars),
    ("templatesUrl".toList,
      .str (Text.orDefault templatesUrl invocation.templatesUrl))]).mapError .invalid

def Invocation.outputPath (invocation : Invocation) : Except Fault FilePath :=
  match invocation.output with
  | some output => .ok (.parse output)
  | none => defaultOutput invocation.source

/-! ## messages -/

/-- A message that says why there is nothing to render needs no more than that. -/
def faultLine : Fault → Text
  | .load failure => "Error: ".toList ++ failure.message
  | .invalid rejection => "Error: ".toList ++ rejection.message
  | fault => "Error rendering transcript: ".toList ++ fault.message

def successLine (source : Text) (output : FilePath) : Text :=
  "Successfully rendered ".toList ++ source ++ " to ".toList ++ output.text ++ "\n".toList

def isLineEnd (c : Char) : Bool :=
  (10 ≤ c.toNat && c.toNat ≤ 13) || (0x1C ≤ c.toNat && c.toNat ≤ 0x1E) || c = '\u0085' ||
    c = '\u2028' || c = '\u2029'

/-- A sequence that sets a style on a terminal. -/
def readStyle : Text → Option (Unit × Text)
  | '\x1b' :: '[' :: rest =>
    match rest.dropWhile fun c => c = ';' || c = '?' || ('0' ≤ c && c ≤ '9') with
    | c :: rest => if c.isAlpha then some ((), rest) else none
    | [] => none
  | _ => none

/-- A message as it is shown where there is no terminal: without styles. -/
def unstyled (message : Text) : Text :=
  (Text.scan readStyle message).flatMap fun
    | .plain text => text
    | .found _ _ => []

/-- A failed run, with the first line of its message. -/
def Outcome.failure (exit : Nat) (message : Text) : Outcome :=
  ⟨exit, [], some ((unstyled message).takeWhile fun c => !isLineEnd c)⟩

/-! ## running -/

variable {σ τ : Type}

/-- The chatroom and the output path of an invocation. -/
def Invocation.plan (invocation : Invocation) (templatesUrl : Text) :
    Except Fault (Chatroom × FilePath) := do
  let room ← invocation.room templatesUrl
  let output ← invocation.outputPath
  return (room, output)

/-- The log of a run that begins. -/
def Surroundings.log (surroundings : Surroundings σ) : Timing.Log :=
  ⟨Timing.isEnabled surroundings.timing, surroundings.clock, []⟩

/-- The renderer for a chatroom. -/
def Surroundings.renderer (surroundings : Surroundings σ) (room : Chatroom) (fetch : Fetcher σ) :
    Renderer σ :=
  room.renderer fetch surroundings.ids surroundings.templatesUrl

/-- A run as it begins, in a fresh session. -/
def Surroundings.start (surroundings : Surroundings σ) (source : σ) (sink : τ) : Run σ τ :=
  ⟨.fresh [] Template.fallback source, sink, surroundings.log⟩

/-- Renders a chatroom, and then closes the fetcher, whatever came of the render. A fault in closing
takes the place of the answer. -/
def convert (fetch : Fetcher σ) (target : Target τ) (surroundings : Surroundings σ)
    (room : Chatroom) (source : σ) (sink : τ) : Except Fault Text × Run σ τ :=
  let (answer, run) :=
    room.renderOn surroundings.console fetch (surroundings.renderer room fetch) target
      (surroundings.start source sink)
  let (closed, source) := surroundings.close run.session.source
  (closed.bind fun () => answer, { run with session := { run.session with source } })

/-- Tells what was rendered, unless the render came to nothing. -/
def Surroundings.tell (surroundings : Surroundings σ) (message : Text) (log : Timing.Log) :
    Except Fault Text → Outcome
  | .error fault => .failure 1 (faultLine fault)
  | .ok _ =>
    match log.print surroundings.console (unstyled message) with
    | (.error fault, _) => .failure 1 (faultLine fault)
    | (.ok (), log) => ⟨0, log.lines, none⟩

/-- Runs a command line. The target is made for the page that is asked for. -/
def run (fetch : Fetcher σ) (target : PageFile → Target τ) (surroundings : Surroundings σ)
    (words : List Text) (source : σ) (sink : τ) : Outcome × σ × τ :=
  match Invocation.ofArguments words with
  | .error fault => (.failure 2 ("Error: ".toList ++ fault.message), source, sink)
  | .ok invocation =>
    match invocation.plan surroundings.templatesUrl with
    | .error fault => (.failure 1 (faultLine fault), source, sink)
    | .ok (room, output) =>
      let (answer, run) :=
        convert fetch (target (room.pageFile output)) surroundings room source sink
      (surroundings.tell (successLine invocation.source output) run.log answer,
        run.session.source, run.target)

end CommandLine

end ChatTranscript

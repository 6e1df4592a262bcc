import ChatTranscript.CommandLine.Command
import ChatTranscript.Fetch.Site

/-!
# The program

Runs a command line on the files of the system. A run that asks for files which are not loaded yet
is run again with them, and the page is written when nothing is missing. Web servers are not
reached.
-/

namespace ChatTranscript

namespace Program

/-- The loaded files, and all locations that were asked for. -/
structure Loaded where
  site : Site
  asked : List Text

def fetch : Fetcher Loaded := fun location loaded =>
  (loaded.site.outcome location, { loaded with asked := location :: loaded.asked })

/-- Keeps the page that is to be written. -/
def keepPage (file : PageFile) : Target (Option (FilePath × Text)) := fun styles markup _ =>
  (.ok (), some (file.output, file.page styles markup))

def written (text : Text) : String := String.ofList text

/-- Puts a file of the system on the disk; one that cannot be read is left out. -/
def load (disk : Disk) (location : Text) : IO Disk := do
  match FilePath.ofLocation location with
  | .error _ => return disk
  | .ok path =>
    try
      let bytes ← IO.FS.readBinFile (written path.text)
      match ((disk.makeDirectories path.parent).1).write path bytes.toList with
      | .ok disk => return disk
      | .error _ => return disk
    catch _ => return disk

/-- Runs until no new location is asked for. -/
partial def run (surroundings : CommandLine.Surroundings Loaded) (words : List Text) (site : Site)
    (known : List Text) : IO (CommandLine.Outcome × Option (FilePath × Text)) := do
  let (outcome, loaded, page) :=
    CommandLine.run fetch keepPage surroundings words ⟨site, []⟩ none
  match loaded.asked.find? fun location => !known.contains location with
  | none => return (outcome, page)
  | some location =>
    let disk ← load site.disk location
    run surroundings words { site with disk } (location :: known)

def writePage (output : FilePath) (page : Text) : IO Unit := do
  IO.FS.createDirAll (written output.parent.text)
  IO.FS.writeBinFile (written output.text) (ByteArray.mk (Utf8.encode page).toArray)

/-- Standard output itself is met when the page is written. -/
def surroundings : IO (CommandLine.Surroundings Loaded) := do
  let templates ← IO.getEnv "CHATROOM_RENDER_TEMPLATES_URL"
  let timing ← IO.getEnv "CHATROOM_RENDER_DEBUG_TIMING"
  let milliseconds ← IO.monoMsNow
  let first ← IO.rand 0 60466175
  return {
    templatesUrl := Text.orDefault Chatroom.defaultTemplatesUrl (templates.map String.toList)
    timing := (timing.getD "").toList
    clock := ⟨[], .ofInt (milliseconds / 1000)⟩
    ids := .counting milliseconds first
    console := .takesAll
    close := fun loaded => (.ok (), loaded) }

end Program

end ChatTranscript

open ChatTranscript

def main (arguments : List String) : IO UInt32 := do
  let site : Site := ⟨.empty, []⟩
  let (outcome, page) ←
    Program.run (← Program.surroundings) (arguments.map String.toList) site []
  try
    if outcome.exit = 0 then
      match page with
      | some (output, page) => Program.writePage output page
      | none => pure ()
    IO.print (Program.written outcome.out)
    match outcome.err with
    | some message => IO.eprintln (Program.written message)
    | none => pure ()
    return UInt32.ofNat outcome.exit
  catch fault =>
    IO.eprintln (Program.written "Error rendering transcript: ".toList ++ toString fault)
    return 1

import ChatTranscript.Transcript.Document
import ChatTranscript.Fetch.Basic

/-!
# Loading transcripts

A transcript is fetched from a location. There is no fallback: without it there is nothing to
render.
-/

namespace ChatTranscript

/-- The records at a location. -/
def Transcript.load {σ : Type} (fetch : Fetcher σ) (location : Text) (source : σ) :
    Except Fault (List Record) × σ :=
  let (outcome, source) := fetch location source
  match outcome with
  | .text body => (Transcript.ofText body, source)
  | .failed failure => (.error (.load (.unavailable location failure)), source)
  | .raised fault => (.error fault, source)

end ChatTranscript

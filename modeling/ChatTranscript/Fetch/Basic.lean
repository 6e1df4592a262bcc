import ChatTranscript.Fault

/-!
# Fetching

A fetcher answers a location with a text, with a failure that templates recover from, or with a
fault of its own. It may change its state.
-/

namespace ChatTranscript

inductive FetchOutcome where
  | text (body : Text)
  | failed (failure : FetchFailure)
  | raised (fault : Fault)

abbrev Fetcher (σ : Type) := Text → σ → FetchOutcome × σ

/-- The text, or the fault that a caller without a fallback meets. -/
def FetchOutcome.result (location : Text) : FetchOutcome → Except Fault Text
  | .text body => .ok body
  | .failed failure => .error (.fetch location failure)
  | .raised fault => .error fault

end ChatTranscript

import ChatTranscript.Transcript.Record
import ChatTranscript.Fault

/-!
# Transcript documents

A transcript is a JSON array of records. The first element that is no record spoils all of it.

## Main definitions

* `Transcript.ofJson`, `Transcript.ofText`: the records of a document.
-/

namespace ChatTranscript

namespace Transcript

/-- The record at an index. -/
def recordOf (index : Nat) : Json → Except LoadFailure Record
  | .obj fields =>
    match Record.ofFields fields with
    | .ok record => .ok record
    | .error rejection => .error (.invalidRecord index rejection)
  | value => .error (.notObject index value.kind)

def recordsFrom : Nat → List Json → Except LoadFailure (List Record)
  | _, [] => .ok []
  | index, item :: rest => do
    let record ← recordOf index item
    return record :: (← recordsFrom (index + 1) rest)

def ofJson : Json → Except LoadFailure (List Record)
  | .arr items => recordsFrom 0 items
  | value => .error (.notArray value.kind)

def ofText (text : Text) : Except Fault (List Record) :=
  match Json.read text with
  | .ok value => (ofJson value).mapError .load
  | .error (.malformed fault) => .error (.load (.notJson fault))
  | .error (.tooManyDigits count) => .error (.tooManyDigits count)

end Transcript

end ChatTranscript

import ChatTranscript.Fetch.Basic

/-!
# Files and web servers

A location over HTTP is answered by a web server, any other by the file that it names. Files are
UTF-8, and their line ends are unified.

## Main definitions

* `Client`: what asking web servers comes to.
* `fetchText`: the text at a location, over any client and any disk.
-/

namespace ChatTranscript

/-! ## clients -/

structure Response where
  status : Nat
  body : Text

/-- What asking for a URL comes to: a response, an error of the client, or a fault that is none. -/
inductive Reply where
  | answer (response : Response)
  | failed (failure : FetchFailure)
  | raised (fault : Fault)

abbrev Client := Text → Reply

def Response.outcome (response : Response) : FetchOutcome :=
  if 200 ≤ response.status ∧ response.status < 300 then .text response.body
  else .failed (.status response.status)

def Reply.outcome : Reply → FetchOutcome
  | .answer response => response.outcome
  | .failed failure => .failed failure
  | .raised fault => .raised fault

/-! ## locations -/

def readFile (disk : Disk) (path : FilePath) : FetchOutcome :=
  match disk.read path with
  | .error fault => .failed (.disk fault)
  | .ok bytes =>
    match Utf8.decode bytes with
    | .error fault => .failed (.notUtf8 fault)
    | .ok text => .text (Text.unifyLineEnds text)

/-- A location that is no reference at all is no failure to load, and is met as a fault. -/
def fetchText (client : Client) (disk : Disk) (location : Text) : FetchOutcome :=
  match Url.isRemote location, FilePath.ofLocation location with
  | .ok true, _ => (client location).outcome
  | .ok false, .ok path => readFile disk path
  | .error fault, _ | _, .error fault => .raised (.address fault)

end ChatTranscript

import ChatTranscript.Fetch.Basic

/-!
# Resources in memory

A library holds texts by path and counts how often each path was asked for.
-/

namespace ChatTranscript

structure Library where
  resources : List (Text × Text)
  calls : List (Text × Nat)

namespace Library

def empty : Library := ⟨[], []⟩

def get? (library : Library) (path : Text) : Option Text :=
  (library.resources.find? (·.1 == path)).map (·.2)

def remove (library : Library) (path : Text) : Library :=
  { library with resources := library.resources.filter (·.1 != path) }

def put (library : Library) (path text : Text) : Library :=
  { library with resources := (path, text) :: (library.remove path).resources }

/-- One more call of a path. -/
def count (path : Text) : List (Text × Nat) → List (Text × Nat)
  | [] => [(path, 1)]
  | (known, calls) :: rest =>
    if known == path then (known, calls + 1) :: rest else (known, calls) :: count path rest

/-- A path that is not there is answered as a web server would. -/
def outcome (library : Library) (path : Text) : FetchOutcome :=
  match library.get? path with
  | some text => .text text
  | none => .failed (.status 404)

def fetch : Fetcher Library := fun path library =>
  (library.outcome path, { library with calls := count path library.calls })

end Library

end ChatTranscript

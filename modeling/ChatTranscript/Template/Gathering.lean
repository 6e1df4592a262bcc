import ChatTranscript.Template.Store

/-!
# Concurrent requests to a template store

Several requests run at once on one store. A request whose path is being fetched stands in line;
when that fetch ends, the first in the line of the path is called and looks again. Whoever runs the
requests decides when each goes on; a fetch that is answered lets its request finish.

## Main definitions

* `Template.Gathering`: a store, the requests on it, and the line.
* `Template.Gathering.resume`, `Template.Gathering.answer`: one step of a request.
* `Template.Gathering.Event`, `Template.Gathering.step`: the steps as data.
* `Template.Gathering.gather`: all requests, run in the order in which they become ready.
-/

namespace ChatTranscript

namespace Template

/-- How far a request has come. -/
inductive Phase where
  | ready
  | queued
  | called
  | fetching
  | done (answer : Except Fault Text)

namespace Phase

def isFetching : Phase → Bool
  | .fetching => true
  | _ => false

def inLine : Phase → Bool
  | .queued | .called => true
  | _ => false

end Phase

structure Request where
  path : Text
  phase : Phase

structure Gathering where
  store : Store
  requests : List Request
  line : List Nat

namespace Gathering

def ofPaths (store : Store) (paths : List Text) : Gathering :=
  ⟨store, paths.map fun path => ⟨path, .ready⟩, []⟩

def setPhase (gathering : Gathering) (i : Nat) (phase : Phase) : Gathering :=
  { gathering with requests := gathering.requests.modify i fun request => { request with phase } }

/-- A path is busy while it is fetched and while there is a line for it. -/
def isBusy (gathering : Gathering) (path : Text) : Bool :=
  gathering.requests.any fun request =>
    request.path == path && (request.phase.isFetching || request.phase.inLine)

/-- The first in the line of a path. -/
def first? (gathering : Gathering) (path : Text) : Option Nat :=
  gathering.line.find? fun i =>
    match gathering.requests[i]? with
    | some request => request.path == path
    | none => false

/-- Calls the first in the line of a path, if there is one. -/
def call (gathering : Gathering) (path : Text) : Gathering :=
  match gathering.first? path with
  | some i => gathering.setPhase i .called
  | none => gathering

/-! ## steps -/

/-- A request that may go on looks into the store. If its template is not kept, it fetches, or
stands in line if it comes new to a busy path. -/
def resume (gathering : Gathering) (i : Nat) : Gathering :=
  match gathering.requests[i]? with
  | none => gathering
  | some request =>
    match request.phase with
    | .ready =>
      match gathering.store.get? request.path with
      | some template => gathering.setPhase i (.done (.ok template))
      | none =>
        if gathering.isBusy request.path then
          { gathering.setPhase i .queued with line := gathering.line ++ [i] }
        else gathering.setPhase i .fetching
    | .called =>
      let gathering := { gathering with line := gathering.line.erase i }
      match gathering.store.get? request.path with
      | some template => (gathering.setPhase i (.done (.ok template))).call request.path
      | none => gathering.setPhase i .fetching
    | _ => gathering

/-- The end of a fetch: the request is done, and the next in line is called. -/
def answer (gathering : Gathering) (i : Nat) (outcome : FetchOutcome) : Gathering :=
  match gathering.requests[i]? with
  | some ⟨path, .fetching⟩ =>
    let (result, store) := gathering.store.settle path outcome
    ({ gathering with store }.setPhase i (.done result)).call path
  | _ => gathering

inductive Event where
  | resume (i : Nat)
  | answer (i : Nat) (outcome : FetchOutcome)

def step (gathering : Gathering) : Event → Gathering
  | .resume i => gathering.resume i
  | .answer i outcome => gathering.answer i outcome

/-! ## running in order -/

/-- A request that has something to do. -/
def isActive (gathering : Gathering) (i : Nat) : Bool :=
  match gathering.requests[i]? with
  | some ⟨_, .ready⟩ | some ⟨_, .called⟩ | some ⟨_, .fetching⟩ => true
  | _ => false

/-- One turn of a request. A fetch is answered in the turn after the one that started it. -/
def turn {σ : Type} (fetch : Fetcher σ) (i : Nat) (gathering : Gathering) (source : σ) :
    Gathering × σ :=
  match gathering.requests[i]? with
  | some ⟨path, .fetching⟩ =>
    let (outcome, source) := fetch path source
    (gathering.answer i outcome, source)
  | _ => (gathering.resume i, source)

/-- Runs the requests in a queue. After a turn, what has become active joins the queue at its end.
A request takes at most three turns. -/
def run {σ : Type} (fetch : Fetcher σ) : Nat → List Nat → Gathering → σ → Gathering × σ
  | 0, _, gathering, source | _, [], gathering, source => (gathering, source)
  | turns + 1, i :: queue, gathering, source =>
    let (after, source) := turn fetch i gathering source
    let joining := (List.range after.requests.length).filter fun j =>
      after.isActive j && !queue.contains j
    run fetch turns (queue ++ joining) after source

def answers (gathering : Gathering) : List (Except Fault Text) :=
  gathering.requests.filterMap fun request =>
    match request.phase with
    | .done answer => some answer
    | _ => none

def gather {σ : Type} (fetch : Fetcher σ) (paths : List Text) (store : Store) (source : σ) :
    List (Except Fault Text) × Store × σ :=
  let (gathering, source) :=
    run fetch (3 * paths.length) (List.range paths.length) (ofPaths store paths) source
  (gathering.answers, gathering.store, source)

end Gathering

end Template

end ChatTranscript

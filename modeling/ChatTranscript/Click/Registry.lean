import ChatTranscript.Click.Action
import ChatTranscript.Text.Blank

/-!
# Registered click handlers

A handler is an action bound to the payload of a card. The registry finds it by the id that the
markup carries. Ids are mostly texts; numbers are equal as ids when they are equal as numbers.

## Main definitions

* `Click.HandlerId`, `Click.HandlerId.key`: ids and what makes two of them the same.
* `Click.IdSource`: where generated ids come from; `Click.IdSource.counting` counts through all
  suffixes.
* `Click.Registry.register`, `Click.Registry.dispatch`: binding and calling a handler.
-/

namespace ChatTranscript

namespace Click

/-! ## ids -/

inductive HandlerId where
  | text (name : Text)
  | bool (b : Bool)
  | int (n : Int)
  | float (x : Binary64)

/-- What identifies an id. -/
inductive HandlerKey where
  | text (name : Text)
  | whole (n : Int)
  | other (x : Binary64)
  deriving DecidableEq

namespace HandlerId

def key : HandlerId → HandlerKey
  | .text name => .text name
  | .bool b => .whole (if b then 1 else 0)
  | .int n => .whole n
  | .float x =>
    match x.toInt? with
    | some n => .whole n
    | none => .other x

def toJson : HandlerId → Json
  | .text name => .str name
  | .bool b => .bool b
  | .int n => .int n
  | .float x => .float x

/-- Empty ids and zeros count as no id at all. -/
def isGiven (id : HandlerId) : Bool := id.toJson.isTruthy

/-- The id that a payload gives, if it gives one; containers cannot be ids. -/
def ofJson? (value : Option Json) : Except Fault (Option HandlerId) :=
  match Json.truthy? value with
  | none | some .null => .ok none
  | some (.bool b) => .ok (some (.bool b))
  | some (.int n) => .ok (some (.int n))
  | some (.float x) => .ok (some (.float x))
  | some (.str name) => .ok (some (.text name))
  | some (.arr _) => .error (.notKey .arr)
  | some (.obj _) => .error (.notKey .obj)

end HandlerId

/-- A generated id carries the time of the draw in milliseconds and the next suffix of a
sequence. -/
structure IdSource where
  milliseconds : Nat → Nat
  suffix : Nat → Text

def IdSource.id (source : IdSource) (n : Nat) : Text :=
  "handler_".toList ++ Text.ofNat (source.milliseconds n) ++ "_".toList ++ source.suffix n

/-- The digits from `a` to `z`, then from `0` to `9`. -/
def suffixDigit (n : Nat) : Char := Char.ofNat (if n < 26 then 97 + n else 22 + n)

/-- The last digits of a number in base 36. -/
def suffixDigits : Nat → Nat → Text
  | 0, _ => []
  | count + 1, n => suffixDigits count (n / 36) ++ [suffixDigit (n % 36)]

/-- Suffixes of five digits that count up from a first one, drawn while the clock stands still. -/
def IdSource.counting (milliseconds first : Nat) : IdSource :=
  ⟨fun _ => milliseconds, fun n => suffixDigits 5 (first + n)⟩

/-! ## the registry -/

structure Handler where
  action : Action
  payload : Json

/-- Handlers by id, oldest id first, and how many suffixes were drawn. -/
structure Registry where
  entries : List (HandlerId × Handler)
  drawn : Nat

namespace Registry

def empty : Registry := ⟨[], 0⟩

def get? (registry : Registry) (id : HandlerId) : Option Handler :=
  (registry.entries.find? fun entry => entry.1.key = id.key).map (·.2)

def contains (registry : Registry) (id : HandlerId) : Bool := (registry.get? id).isSome

/-- Binds an id; an id that is bound already keeps its place. -/
def put (id : HandlerId) (handler : Handler) :
    List (HandlerId × Handler) → List (HandlerId × Handler)
  | [] => [(id, handler)]
  | entry :: rest =>
    if entry.1.key = id.key then (entry.1, handler) :: rest else entry :: put id handler rest

/-- Draws ids until one is not bound. One more draw than there are entries is enough if no suffix
comes twice. -/
def drawFresh (source : IdSource) (registry : Registry) : Nat → Text × Registry
  | 0 => (source.id registry.drawn, { registry with drawn := registry.drawn + 1 })
  | tries + 1 =>
    let id := source.id registry.drawn
    let next := { registry with drawn := registry.drawn + 1 }
    if registry.contains (.text id) then drawFresh source next tries else (id, next)

def newId (source : IdSource) (registry : Registry) : Text × Registry :=
  drawFresh source registry registry.entries.length

/-- Binds a named action to a payload, under the given id or a new one. An unknown name binds
nothing. -/
def register (source : IdSource) (name : Text) (payload : Json) (id : Option HandlerId)
    (registry : Registry) : Option HandlerId × Registry :=
  match Action.named? (Text.strip name) with
  | none => (none, registry)
  | some action =>
    let (id, registry) : HandlerId × Registry :=
      match id.filter HandlerId.isGiven with
      | some id => (id, registry)
      | none =>
        let (id, registry) := newId source registry
        (.text id, registry)
    (some id, { registry with entries := put id ⟨action, payload⟩ registry.entries })

/-- The answer to a click; an unknown id has none. -/
def dispatch (registry : Registry) (id : HandlerId) (params : Json) :
    Except Fault (Option Effect) :=
  match registry.get? id with
  | none => .ok none
  | some handler => handler.action.run handler.payload (if params.isTruthy then params else .obj [])

def clear (registry : Registry) : Registry := { registry with entries := [] }

end Registry

end Click

end ChatTranscript

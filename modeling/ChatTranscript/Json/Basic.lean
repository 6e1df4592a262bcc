import ChatTranscript.Text.Basic
import ChatTranscript.Binary64.Basic

/-!
# JSON values

Objects keep the order of their keys. Whole numbers are unbounded and differ from floating-point
values.

## Main definitions

* `Json`: the values.
* `Fields.get?`, `Fields.set`, `Fields.ofPairs`: objects as ordered maps.
* `Json.Kind`: the shape of a value.
-/

namespace ChatTranscript

inductive Json where
  | null
  | bool (b : Bool)
  | int (n : Int)
  | float (x : Binary64)
  | str (text : Text)
  | arr (items : List Json)
  | obj (fields : List (Text × Json))

abbrev Fields := List (Text × Json)

namespace Fields

def get? (key : Text) (fields : Fields) : Option Json :=
  (fields.find? (·.1 == key)).map (·.2)

/-- A key that is there keeps its place; a new one goes to the end. -/
def set (key : Text) (value : Json) : Fields → Fields
  | [] => [(key, value)]
  | (k, v) :: rest => if k == key then (k, value) :: rest else (k, v) :: set key value rest

/-- Sets every pair in turn. -/
def update (fields pairs : Fields) : Fields :=
  pairs.foldl (fun fields (key, value) => set key value fields) fields

/-- Of equal keys the first gives the place and the last the value. -/
def ofPairs (pairs : Fields) : Fields := update [] pairs

end Fields

namespace Json

inductive Kind where
  | null | bool | int | float | str | arr | obj
  deriving DecidableEq

def kind : Json → Kind
  | .null => .null
  | .bool _ => .bool
  | .int _ => .int
  | .float _ => .float
  | .str _ => .str
  | .arr _ => .arr
  | .obj _ => .obj

/-- The name of a kind in messages. -/
def Kind.name : Kind → Text
  | .null => "NoneType".toList
  | .bool => "bool".toList
  | .int => "int".toList
  | .float => "float".toList
  | .str => "str".toList
  | .arr => "list".toList
  | .obj => "dict".toList

/-- Null, false, zero and whatever is empty count as absent. -/
def isTruthy : Json → Bool
  | .null => false
  | .bool b => b
  | .int n => n != 0
  | .float x => !x.isZero
  | .str text => !text.isEmpty
  | .arr items => !items.isEmpty
  | .obj fields => !fields.isEmpty

/-- The value under a key of an object. -/
def get? (key : Text) : Json → Option Json
  | .obj fields => Fields.get? key fields
  | _ => none

end Json

end ChatTranscript

import ChatTranscript.Json.Basic
import ChatTranscript.Binary64.Layout

/-!
# Validation

What is wrong with the entries of an object, entry by entry.

## Main definitions

* `Problem`, `Issue`, `Rejection`: a fault, a fault at a place, and all faults of an object.
* `Json.switch?`: a value read as a switch, with its usual spellings.
-/

namespace ChatTranscript

inductive Problem where
  | missing
  | notString
  | notObject
  | notModel (model : Text)
  | notBoolean
  | unclearBoolean
  | refused (reason : Text)

def Problem.code : Problem → Text
  | .missing => "missing".toList
  | .notString => "string_type".toList
  | .notObject => "dict_type".toList
  | .notModel _ => "model_type".toList
  | .notBoolean => "bool_type".toList
  | .unclearBoolean => "bool_parsing".toList
  | .refused _ => "value_error".toList

def Problem.message : Problem → Text
  | .missing => "Field required".toList
  | .notString => "Input should be a valid string".toList
  | .notObject => "Input should be a valid dictionary".toList
  | .notModel model => "Input should be a valid dictionary or instance of ".toList ++ model
  | .notBoolean => "Input should be a valid boolean".toList
  | .unclearBoolean => "Input should be a valid boolean, unable to interpret input".toList
  | .refused reason => "Value error, ".toList ++ reason

/-- A problem and the keys that lead to it. -/
structure Issue where
  place : List Text
  problem : Problem

/-- The issues of an object that should have been a `model`. -/
structure Rejection where
  model : Text
  issues : List Issue

def Rejection.message (rejection : Rejection) : Text :=
  Text.ofNat rejection.issues.length ++ " validation error".toList ++
    (if rejection.issues.length = 1 then [] else "s".toList) ++ " for ".toList ++ rejection.model

/-- The issue of an entry, if it has one. -/
def Issue.ofEntry {α : Type} (key : Text) : Except Problem α → List Issue
  | .ok _ => []
  | .error problem => [⟨[key], problem⟩]

/-! ## entries -/

/-- The value under the first key that is there, and that key. -/
def Fields.firstOf? (keys : List Text) (fields : Fields) : Option (Text × Json) :=
  keys.findSome? fun key => (Fields.get? key fields).map (key, ·)

namespace Json

def falseWords : List Text := ["0", "off", "f", "false", "n", "no"].map String.toList

def trueWords : List Text := ["1", "on", "t", "true", "y", "yes"].map String.toList

def minWord : Int := -9223372036854775808

def maxWord : Int := 9223372036854775807

def switchOfInt (n : Int) : Except Problem Bool :=
  if n = 0 then .ok false
  else if n = 1 then .ok true
  else if minWord ≤ n ∧ n ≤ maxWord then .error .unclearBoolean
  else .error .notBoolean

/-- A Boolean, 0 or 1 as a number of either kind, or one of a few words in any case. -/
def switch? : Json → Except Problem Bool
  | .bool b => .ok b
  | .int n => switchOfInt n
  | .float x =>
    match x.toInt? with
    | some 0 => .ok false
    | some 1 => .ok true
    | _ => .error .notBoolean
  | .str text =>
    let word := text.map Char.toLower
    if falseWords.contains word then .ok false
    else if trueWords.contains word then .ok true
    else .error .unclearBoolean
  | _ => .error .notBoolean

def string? : Json → Except Problem Text
  | .str text => .ok text
  | _ => .error .notString

end Json

end ChatTranscript

import ChatTranscript.Fault
import ChatTranscript.Json.Writer
import ChatTranscript.Text.Blank
import ChatTranscript.Text.WordChar
import ChatTranscript.Text.Digit

/-!
# Looking up values

A path is made of keys joined by points. A key may carry an index in brackets, which leads into a
list. Whatever a path leads to can be shown as text.

## Main definitions

* `Template.lookup`: the value that a path leads to, if it leads anywhere.
* `Template.display`: the text shown for a value.
-/

namespace ChatTranscript

namespace Template

/-! ## paths -/

/-- Keys that are looked up as they are. -/
def wholeKeys : List Text :=
  ["@index".toList, "@first".toList, "@last".toList, "__clickHandlerId".toList,
    "__overwrite".toList]

/-- A step of a path: a key, or a key and the digits of an index. -/
inductive Step where
  | key (name : Text)
  | item (name digits : Text)

/-- A key of word characters with digits in brackets, and perhaps a line end, is an indexed key. -/
def Step.ofPart (part : Text) : Step :=
  match Text.spanWhile Text.isWordChar part with
  | (c :: cs, '[' :: rest) =>
    match Text.spanWhile Text.isDecimalDigit rest with
    | (d :: ds, [']']) | (d :: ds, [']', '\n']) => .item (c :: cs) (d :: ds)
    | _ => .key part
  | _ => .key part

/-- Follows steps from a value; none if a step leads nowhere. -/
def follow : Json → List Step → Except Fault (Option Json)
  | value, [] => .ok (some value)
  | .obj fields, .key name :: rest =>
    match Fields.get? name fields with
    | some value => follow value rest
    | none => .ok none
  | .obj fields, .item name digits :: rest =>
    if Json.maxDigits < digits.length then .error (.tooManyDigits digits.length)
    else
      match Fields.get? name fields with
      | some (.arr items) =>
        match items[Text.natOfDigits digits]? with
        | some value => follow value rest
        | none => .ok none
      | _ => .ok none
  | _, _ :: _ => .ok none

def steps (path : Text) : List Step := (path.splitOn '.').map Step.ofPart

def lookup (data : Json) (path : Text) : Except Fault (Option Json) :=
  let path := Text.strip path
  match data with
  | .obj fields =>
    if path.isEmpty then .ok none
    else if wholeKeys.contains path then .ok (Fields.get? path fields)
    else follow data (steps path)
  | _ => .ok none

/-! ## shown values -/

/-- Nothing for an absent value or null, whole floating-point values as integers, containers as
compact JSON text. -/
def display : Option Json → Text
  | none | some .null => []
  | some (.bool b) => if b then "true".toList else "false".toList
  | some (.int n) => Text.ofInt n
  | some (.float x) =>
    match x.toInt? with
    | some n => Text.ofInt n
    | none => x.text
  | some (.str text) => text
  | some value => value.write Json.compact

end Template

end ChatTranscript

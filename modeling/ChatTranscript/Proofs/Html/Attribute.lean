import ChatTranscript.Proofs.Html.Entities
import ChatTranscript.Proofs.Text.Places

/-!
# Attribute values in markup

An escaped text holds no quote, so an attribute ends at the first quote behind its opening, and the
text is found again by undoing the escapes. Markup whose attributes hold no quotes is split at the
quotes, and every second part is a value.

## Main definitions

* `Html.firstAttribute?`: the value of an attribute where it is opened first.
* `Html.lastAttribute?`: the value of an attribute where it is opened last.
* `Html.attribute?`: the value of an attribute where it is named first.

## Main statements

* `Html.unescape_escapeAttribute`: every text is found again behind its escapes.
* `Html.lastAttribute?_append`: an attribute at the end of markup is found there.
* `Html.readAttributes_print`: attributes without quotes are read from the front of markup.
-/

namespace ChatTranscript

namespace Html

/-! ## escapes -/

@[simp] theorem escapeAttribute_append (text other : Text) :
    escapeAttribute (text ++ other) = escapeAttribute text ++ escapeAttribute other :=
  List.flatMap_append

/-- Every text is found again behind its escapes. -/
@[simp] theorem unescape_escapeAttribute (text : Text) : unescape (escapeAttribute text) = text :=
  unescapeWith_escapeWith inFragments_sound text

/-- Neither angles nor quotes are left in an escaped text. -/
theorem special_not_mem_escapeAttribute {mark : Char} (special : mark ∈ ['<', '>', '"', '\''])
    (text : Text) : mark ∉ escapeAttribute text := by
  rw [escapeAttribute, escapeWith, List.mem_flatMap]
  rintro ⟨c, -, written⟩
  simp only [List.mem_cons, List.not_mem_nil, or_false] at special
  revert written
  fun_cases escapeChar inFragments c
  case case6 =>
    rw [List.mem_singleton]
    rintro rfl
    simp_all
  all_goals
    obtain rfl | rfl | rfl | rfl := special <;> decide

@[simp] theorem quote_not_mem_escapeAttribute (text : Text) : '"' ∉ escapeAttribute text :=
  special_not_mem_escapeAttribute (by decide) text

/-- What stands between the first opening of an attribute and the next quote, without escapes. -/
def firstAttribute? (name markup : Text) : Option Text := do
  let (_, rest) ← Text.cut? (name ++ "=\"".toList) markup
  let (raw, _) ← Text.cut? ['"'] rest
  return unescape raw

/-- An attribute at the front of markup ends at the first quote in its value, or else behind it. -/
theorem firstAttribute?_front (name value rest : Text) :
    firstAttribute? name (name ++ "=\"".toList ++ (value ++ '"' :: rest)) =
      some (unescape (value.takeWhile (· != '"'))) := by
  obtain ⟨after, closed⟩ := Text.cut?_mark_first '"' value rest
  rw [firstAttribute?, Text.cut?_front]
  simp only [Option.bind_eq_bind, Option.bind_some, closed]
  rfl

/-- What stands between the last opening of an attribute and the next quote, without its escapes. -/
def lastAttribute? (name markup : Text) : Option Text := do
  let rest ← Text.afterLast? (name ++ "=\"".toList) markup
  let (raw, _) ← Text.cut? ['"'] rest
  return unescape raw

/-- At the end of markup an attribute is found again, whatever stands before it. -/
theorem lastAttribute?_append {name value : Text} (plain : '"' ∉ name)
    (apart : (escapeAttribute value).getLast? ≠ some '=') (before : Text) :
    lastAttribute? name
      (before ++ (name ++ "=\"".toList ++ (escapeAttribute value ++ ['"']))) = some value := by
  have opening : name ++ "=\"".toList = (name ++ ['=']) ++ ['"'] := by simp
  have bare : '"' ∉ name ++ ['='] := by simp [plain]
  have last : Text.afterLast? (name ++ "=\"".toList)
      (before ++ (name ++ "=\"".toList ++ (escapeAttribute value ++ ['"']))) =
        some (escapeAttribute value ++ ['"']) := by
    rw [opening]
    simpa using Text.afterLast?_last (by simp) bare (quote_not_mem_escapeAttribute value)
      (by simpa using apart) before
  rw [lastAttribute?, last]
  simp only [Option.bind_eq_bind, Option.bind_some,
    Text.cut?_mark (quote_not_mem_escapeAttribute value), unescape_escapeAttribute]
  rfl

/-! ## attributes from the front -/

/-- What stands before the opening quote of an attribute, its name last, and its value. -/
structure Attribute where
  front : Text
  value : Text

namespace Attribute

def print (entry : Attribute) : Text :=
  entry.front ++ '"' :: (entry.value ++ ['"'])

def IsBare (entry : Attribute) : Prop := '"' ∉ entry.front ∧ '"' ∉ entry.value

instance (entry : Attribute) : Decidable entry.IsBare :=
  inferInstanceAs (Decidable ('"' ∉ entry.front ∧ '"' ∉ entry.value))

/-- The name of an attribute stands between a blank and its sign. -/
def isNamed (name : Text) (entry : Attribute) : Bool :=
  (' ' :: name ++ ['=']).isSuffixOf entry.front

end Attribute

/-- The attributes of markup that is split at its quotes: every second part is a value. -/
def readAttributes : List Text → List Attribute
  | front :: value :: later => ⟨front, value⟩ :: readAttributes later
  | _ => []

def attribute? (name markup : Text) : Option Text :=
  ((readAttributes (markup.splitOn '"')).find? (·.isNamed name)).map (·.value)

/-- Attributes at the front of markup are read in order, whatever follows them. -/
theorem readAttributes_print {attributes : List Attribute}
    (bare : ∀ entry ∈ attributes, entry.IsBare) (rest : Text) :
    readAttributes ((attributes.flatMap (·.print) ++ rest).splitOn '"') =
      attributes ++ readAttributes (rest.splitOn '"') := by
  induction attributes with
  | nil => rfl
  | cons entry attributes ih =>
    obtain ⟨⟨front, value⟩, bare⟩ := List.forall_mem_cons.1 bare
    rw [List.flatMap_cons, Attribute.print, List.append_assoc, List.append_assoc, List.cons_append,
      List.splitOn_append_cons_self_of_not_mem front, List.append_assoc, List.singleton_append,
      List.splitOn_append_cons_self_of_not_mem value, readAttributes, ih bare, List.cons_append]

end Html

end ChatTranscript

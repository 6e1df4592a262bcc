import ChatTranscript.Proofs.Json.Fields
import ChatTranscript.Card.Basic

/-!
# Accepted cards

The entries of an accepted card beyond the known ones do not hide a known one. So templates see its
overwrite section under its key, and there the id of its click handler, if it has one.
-/

namespace ChatTranscript

variable {key name : Text} {value : Json} {fields : Fields}

/-! ## entries that are not null -/

namespace Fields

theorem get?_present_eq_none (h : ∀ entry ∈ fields, entry.1 ≠ key) :
    get? key (present fields) = none :=
  get?_eq_none fun entry member => h entry ((List.mem_filter.1 member).1)

/-- Before entries without the key, a present entry is found unless it is null. -/
theorem get?_present_cons_self (rest : get? key (present fields) = none) :
    get? key (present ((key, value) :: fields)) =
      if value.kind = .null then none else some value := by
  unfold present at rest ⊢
  by_cases null : value.kind = .null
  · rw [List.filter_cons_of_neg (by simpa using null), rest, if_pos null]
  · rw [List.filter_cons_of_pos (by simpa using null), get?_cons_self, if_neg null]

theorem get?_present_cons_of_ne (h : name ≠ key) :
    get? key (present ((name, value) :: fields)) = get? key (present fields) := by
  unfold present
  by_cases null : value.kind = .null
  · rw [List.filter_cons_of_neg (by simpa using null)]
  · rw [List.filter_cons_of_pos (by simpa using null), get?_cons_of_ne h]

end Fields

namespace Card

/-! ## the overwrite section -/

namespace Overwrite

/-- No other entry takes the place of the handler id. -/
def Proper (overwrite : Overwrite) : Prop :=
  ∀ entry ∈ overwrite.extras, entry.1 ≠ "clickHandlerId".toList

/-- The first spelling of a known key is used wherever it is there, so it is never left over. -/
theorem ne_of_mem_extras (keys : List Text)
    (known : keys ∈ [handlerKeys, handlerIdKeys, paramsKeys]) (first : keys.head? = some key) :
    ∀ entry ∈ (ofFields fields).extras, entry.1 ≠ key := by
  rintro ⟨name, value⟩ member same
  obtain ⟨member, unused⟩ := List.mem_filter.1 member
  obtain ⟨keys, rfl⟩ := List.head?_eq_some_iff.1 first
  dsimp only at same
  rw [same] at member unused
  obtain ⟨found, there⟩ := Fields.get?_of_mem member
  have used : Fields.firstOf? (key :: keys) fields = some (key, found) := by
    rw [Fields.firstOf?, List.findSome?_cons, there]
    rfl
  simp only [List.mem_cons, List.not_mem_nil, or_false] at known
  obtain same | same | same := known
  all_goals
    rw [same] at used
    simp [used] at unused

theorem proper_ofFields (fields : Fields) : (ofFields fields).Proper :=
  ne_of_mem_extras handlerIdKeys (by simp) rfl

/-- Templates see the parameters of the section, unless they are null. -/
theorem get?_clickParams_ofFields (fields : Fields) :
    Fields.get? "clickParams".toList (ofFields fields).context =
      if (ofFields fields).clickParams.kind = .null then none
      else some (ofFields fields).clickParams := by
  have noOther : ∀ entry ∈ (ofFields fields).extras, entry.1 ≠ "clickParams".toList :=
    ne_of_mem_extras paramsKeys (by simp) rfl
  rw [context]
  simp only [List.cons_append, List.nil_append]
  rw [Fields.get?_present_cons_of_ne (by decide), Fields.get?_present_cons_of_ne (by decide),
    Fields.get?_present_cons_self (Fields.get?_present_eq_none noOther)]

theorem Proper.get?_context {overwrite : Overwrite} (proper : overwrite.Proper) :
    Fields.get? "clickHandlerId".toList overwrite.context =
      overwrite.clickHandlerId.map Json.str := by
  have later : Fields.get? "clickHandlerId".toList (Fields.present
      (("clickParams".toList, overwrite.clickParams) :: overwrite.extras)) = none := by
    rw [Fields.get?_present_cons_of_ne (by decide), Fields.get?_present_eq_none proper]
  rw [context]
  simp only [List.cons_append, List.nil_append]
  rw [Fields.get?_present_cons_of_ne (by decide), Fields.get?_present_cons_self later]
  cases overwrite.clickHandlerId with
  | none => rfl
  | some id => rfl

end Overwrite

/-! ## the card -/

/-- No other entry takes the place of the overwrite section, which is proper itself. -/
structure Proper (card : Card) : Prop where
  extras : ∀ entry ∈ card.extras, entry.1 ≠ "overwrite".toList
  overwrite : ∀ overwrite ∈ card.overwrite, overwrite.Proper

theorem Proper.get?_context {card : Card} (proper : card.Proper) :
    Fields.get? "overwrite".toList card.context =
      card.overwrite.map fun overwrite => Json.obj overwrite.context := by
  have later : Fields.get? "overwrite".toList (Fields.present
      (("config".toList, card.config) :: card.extras)) = none := by
    rw [Fields.get?_present_cons_of_ne (by decide), Fields.get?_present_eq_none proper.extras]
  rw [context]
  simp only [List.cons_append, List.nil_append]
  rw [Fields.get?_present_cons_of_ne (by decide), Fields.get?_present_cons_of_ne (by decide),
    Fields.get?_present_cons_of_ne (by decide), Fields.get?_present_cons_self later]
  cases card.overwrite with
  | none => rfl
  | some overwrite => rfl

theorem exists_part_of_overwriteOf {value : Option Json} {overwrite : Overwrite}
    (accepted : overwriteOf value = .ok (some overwrite)) : ∃ part, overwrite = .ofFields part := by
  cases value with
  | none => cases accepted
  | some value =>
    cases value with
    | obj fields =>
      cases accepted
      exact ⟨fields, rfl⟩
    | null | bool | int | float | str | arr => cases accepted

/-- What an accepted card has read from its fields. -/
theorem ofFields_eq_ok {card : Card} (accepted : ofFields fields = .ok card) :
    ∃ sections overwrite,
      sectionsOf (Fields.get? "meta".toList fields) = .ok sections ∧
      overwriteOf (Fields.get? "overwrite".toList fields) = .ok overwrite ∧
      card =
        { app := textOf (Fields.get? "app".toList fields)
          view := textOf (Fields.get? "view".toList fields)
          sections
          overwrite
          config := (Fields.get? "config".toList fields).getD (.obj [])
          extras := fields.filter fun (key, _) => !knownKeys.contains key } := by
  unfold ofFields at accepted
  dsimp only at accepted
  split at accepted
  · rename_i sections overwrite own part
    cases accepted
    exact ⟨sections, overwrite, own, part, rfl⟩
  · cases accepted

/-- An accepted card has read its overwrite section from an object. -/
theorem exists_part_of_ofFields {fields : Fields} {card : Card}
    (accepted : ofFields fields = .ok card) :
    ∀ overwrite ∈ card.overwrite, ∃ part, overwrite = .ofFields part := by
  obtain ⟨sections, overwrite, -, found, rfl⟩ := ofFields_eq_ok accepted
  rintro part rfl
  exact exists_part_of_overwriteOf found

theorem proper_ofFields {fields : Fields} {card : Card} (accepted : ofFields fields = .ok card) :
    card.Proper := by
  refine ⟨?_, fun overwrite given => ?_⟩
  · obtain ⟨sections, overwrite, -, -, rfl⟩ := ofFields_eq_ok accepted
    rintro entry member same
    have unknown := (List.mem_filter.1 member).2
    simp [same, knownKeys] at unknown
  · obtain ⟨part, rfl⟩ := exists_part_of_ofFields accepted overwrite given
    exact Overwrite.proper_ofFields part

theorem ofFields_of_ofJson {card : Card} (accepted : ofJson (.obj fields) = .ok card) :
    ofFields fields = .ok card := by
  unfold ofJson at accepted
  dsimp only at accepted
  split at accepted
  · rename_i read
    cases accepted
    exact read
  · cases accepted

theorem exists_fields_of_ofJson {value : Json} {card : Card} (accepted : ofJson value = .ok card) :
    ∃ fields, ofFields fields = .ok card := by
  cases value with
  | obj fields => exact ⟨fields, ofFields_of_ofJson accepted⟩
  | null | bool | int | float | str | arr => cases accepted

/-- However it is written, an accepted card is read from an object. -/
theorem exists_fields_of_ofContent {content : Json} {card : Card}
    (accepted : ofContent content = .ok card) : ∃ fields, ofFields fields = .ok card := by
  unfold ofContent at accepted
  split at accepted
  · split at accepted
    · exact exists_fields_of_ofJson accepted
    · cases accepted
    · cases accepted
  · exact exists_fields_of_ofJson accepted

theorem proper_ofContent {content : Json} {card : Card} (accepted : ofContent content = .ok card) :
    card.Proper := by
  obtain ⟨fields, read⟩ := exists_fields_of_ofContent accepted
  exact proper_ofFields read

theorem exists_part_of_ofContent {content : Json} {card : Card}
    (accepted : ofContent content = .ok card) :
    ∀ overwrite ∈ card.overwrite, ∃ part, overwrite = .ofFields part := by
  obtain ⟨fields, read⟩ := exists_fields_of_ofContent accepted
  exact exists_part_of_ofFields read

end Card

end ChatTranscript

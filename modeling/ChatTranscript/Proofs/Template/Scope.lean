import ChatTranscript.Proofs.Card.Accepted
import ChatTranscript.Proofs.Template.Walk

/-!
# What a template sees

The context of a render and the contexts of the rounds of its loops. In a plain one every name leads
somewhere or nowhere but never to a fault, and whatever is shown is inert.

## Main definitions

* `Template.Scope`: plain contexts with a click handler or none.

## Main statements

* `Template.Scope.lookup_short`: paths lead to plain values.
* `Template.Scope.clickAttributes_inert`: the click attributes are shown as inert text.
* `Template.Scope.round`: a round of a loop over plain elements has a plain context.
* `Template.scope_enhance`: the context of an accepted card is plain if the card is.
-/

namespace ChatTranscript

namespace Template

/-- The entries of a context: plain values, the id of a click handler or null, and an overwrite
section. -/
structure Scope (fields : Fields) : Prop where
  values : ∀ entry ∈ fields, isPlain entry.2 = true
  handler : ∃ id, Fields.get? handlerKey fields = some (.ofText? id)
  overwrite : ∃ overwrite, Fields.get? overwriteKey fields = some (.obj overwrite)

variable {fields : Fields} {key : Text} {value item : Json} {index count : Nat}

/-! ## looking up -/

theorem plain_of_get? (values : ∀ entry ∈ fields, isPlain entry.2 = true) :
    ∀ shown ∈ Fields.get? key fields, isPlain shown = true :=
  fun _ found => values _ (Fields.mem_of_get? found)

namespace Scope

variable (scope : Scope fields)

include scope

/-- A path leads to a plain value or nowhere. -/
theorem lookup_short {path : Text}
    (short : ∀ step ∈ steps (Text.strip path), step.isShort = true) :
    ∃ found, lookup (.obj fields) path = .ok found ∧ ∀ shown ∈ found, isPlain shown = true := by
  obtain nowhere | entry | ⟨first, rest, eq, -, along⟩ := lookup_cases path
  · exact ⟨none, nowhere fields, by simp⟩
  · exact ⟨_, entry fields, plain_of_get? scope.values⟩
  · obtain ⟨last, reaches, found⟩ | ⟨-, found⟩ := follow_cases (.obj fields) (eq ▸ short)
    · cases reaches with
      | step leads onward =>
        have plain := onward.plain (leads.plain_of_entries scope.values)
        exact ⟨some last, (along fields).trans found, by simpa using plain⟩
    · exact ⟨none, (along fields).trans found, by simp⟩

end Scope

/-! ## click attributes -/

theorem inert_writeAttributes {id : Text} {params : Json} (noBrace : '{' ∉ id)
    (plain : isPlain params = true) : Inert (writeAttributes (.str id) params) := by
  have bare : '{' ∉ Json.spaced.comma ∧ '{' ∉ Json.spaced.colon := by decide
  have front : Inert ("data-click-handler=\"".toList ++ id ++ "\" data-click-params=\"".toList) :=
    .of_not_mem (by simp [noBrace])
  have written := inert_escapeAttribute (inert_write bare params plain)
  exact (front.append written).append (.of_not_mem (by decide))

/-- An empty object counts as absent, which again stands for the empty object. -/
theorem truthy?_obj_getD (fields : Fields) :
    (Json.truthy? (some (.obj fields))).getD (.obj []) = .obj fields := by
  cases fields <;> rfl

theorem Scope.clickAttributes_inert (scope : Scope fields) :
    ∃ shown, clickAttributes (.obj fields) = .ok shown ∧ Inert shown := by
  obtain ⟨id, handler⟩ := scope.handler
  obtain ⟨overwrite, found⟩ := scope.overwrite
  have plainOverwrite := isPlain_obj.1 (plain_of_get? scope.values _ found)
  have params (value : Option Json) (plain : ∀ shown ∈ value, isPlain shown = true) :
      isPlain ((Json.truthy? value).getD (.obj [])) = true := by
    cases value with
    | none => rfl
    | some value =>
      rw [Json.truthy?, Option.filter_some]
      split
      · exact plain value rfl
      · rfl
  match id with
  | none | some [] => exact ⟨[], by simp [clickAttributes, Json.entry, handler]; rfl, .nil⟩
  | some (c :: id) =>
    refine ⟨_, ?_, inert_writeAttributes (isPlain_str.1 (plain_of_get? scope.values _ handler))
      (params (Fields.get? "clickParams".toList overwrite) (plain_of_get? fun entry member =>
        (plainOverwrite entry member).2.2))⟩
    simp only [clickAttributes, Json.entry, handler, found, bind, Except.bind, truthy?_obj_getD]
    rfl

/-! ## rounds of a loop -/

/-- What a round has of its own. -/
def ownEntries (item : Json) (index count : Nat) : Fields :=
  [("this".toList, item), ("@index".toList, .int index), ("@first".toList, .bool (index = 0)),
    ("@last".toList, .bool (index + 1 = count))]

theorem roundContext_eq (context : Json) : roundContext context item index count =
    .obj (ownEntries item index count ++ item.entries ++ context.entries) := by
  cases context <;> cases item <;> rfl

/-- What a round has of its own shadows the keys of the element, and these the outer ones. -/
theorem get?_roundContext (context : Json) :
    (roundContext context item index count).get? key =
      (Fields.get? key (ownEntries item index count)).or
        ((item.get? key).or (context.get? key)) := by
  rw [roundContext_eq, Json.get?, Fields.get?_append, Fields.get?_append, Option.or_assoc,
    Json.get?_entries, Json.get?_entries]

/-- A plain element has none of the keys that belong to contexts alone. -/
theorem get?_round_of_reserved (plain : isPlain item = true)
    (reserved : key = handlerKey ∨ key = overwriteKey) :
    Fields.get? key (ownEntries item index count ++ item.entries ++ fields) =
      Fields.get? key fields := by
  have own : Fields.get? key (ownEntries item index count) = none := by
    obtain rfl | rfl := reserved <;> rfl
  have element : Fields.get? key item.entries = none := by
    refine Fields.get?_eq_none fun entry member => ?_
    cases item with
    | obj fields =>
      obtain ⟨-, ⟨noHandler, noOverwrite⟩, -⟩ := isPlain_obj.1 plain entry member
      obtain rfl | rfl := reserved
      · exact noHandler
      · exact noOverwrite
    | null | bool | int | float | str | arr => cases member
  rw [Fields.get?_append, Fields.get?_append, own, element]
  rfl

theorem Scope.round (scope : Scope fields) (plain : isPlain item = true) :
    ∃ inner, roundContext (.obj fields) item index count = .obj inner ∧ Scope inner := by
  refine ⟨_, roundContext_eq _, ?_, ?_, ?_⟩
  · intro entry member
    obtain (own | element) | outer := (List.mem_append.1 member).imp_left List.mem_append.1
    · simp only [ownEntries, List.mem_cons, List.not_mem_nil, or_false] at own
      obtain rfl | rfl | rfl | rfl := own
      · exact plain
      all_goals rfl
    · cases item with
      | obj fields => exact (isPlain_obj.1 plain entry element).2.2
      | null | bool | int | float | str | arr => cases element
    · exact scope.values entry outer
  · obtain ⟨id, handler⟩ := scope.handler
    exact ⟨id, (get?_round_of_reserved plain (.inl rfl)).trans handler⟩
  · obtain ⟨overwrite, found⟩ := scope.overwrite
    exact ⟨overwrite, (get?_round_of_reserved plain (.inr rfl)).trans found⟩

/-! ## the context of a card -/

open Click

/-- Ids that are texts without opening braces. -/
def IsBareId (id : HandlerId) : Prop := ∃ name, id = .text name ∧ '{' ∉ name

variable {source : IdSource} {registry : Registry}

/-- Suffixes are drawn from the letters and digits. -/
def DrawsDigits (source : IdSource) : Prop :=
  ∀ n, ∀ c ∈ source.suffix n, ∃ d < 36, c = suffixDigit d

theorem drawsDigits_counting (milliseconds first : Nat) :
    DrawsDigits (.counting milliseconds first) := by
  have digits (count n : Nat) : ∀ c ∈ suffixDigits count n, ∃ d < 36, c = suffixDigit d := by
    induction count generalizing n with
    | zero => simp [suffixDigits]
    | succ count ih =>
      intro c member
      obtain earlier | last := List.mem_append.1 member
      · exact ih (n / 36) c earlier
      · exact ⟨n % 36, Nat.mod_lt n (by decide), List.mem_singleton.1 last⟩
  exact fun n => digits 5 (first + n)

theorem drawFresh_isId (source : IdSource) (registry : Registry) (tries : Nat) :
    ∃ n, (Registry.drawFresh source registry tries).1 = source.id n := by
  induction tries generalizing registry with
  | zero => exact ⟨registry.drawn, rfl⟩
  | succ tries ih =>
    rw [Registry.drawFresh]
    split
    · exact ih _
    · exact ⟨registry.drawn, rfl⟩

theorem brace_not_mem_id (drawn : DrawsDigits source) (n : Nat) : '{' ∉ source.id n := by
  have letter : ∀ d < 36, '{' ≠ suffixDigit d := by decide
  unfold IdSource.id
  simp only [List.mem_append, not_or]
  refine ⟨⟨⟨?_, brace_not_mem_ofNat _⟩, ?_⟩, fun member => ?_⟩
  · simp
  · simp
  · obtain ⟨d, bound, same⟩ := drawn n _ member
    exact letter d bound same

theorem register_bare (drawn : DrawsDigits source) (name : Text) (payload : Json)
    {id : Option HandlerId} (given : ∀ id' ∈ id, IsBareId id') (registry : Registry) :
    ∀ id' ∈ (registry.register source name payload id).1, IsBareId id' := by
  intro id' bound
  unfold Registry.register at bound
  split at bound
  · cases bound
  · cases kept : id.filter HandlerId.isGiven with
    | some old =>
      simp only [kept, Option.mem_def, Option.some.injEq] at bound
      subst bound
      exact given old (Option.eq_some_of_filter_eq_some kept)
    | none =>
      obtain ⟨n, generated⟩ := drawFresh_isId source registry registry.entries.length
      rw [← Registry.newId] at generated
      simp only [kept, Option.mem_def, Option.some.injEq, generated] at bound
      exact ⟨source.id n, bound.symm, brace_not_mem_id drawn n⟩

theorem ofJson?_text (id : Option Text) :
    ∃ id', HandlerId.ofJson? (id.map Json.str) = .ok id' ∧
      ∀ given ∈ id', ∃ name ∈ id, given = .text name := by
  match id with
  | none | some [] => exact ⟨none, rfl, by simp⟩
  | some (c :: name) => exact ⟨some (.text (c :: name)), rfl, by simp⟩

/-- The handler of a proper card is bound under the id that the card asks for, if it names one. -/
theorem registerHandler_proper {card : Card} (proper : card.Proper) (source : IdSource)
    (registry : Registry) :
    registerHandler source (.obj card.context) registry = (.ok none, registry) ∨
      ∃ overwrite ∈ card.overwrite, ∃ name id,
        (∀ given ∈ id, ∃ text ∈ overwrite.clickHandlerId, given = .text text) ∧
        registerHandler source (.obj card.context) registry =
          (.ok (registry.register source name (.obj card.context) id).1,
            (registry.register source name (.obj card.context) id).2) := by
  have context := proper.get?_context
  cases given : card.overwrite with
  | none =>
    rw [given] at context
    left
    simp only [registerHandler, Json.entry, context]
    rfl
  | some overwrite =>
    rw [given, Option.map_some] at context
    obtain ⟨id, read, texts⟩ := ofJson?_text overwrite.clickHandlerId
    rw [← (proper.overwrite overwrite given).get?_context] at read
    cases named : Json.truthy? (Fields.get? "clickHandler".toList overwrite.context) with
    | none =>
      left
      simp only [registerHandler, Json.entry, context, named]
    | some name =>
      by_cases unknown : (Action.named? (Text.strip name.asText)).isNone = true
      · left
        simp only [registerHandler, Json.entry, context, named, if_pos unknown]
      · refine .inr ⟨overwrite, rfl, name.asText, id, texts, ?_⟩
        simp only [registerHandler, Json.entry, context, named, if_neg unknown, read]

/-- A plain card is given an id without braces, or none. -/
theorem registerHandler_card {card : Card} (proper : card.Proper)
    (plain : isPlain (.obj card.context) = true) (drawn : DrawsDigits source)
    (registry : Registry) :
    ∃ id after, registerHandler source (.obj card.context) registry = (.ok id, after) ∧
      ∀ given ∈ id, IsBareId given := by
  obtain none | ⟨overwrite, given, name, id, texts, bound⟩ :=
    registerHandler_proper proper source registry
  · exact ⟨_, _, none, by simp⟩
  · have context := proper.get?_context
    rw [given, Option.map_some] at context
    have values := fun entry member => (isPlain_obj.1 plain entry member).2.2
    have overwriteValues := fun entry member =>
      (isPlain_obj.1 (plain_of_get? values _ context) entry member).2.2
    have handlerId := (proper.overwrite overwrite given).get?_context
    refine ⟨_, _, bound, register_bare drawn name _ (fun id' member => ?_) registry⟩
    obtain ⟨text, known, rfl⟩ := texts id' member
    rw [Option.mem_def.1 known] at handlerId
    exact ⟨text, rfl, isPlain_str.1 (plain_of_get? overwriteValues _ handlerId)⟩

theorem scope_enhance (plain : isPlain (.obj fields) = true) {id : Option HandlerId}
    (bare : ∀ id' ∈ id, IsBareId id') :
    ∃ inner, enhance (.obj fields) id = .obj inner ∧ Scope inner := by
  have values := fun entry member => (isPlain_obj.1 plain entry member).2.2
  obtain ⟨name, shown, noBrace⟩ : ∃ name, (id.map HandlerId.toJson).getD .null = .ofText? name ∧
      isPlain (.ofText? name) = true := by
    cases id with
    | none => exact ⟨none, rfl, rfl⟩
    | some given =>
      obtain ⟨name, rfl, noBrace⟩ := bare given rfl
      exact ⟨some name, rfl, isPlain_str.2 noBrace⟩
  obtain ⟨overwrite, eq, plainOverwrite⟩ : ∃ overwrite, enhance (.obj fields) id = .obj
      ((handlerKey, (id.map HandlerId.toJson).getD .null) :: (overwriteKey, .obj overwrite) ::
        fields) ∧ isPlain (.obj overwrite) = true := by
    unfold enhance
    dsimp only
    split
    · rename_i overwrite found
      exact ⟨overwrite, rfl, plain_of_get? values _ found⟩
    · exact ⟨[], rfl, rfl⟩
  refine ⟨(handlerKey, .ofText? name) :: (overwriteKey, .obj overwrite) :: fields, ?_, ?_, ?_, ?_⟩
  · rw [eq, shown]
  · intro entry member
    obtain rfl | rfl | member := List.mem_cons.1 member |>.imp_right List.mem_cons.1
    · exact noBrace
    · exact plainOverwrite
    · exact values entry member
  · exact ⟨name, Fields.get?_cons_self⟩
  · exact ⟨overwrite, (Fields.get?_cons_of_ne (by decide)).trans Fields.get?_cons_self⟩

end Template

end ChatTranscript

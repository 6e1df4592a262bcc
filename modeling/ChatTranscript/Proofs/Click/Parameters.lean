import ChatTranscript.Proofs.Click.Registration
import ChatTranscript.Proofs.Html.Attribute
import ChatTranscript.Proofs.Json.RoundTrip
import ChatTranscript.Proofs.Template.Passes
import ChatTranscript.Proofs.Template.Scope

/-!
# Click parameters in markup

The parameters of a click stand in the markup as escaped JSON text. A page that takes them from the
attribute, undoes the escapes and reads the text has the parameters that the card was given.

## Main definitions

* `Card.Overwrite.givenParams?`: the parameters that an overwrite section gives.

## Main statements

* `Template.readParams_render`: the parameters of a card with a known action are read back from its
  click attributes.
-/

namespace ChatTranscript

open Click

variable {fields part params : Fields} {key name : Text} {value : Json} {action : Action}

theorem Fields.get?_present_cons_of_kind (shown : value.kind ≠ .null) (fields : Fields) :
    get? key (present ((key, value) :: fields)) = some value := by
  rw [present, List.filter_cons_of_pos (by simpa using shown), get?_cons_self]

/-! ## what the card gives -/

namespace Card.Overwrite

/-- The parameters that an overwrite section gives: the entries of an object under either key, or
none. -/
def givenParams? (part : Fields) : Option Fields :=
  match Fields.firstOf? paramsKeys part with
  | none => some []
  | some (_, .obj params) => some params
  | some _ => none

theorem clickParams_ofFields (given : givenParams? part = some params) :
    (ofFields part).clickParams = .obj params := by
  unfold givenParams? at given
  split at given
  · rename_i absent
    cases given
    simp [ofFields, absent]
  · rename_i found
    cases given
    simp [ofFields, found]
  · cases given

variable {overwrite : Card.Overwrite}

theorem get?_clickHandler (named : overwrite.clickHandler = some name) :
    Fields.get? "clickHandler".toList overwrite.context = some (.str name) := by
  rw [context, named]
  exact Fields.get?_present_cons_of_kind (by simp [Json.ofText?, Json.kind]) _

theorem get?_clickParams (given : overwrite.clickParams = .obj params) :
    Fields.get? "clickParams".toList overwrite.context = some (.obj params) := by
  rw [context, given]
  simp only [List.cons_append, List.nil_append]
  rw [Fields.get?_present_cons_of_ne (by decide), Fields.get?_present_cons_of_ne (by decide)]
  exact Fields.get?_present_cons_of_kind (by simp [Json.kind]) _

end Card.Overwrite

/-! ## the handler -/

namespace Click

variable {source : IdSource} {registry : Registry} {request : Request}

theorem Registry.choose_isGiven (given : ∀ id ∈ request.id, id.isGiven = true) :
    (choose source request registry).1.isGiven = true := by
  unfold choose
  cases asked : request.id with
  | some id => exact given id asked
  | none =>
    obtain ⟨n, drawn⟩ := Template.drawFresh_isId source registry registry.entries.length
    have some : (source.id n).isEmpty = false := by
      rw [IdSource.id_eq]
      rfl
    change (!(newId source registry).1.isEmpty) = true
    rw [newId, drawn, some]
    rfl

/-- Parameters are read back from their JSON text. -/
theorem readParams_write (distinct : (Json.obj params).distinctKeys = true)
    (within : (Json.obj params).withinDigits = true) :
    readParams (some (Json.write Json.spaced (.obj params))) = .ok params := by
  have read := Json.read_write Json.readable_spaced distinct within
  obtain ⟨c, more, eq⟩ := List.exists_cons_of_ne_nil
    (Json.write_ne_nil (s := Json.spaced) (.obj params))
  rw [eq] at read ⊢
  simp only [readParams, read]

theorem Action.name_ne_nil (known : Action.named? (Text.strip name) = some action) : name ≠ [] := by
  rintro rfl
  cases known

end Click

namespace Template

variable {overwrite : Fields}

section

variable (section_ : Fields.get? "overwrite".toList fields = some (.obj overwrite))
  (named : Fields.get? "clickHandler".toList overwrite = some (.str name))
  (known : Action.named? (Text.strip name) = some action) {id : Option Text}
  (asked : Fields.get? "clickHandlerId".toList overwrite = id.map Json.str)

include section_ named known asked

/-- A context whose overwrite section names a known action asks for a handler, under the id that the
section gives unless it is empty. -/
theorem ofContext?_named : Request.ofContext? (.obj fields) =
    some ⟨(id.map HandlerId.text).filter HandlerId.isGiven, action, .obj fields⟩ := by
  have truthy : Json.truthy? (some (.str name)) = some (.str name) := by
    simp [Json.truthy?, Json.isTruthy, Action.name_ne_nil known]
  obtain ⟨id', read, given⟩ : ∃ id', HandlerId.ofJson? (id.map Json.str) = .ok id' ∧
      id'.filter HandlerId.isGiven = (id.map HandlerId.text).filter HandlerId.isGiven := by
    match id with
    | none | some [] => exact ⟨none, rfl, rfl⟩
    | some (c :: text) => exact ⟨some (.text (c :: text)), rfl, rfl⟩
  simp only [Request.ofContext?, Json.get?, section_, named, truthy, asked, read, Except.toOption,
    Option.bind_eq_bind, Option.bind_some, Request.ofName?, Json.asText, known, Option.map_some,
    given]

/-- The handler that such a context asks for is registered. -/
theorem registerHandler_grant (source : IdSource) (registry : Registry) :
    registerHandler source (.obj fields) registry =
      let granted := registry.grant source
        ⟨(id.map HandlerId.text).filter HandlerId.isGiven, action, .obj fields⟩
      (.ok (some granted.1), granted.2) := by
  have request := ofContext?_named section_ named known asked
  obtain ⟨asks, eq, registered⟩ | ⟨none, -⟩ := registerHandler_cases source (.obj fields)
  · cases request.symm.trans eq
    exact registered registry
  · cases request.symm.trans none

theorem registerHandler_named (source : IdSource) (registry : Registry) :
    ∃ id after, registerHandler source (.obj fields) registry = (.ok (some id), after) ∧
      id.isGiven = true :=
  ⟨_, _, registerHandler_grant section_ named known asked source registry,
    Registry.choose_isGiven fun _ member => (Option.filter_eq_some_iff.1 member).2⟩

end

/-! ## the markup -/

/-- The parameters are the last attribute, so an id that looks like attributes does not matter. -/
theorem lastAttribute?_writeAttributes (id : Json) (params : Fields) :
    Html.lastAttribute? "data-click-params".toList (writeAttributes id (.obj params)) =
      some (Json.write Json.spaced (.obj params)) := by
  have brace : (Html.escapeAttribute (Json.write Json.spaced (.obj params))).getLast? ≠
      some '=' := by
    have last : Html.escapeAttribute ['}'] = ['}'] := rfl
    rw [Json.write, Html.escapeAttribute_append, last, List.getLast?_concat]
    decide
  have split : "\" data-click-params=\"".toList =
      "\" ".toList ++ ("data-click-params".toList ++ "=\"".toList) := by decide
  have quote : "\"".toList = ['"'] := rfl
  have found := Html.lastAttribute?_append (by decide : '"' ∉ "data-click-params".toList) brace
    ("data-click-handler=\"".toList ++ id.asText ++ "\" ".toList)
  unfold writeAttributes
  rw [split, quote]
  simpa only [List.append_assoc] using found

/-- Behind a registration the attributes carry the id and the parameters of the card. -/
theorem clickAttributes_enhance
    (section_ : Fields.get? "overwrite".toList fields = some (.obj overwrite))
    (given : Fields.get? "clickParams".toList overwrite = some (.obj params)) {id : HandlerId}
    (isGiven : id.isGiven = true) :
    clickAttributes (enhance (.obj fields) (some id)) =
      .ok (writeAttributes id.toJson (.obj params)) := by
  have context : enhance (.obj fields) (some id) =
      .obj ((handlerKey, id.toJson) :: (overwriteKey, .obj overwrite) :: fields) := by
    simp only [enhance, section_, Option.map_some, Option.getD_some]
  have handler : Json.truthy? (some id.toJson) = some id.toJson := Option.filter_some_pos isGiven
  have other : Fields.get? overwriteKey
      ((handlerKey, id.toJson) :: (overwriteKey, .obj overwrite) :: fields) =
        some (.obj overwrite) :=
    (Fields.get?_cons_of_ne (by decide)).trans Fields.get?_cons_self
  simp only [clickAttributes, context, Json.entry, Fields.get?_cons_self, bind, Except.bind,
    handler, other, truthy?_obj_getD, given]
  rfl

/-- The template of one tag shows the attributes and nothing else. -/
theorem fill_clickAttrs (context : Json) :
    fill "{{__clickAttrs}}".toList context = clickAttributes context := by
  have text : "{{__clickAttrs}}".toList = tag "__clickAttrs".toList ++ [] := by decide
  have noBlock : Text.Skips readBlock (tag "__clickAttrs".toList) :=
    skips_tag (fun _ => readBlock_eq_none) (by decide)
      (readBlock_tag_eq_none (by decide) (by decide))
  have expanded : expand (tag "__clickAttrs".toList ++ []) context =
      .ok (tag "__clickAttrs".toList ++ []) := by
    rw [expand, replace_scan_skips noBlock]
    rfl
  have read : readVariable (tag "__clickAttrs".toList ++ []) =
      some (Text.strip "__clickAttrs".toList, []) :=
    readVariable_tag (by decide) (by decide) []
  rw [text, fill, expanded]
  change substitute _ context = _
  rw [substitute, replace_scan_found (by decide) read]
  change (do return (← clickAttributes context) ++ []) = _
  cases clickAttributes context with
  | ok shown => simp [bind, Except.bind, pure, Except.pure]
  | error fault => rfl

/-- The parameters of a card with a known action are read back from its click attributes: they are
the last of the markup, behind their escapes and as JSON text, and nothing of them is lost. -/
theorem readParams_render (content : Json) (part : Fields) {card : Card}
    (accepted : Card.ofContent content = .ok card)
    (overwrite : card.overwrite = some (.ofFields part))
    (named : (Card.Overwrite.ofFields part).clickHandler = some name)
    (known : Action.named? (Text.strip name) = some action)
    (given : Card.Overwrite.givenParams? part = some params)
    (distinct : (Json.obj params).distinctKeys = true)
    (within : (Json.obj params).withinDigits = true) (source : IdSource) (registry : Registry) :
    ∃ markup after raw,
      render source "{{__clickAttrs}}".toList (.obj card.context) registry = (.ok markup, after) ∧
      Html.lastAttribute? "data-click-params".toList markup = some raw ∧
      readParams (some raw) = .ok params := by
  have proper := Card.proper_ofContent accepted
  have section_ := proper.get?_context
  rw [overwrite, Option.map_some] at section_
  obtain ⟨id, after, registered, isGiven⟩ := registerHandler_named section_
    (Card.Overwrite.get?_clickHandler named) known
    (proper.overwrite _ overwrite).get?_context source registry
  have attributes := clickAttributes_enhance section_
    (Card.Overwrite.get?_clickParams (Card.Overwrite.clickParams_ofFields given)) isGiven
  refine ⟨writeAttributes id.toJson (.obj params), after, Json.write Json.spaced (.obj params), ?_,
    lastAttribute?_writeAttributes _ _, readParams_write distinct within⟩
  simp only [render, registered, fill_clickAttrs, attributes]

/-- An id that looks like attributes, and parameters with escapes in their texts. -/
def attributesSection : Fields := [
  ("clickHandler".toList, .str "noop".toList),
  ("clickHandlerId".toList, .str "h\" data-click-params=\"[]".toList),
  ("clickParams".toList, .obj [("a&quot;b".toList, .str "\"<&amp;".toList),
    ("n".toList, .arr [.int (-7), .float .nan, .float (.finite true .zero), .null])])]

theorem readParams_render_attributesSection :
    ∃ card markup after raw,
      Card.ofContent (.obj [("overwrite".toList, .obj attributesSection)]) = .ok card ∧
      render (.counting 0 0) "{{__clickAttrs}}".toList (.obj card.context) .empty =
        (.ok markup, after) ∧
      Html.lastAttribute? "data-click-params".toList markup = some raw ∧
      readParams (some raw) = .ok [("a&quot;b".toList, .str "\"<&amp;".toList),
        ("n".toList, .arr [.int (-7), .float .nan, .float (.finite true .zero), .null])] := by
  obtain ⟨markup, after, raw, shown⟩ :=
    readParams_render (.obj [("overwrite".toList, .obj attributesSection)]) attributesSection
      rfl rfl rfl rfl rfl (by decide) (by decide) (.counting 0 0) .empty
  exact ⟨_, markup, after, raw, rfl, shown⟩

end Template

end ChatTranscript

import ChatTranscript.Proofs.Template.ClickAttributes

/-!
# Handler ids in markup

The id of a handler stands in the markup as the card gives it, while the parameters behind it are
escaped. A page reads both in the same way: up to the next quote, and without escapes. So it finds
the id of the handler only if there is nothing in the id that such a reading changes, and else a
click goes to whatever is bound to the id that was found.

## Main statements

* `Html.firstAttribute?_writeAttributes`: the id that a page finds.
* `Template.clickHandlerId_render`: when it is the id that the handler is bound to.
* `Template.clickHandlerId_misread`: a quote in an id.
-/

namespace ChatTranscript

open Click

variable {id : Text}

/-! ## reading an id -/

namespace Html

/-- The id that a page finds is the given one up to its first quote, without its escapes. -/
theorem firstAttribute?_writeAttributes (id : Text) (params : Json) :
    firstAttribute? "data-click-handler".toList (Template.writeAttributes (.str id) params) =
      some (unescape (id.takeWhile (· != '"'))) := by
  have opening : "data-click-handler=\"".toList =
      "data-click-handler".toList ++ "=\"".toList := by decide
  have between : "\" data-click-params=\"".toList =
      '"' :: " data-click-params=\"".toList := by decide
  unfold Template.writeAttributes
  rw [opening, between]
  simp only [Json.asText, List.append_assoc, List.cons_append]
  have found := firstAttribute?_front "data-click-handler".toList id
    (" data-click-params=\"".toList ++ (escapeAttribute (params.write Json.spaced) ++ "\"".toList))
  simpa only [List.append_assoc] using found

/-- A text is found as it is exactly if it holds no quote and does not look escaped. -/
theorem unescape_takeWhile_eq_iff :
    unescape (id.takeWhile (· != '"')) = id ↔
      '"' ∉ id ∧ ∀ entity ∈ inFragments.entities, ¬ entity <:+: id := by
  have bare : id.takeWhile (· != '"') = id ↔ '"' ∉ id := by
    rw [List.takeWhile_eq_self_iff]
    grind
  rw [← unescapeWith_eq_self_iff inFragments_sound, ← unescape, ← bare]
  constructor
  · intro same
    -- undoing escapes does not make a text longer, so nothing was cut off
    have shorter := length_unescapeWith_le inFragments_sound (id.takeWhile (· != '"'))
    rw [← unescape, same] at shorter
    have whole : id.takeWhile (· != '"') = id :=
      (List.takeWhile_prefix _).eq_of_length_le shorter
    exact ⟨whole, by rwa [whole] at same⟩
  · rintro ⟨whole, same⟩
    rw [whole, same]

end Html

/-! ## clicks -/

namespace Template

variable {content : Json} {card : Card} {overwrite : Card.Overwrite} {name : Text}
  {action : Action}

section

variable (accepted : Card.ofContent content = .ok card) (part : card.overwrite = some overwrite)
  (named : overwrite.clickHandler = some name)
  (known : Action.named? (Text.strip name) = some action)
  (asked : overwrite.clickHandlerId = some id) (notEmpty : id ≠ [])

include accepted part named known asked notEmpty

/-- The action that a card asks for is bound to the id that it gives. -/
theorem registerHandler_asked (source : IdSource) (registry : Registry) :
    registerHandler source (.obj card.context) registry =
      (.ok (some (.text id)),
        (registry.grant source ⟨some (.text id), ⟨action, .obj card.context⟩⟩).2) := by
  have proper := Card.proper_ofContent accepted
  have section_ := proper.get?_context
  rw [part, Option.map_some] at section_
  have given : (overwrite.clickHandlerId.map HandlerId.text).filter HandlerId.isGiven =
      some (.text id) := by
    obtain ⟨c, more, rfl⟩ := List.exists_cons_of_ne_nil notEmpty
    rw [asked]
    rfl
  have registered := registerHandler_grant section_ (Card.Overwrite.get?_clickHandler named) known
    (proper.overwrite _ part).get?_context source registry
  rw [given] at registered
  exact registered

theorem render_asked (source : IdSource) (registry : Registry) :
    render source "{{__clickAttrs}}".toList (.obj card.context) registry =
      (.ok (writeAttributes (.str id) card.clickParams),
        (registry.grant source ⟨some (.text id), ⟨action, .obj card.context⟩⟩).2) := by
  have isGiven : (HandlerId.text id).isGiven = true := by
    obtain ⟨c, more, rfl⟩ := List.exists_cons_of_ne_nil notEmpty
    rfl
  have shown : clickAttributes (card.renderContext (some (.text id))) =
      .ok (card.clickAttributes (some (.text id))) :=
    clickAttributes_card accepted (by simpa using isGiven)
  rw [render, registerHandler_asked accepted part named known asked notEmpty]
  dsimp only
  rw [fill_clickAttrs]
  exact congrArg (·, _) shown

end

/-- A card that asks for a known action under an id binds the action to this id. The id that a page
finds in its markup is this id up to the first quote and without escapes. It is the same id exactly
if there are no quotes and no entities in it, and then a click reaches the card; else a click is
answered as it was before the card was rendered. -/
theorem clickHandlerId_render (accepted : Card.ofContent content = .ok card)
    (part : card.overwrite = some overwrite) (named : overwrite.clickHandler = some name)
    (known : Action.named? (Text.strip name) = some action)
    (asked : overwrite.clickHandlerId = some id) (notEmpty : id ≠ []) (source : IdSource)
    (registry : Registry) :
    ∃ markup after found,
      render source "{{__clickAttrs}}".toList (.obj card.context) registry = (.ok markup, after) ∧
      after.get? (.text id) = some ⟨action, .obj card.context⟩ ∧
      Html.firstAttribute? "data-click-handler".toList markup = some found ∧
      found = Html.unescape (id.takeWhile (· != '"')) ∧
      (found = id ↔ '"' ∉ id ∧ ∀ entity ∈ Html.inFragments.entities, ¬ entity <:+: id) ∧
      ∀ params, after.dispatch (.text found) params =
        if found = id then
          action.run (.obj card.context) (if params.isTruthy then params else .obj [])
        else registry.dispatch (.text found) params := by
  have bound (other : Text) :
      (registry.grant source ⟨some (.text id), ⟨action, .obj card.context⟩⟩).2.get? (.text other) =
        if other = id then some ⟨action, .obj card.context⟩ else registry.get? (.text other) := by
    rw [Registry.get?_grant, Registry.grant_given]
    simp only [HandlerId.key, HandlerKey.text.injEq]
  refine ⟨_, _, _, render_asked accepted part named known asked notEmpty source registry, ?_,
    Html.firstAttribute?_writeAttributes id card.clickParams, rfl,
    Html.unescape_takeWhile_eq_iff, fun params => ?_⟩
  · rw [bound, if_pos rfl]
  · rw [Registry.dispatch, bound, Registry.dispatch]
    by_cases same : Html.unescape (id.takeWhile (· != '"')) = id
    · rw [if_pos same, if_pos same]
    · rw [if_neg same, if_neg same]

/-- A card that opens a URL, under an id. -/
def openingContent (id : Json) : Json := .obj [("overwrite".toList, .obj [
  ("clickHandler".toList, .str " open_url ".toList), ("clickHandlerId".toList, id)])]

/-- An id that is a number in the card is found as a text, and apostrophes and brackets stay. -/
theorem clickHandlerId_render_plain :
    (∃ card markup after, Card.ofContent (openingContent (.int 12)) = .ok card ∧
      render (.counting 0 0) "{{__clickAttrs}}".toList (.obj card.context) .empty =
        (.ok markup, after) ∧
      Html.firstAttribute? "data-click-handler".toList markup = some "12".toList) ∧
    ∃ card markup after, Card.ofContent (openingContent (.str "it's <b> & co".toList)) = .ok card ∧
      render (.counting 0 0) "{{__clickAttrs}}".toList (.obj card.context) .empty =
        (.ok markup, after) ∧
      Html.firstAttribute? "data-click-handler".toList markup = some "it's <b> & co".toList ∧
      after.dispatch (.text "it's <b> & co".toList) (.obj [("url".toList, .str "u".toList)]) =
        .ok (some ⟨"open_url".toList, "u".toList, []⟩) := by
  have plain : '"' ∉ "it's <b> & co".toList ∧
      ∀ entity ∈ Html.inFragments.entities, ¬ entity <:+: "it's <b> & co".toList := by decide
  constructor
  · have accepted : Card.ofContent (openingContent (.int 12)) = .ok _ := rfl
    obtain ⟨markup, after, found, rendered, -, shown, rfl, -⟩ :=
      clickHandlerId_render accepted rfl rfl rfl rfl (by decide) (.counting 0 0) .empty
    exact ⟨_, markup, after, accepted, rendered, shown⟩
  · have accepted : Card.ofContent (openingContent (.str "it's <b> & co".toList)) = .ok _ := rfl
    obtain ⟨markup, after, found, rendered, -, shown, -, same, answers⟩ :=
      clickHandlerId_render accepted rfl rfl rfl rfl (by decide) (.counting 0 0) .empty
    obtain rfl := same.2 plain
    exact ⟨_, markup, after, accepted, rendered, shown, (answers _).trans rfl⟩

/-- A quote ends the attribute, so the page finds another id. -/
theorem clickHandlerId_misread :
    ¬ ∀ (content : Json) (card : Card) (overwrite : Card.Overwrite) (name id : Text)
        (action : Action) (source : IdSource) (registry : Registry),
      Card.ofContent content = .ok card → card.overwrite = some overwrite →
      overwrite.clickHandler = some name → Action.named? (Text.strip name) = some action →
      overwrite.clickHandlerId = some id → id ≠ [] →
      ∃ markup after,
        render source "{{__clickAttrs}}".toList (.obj card.context) registry = (.ok markup, after) ∧
        Html.firstAttribute? "data-click-handler".toList markup = some id := by
  intro reads
  have accepted : Card.ofContent (openingContent (.str "x\"y".toList)) = .ok _ := rfl
  obtain ⟨markup, after, rendered, found⟩ := reads _ _ _ _ _ _ (.counting 0 0) .empty accepted rfl
    rfl rfl rfl (by decide)
  have shown := render_asked accepted rfl rfl rfl rfl (by decide) (.counting 0 0) .empty
  cases rendered.symm.trans shown
  rw [Html.firstAttribute?_writeAttributes] at found
  exact absurd found (by decide)

end Template

end ChatTranscript

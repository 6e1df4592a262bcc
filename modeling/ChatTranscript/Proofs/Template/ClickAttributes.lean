import ChatTranscript.Proofs.Click.Parameters
import ChatTranscript.Proofs.Template.Dependence
import ChatTranscript.Proofs.Template.Evaluation

/-!
# Click attributes in a template

The tag of the click attributes shows the handler that a card was given, with the parameters of that
card. The attributes are looked up like other names, and the element of a round stands in front of
the context of the card. So a round shows the attributes of the card unless its element has one of
the two keys under which the context holds them.

## Main definitions

* `Card.clickAttributes`: the attributes of a card under the id of its handler.
* `Template.valueWith`: what tags stand for, with a given text for the tag.
* `Template.KeepsHandler`: no element of a loop has a key of the handler.

## Main statements

* `Template.clickAttributes_round`: what the tag shows in a round.
* `Template.render_clickAttributes`: what the tag shows in any template.
* `Template.render_clickAttributes_hidden`: elements that put other attributes in their place.
-/

namespace ChatTranscript

open Click

/-! ## the attributes of a card -/

namespace Card

/-- The parameters of a card; a value that counts as absent stands for none. -/
def clickParams (card : Card) : Json :=
  (Json.truthy? (card.overwrite.map (·.clickParams))).getD (.obj [])

/-- The attributes under the id of the handler; none without a handler. -/
def clickAttributes (card : Card) : Option HandlerId → Text
  | none => []
  | some id => Template.writeAttributes id.toJson card.clickParams

/-- The context in which templates are filled, once a handler or none is registered. -/
def renderContext (card : Card) (id : Option HandlerId) : Json :=
  Template.enhance (.obj card.context) id

end Card

namespace Click

variable {source : IdSource} {registry : Registry}

theorem Registry.register_isGiven (name : Text) (payload : Json) (id : Option HandlerId) :
    ∀ id' ∈ (registry.register source name payload id).1, id'.isGiven = true := by
  rw [register_eq, Request.ofName?]
  cases Action.named? (Text.strip name) with
  | none => simp
  | some action =>
    rintro _ ⟨rfl⟩
    exact choose_isGiven fun id' member => (Option.filter_eq_some_iff.1 member).2

end Click

namespace Template

variable {content : Json} {card : Card} {fields : Fields} {context item : Json} {text : Text}
  {id : Option HandlerId} {attributes : Text} {index count : Nat}

/-- The attributes for what a context holds as its id and as its overwrite section. -/
def attributesOf (id overwrite : Option Json) : Except Fault Text :=
  match Json.truthy? id with
  | none => .ok []
  | some id => do
    let params ← ((Json.truthy? overwrite).getD (.obj [])).entry "clickParams".toList
    return writeAttributes id ((Json.truthy? params).getD (.obj []))

@[simp] theorem clickAttributes_obj (fields : Fields) : clickAttributes (.obj fields) =
    attributesOf (Fields.get? handlerKey fields) (Fields.get? overwriteKey fields) := by
  unfold clickAttributes attributesOf
  simp only [Json.entry, bind, Except.bind]
  cases Json.truthy? (Fields.get? handlerKey fields) <;> rfl

/-- The two keys are looked up in the element first, then in the context around the loop. -/
theorem clickAttributes_round (context : Json) :
    clickAttributes (roundContext context item index count) =
      attributesOf ((item.get? handlerKey).or (context.get? handlerKey))
        ((item.get? overwriteKey).or (context.get? overwriteKey)) := by
  obtain ⟨inner, round⟩ : ∃ inner, roundContext context item index count = .obj inner :=
    ⟨_, roundContext_eq context⟩
  have seen (key : Text) (own : Fields.get? key (ownEntries item index count) = none) :
      Fields.get? key inner = (item.get? key).or (context.get? key) := by
    have found : (roundContext context item index count).get? key = _ := get?_roundContext context
    rwa [round, own, Option.none_or] at found
  rw [round, clickAttributes_obj, seen handlerKey rfl, seen overwriteKey rfl]

theorem truthy?_clickParams (part : Fields) :
    Json.truthy? (Fields.get? "clickParams".toList (Card.Overwrite.ofFields part).context) =
      Json.truthy? (some (Card.Overwrite.ofFields part).clickParams) := by
  rw [Card.Overwrite.get?_clickParams_ofFields]
  cases (Card.Overwrite.ofFields part).clickParams <;> rfl

theorem get?_renderContext (proper : card.Proper) (id : Option HandlerId) :
    (card.renderContext id).get? handlerKey = some ((id.map HandlerId.toJson).getD .null) ∧
      (card.renderContext id).get? overwriteKey =
        some ((card.overwrite.map fun overwrite => Json.obj overwrite.context).getD (.obj [])) := by
  rw [Card.renderContext, enhance_eq]
  refine ⟨Fields.get?_cons_self, ?_⟩
  refine ((Fields.get?_cons_of_ne (by decide)).trans Fields.get?_cons_self).trans ?_
  rw [proper.get?_context]
  cases card.overwrite <;> rfl

theorem clickAttributes_card (accepted : Card.ofContent content = .ok card)
    (given : ∀ id' ∈ id, id'.isGiven = true) :
    clickAttributes (card.renderContext id) = .ok (card.clickAttributes id) := by
  obtain ⟨handler, overwrite⟩ := get?_renderContext (Card.proper_ofContent accepted) id
  refine (clickAttributes_obj _).trans ((congrArg₂ attributesOf handler overwrite).trans ?_)
  cases id with
  | none => rfl
  | some id =>
    have truthy : Json.truthy? (some id.toJson) = some id.toJson :=
      Option.filter_some_pos (given id rfl)
    simp only [attributesOf, Option.map_some, Option.getD_some, truthy, Card.clickAttributes,
      Card.clickParams]
    cases known : card.overwrite with
    | none => rfl
    | some overwrite =>
      obtain ⟨part, rfl⟩ := Card.exists_part_of_ofContent accepted overwrite known
      simp only [Option.map_some, Option.getD_some, truthy?_obj_getD, Json.entry, bind, Except.bind,
        truthy?_clickParams]
      rfl

/-- Every accepted card is given a handler or none, and the tag shows its attributes. -/
theorem exists_registered (accepted : Card.ofContent content = .ok card) (source : IdSource)
    (registry : Registry) :
    ∃ id after, registerHandler source (.obj card.context) registry = (.ok id, after) ∧
      clickAttributes (card.renderContext id) = .ok (card.clickAttributes id) := by
  obtain unasked | ⟨overwrite, -, name, id, -, bound⟩ :=
    registerHandler_proper (Card.proper_ofContent accepted) source registry
  · exact ⟨none, registry, unasked, clickAttributes_card accepted (by simp)⟩
  · exact ⟨_, _, bound, clickAttributes_card accepted (Registry.register_isGiven _ _ _)⟩

/-! ## a given text for the tag -/

/-- What a tag stands for, with a given text for the tag of the click attributes. -/
def valueWith (attributes : Text) (context : Json) (key : Text) : Except Fault Text :=
  if key = "__clickAttrs".toList then .ok attributes else valueOf context key

/-- No element that the loops of a template go through has a key under which the context holds its
click handler. -/
def KeepsHandler (template : Text) (context : Json) : Prop :=
  ∀ block ∈ Text.finds readBlock template, ∀ items,
    lookup context block.path = .ok (some (.arr items)) →
      ∀ item ∈ items, item.get? handlerKey = none ∧ item.get? overwriteKey = none

theorem valueOf_eq_valueWith (shown : clickAttributes context = .ok attributes) (key : Text) :
    valueOf context key = valueWith attributes context key := by
  unfold valueWith
  split
  · rename_i same
    rw [valueOf, if_pos (beq_iff_eq.2 same), shown]
  · rfl

/-- A round over an element without these keys shows the attributes of the context around it. -/
theorem fill_eq_fillBy_valueWith (shown : clickAttributes (.obj fields) = .ok attributes)
    (keeps : KeepsHandler text (.obj fields)) :
    fill text (.obj fields) = fillBy (valueWith attributes) text (.obj fields) := by
  refine fill_eq_fillBy (valueOf_eq_valueWith shown)
    fun block member items found item inside index => valueOf_eq_valueWith ?_
  obtain ⟨noHandler, noOverwrite⟩ := keeps block member items found item inside
  rw [clickAttributes_round, noHandler, noOverwrite, Option.none_or, Option.none_or]
  exact (clickAttributes_obj fields).symm.trans shown

/-! ## renders -/

/-- Whatever handler an accepted card is given, a round shows what its element or else the card has
under the two keys. If no element has them, rendering puts the attributes of the card in place of
every tag, in loops and outside; and what the loops show stays as it is if it is inert, so that the
pieces of the template are shown one after the other. -/
theorem render_clickAttributes (accepted : Card.ofContent content = .ok card) (source : IdSource)
    (registry : Registry) :
    ∃ id after, registerHandler source (.obj card.context) registry = (.ok id, after) ∧
      (∀ item index count,
        clickAttributes (roundContext (card.renderContext id) item index count) =
          attributesOf ((item.get? handlerKey).or ((card.renderContext id).get? handlerKey))
            ((item.get? overwriteKey).or ((card.renderContext id).get? overwriteKey))) ∧
      (∀ template, KeepsHandler template (card.renderContext id) →
        render source template (.obj card.context) registry =
          (fillBy (valueWith (card.clickAttributes id)) template (card.renderContext id), after)) ∧
      ∀ segments shown, KeepsHandler (Segment.printAll segments) (card.renderContext id) →
        (∀ e, .each e ∈ segments → ∀ text,
          e.evaluate (valueWith (card.clickAttributes id)) (card.renderContext id) = .ok text →
            Inert text) →
        (render source (Segment.printAll segments) (.obj card.context) registry =
            (.ok shown, after) ↔
          joined
            (Segment.evaluate (valueWith (card.clickAttributes id)) (card.renderContext id))
            segments = .ok shown) := by
  obtain ⟨id, after, registered, own⟩ := exists_registered accepted source registry
  have rendered (template : Text) (keeps : KeepsHandler template (card.renderContext id)) :
      render source template (.obj card.context) registry =
        (fillBy (valueWith (card.clickAttributes id)) template (card.renderContext id), after) := by
    rw [render, registered]
    exact congrArg (·, after) (fill_eq_fillBy_valueWith own keeps)
  refine ⟨id, after, registered, fun item index count => clickAttributes_round _, rendered,
    fun segments shown keeps inert => ?_⟩
  rw [rendered _ keeps, Prod.mk.injEq, and_iff_left rfl]
  exact Segment.fillBy_printAll inert

/-! ## elements with keys of the handler -/

/-- The content of a card with a handler section and a list. -/
def handledContent (overwrite : Fields) (items : List Json) : Json := .obj [
  ("app".toList, .str "a".toList), ("overwrite".toList, .obj overwrite),
  ("items".toList, .arr items)]

/-- A handler under a given id, with a parameter. -/
def handledSection : Fields := [("clickHandler".toList, .str "noop".toList),
  ("clickHandlerId".toList, .str "h".toList),
  ("clickParams".toList, .obj [("n".toList, .int 1)])]

/-- A loop that shows the attributes for each element of the list. -/
def attributesEach : Each :=
  { showEach with
    body := [.slot ⟨" __clickAttrs ".toList, by decide, by decide, by decide, by decide⟩] }

def handledAttributes : Text := writeAttributes (.str "h".toList) (.obj [("n".toList, .int 1)])

theorem render_clickAttributes_handled :
    ∃ card after, Card.ofContent (handledContent handledSection [.obj [], .null]) = .ok card ∧
      render (.counting 0 0) (Segment.printAll [.each attributesEach]) (.obj card.context) .empty =
        (.ok (handledAttributes ++ handledAttributes), after) := by
  have accepted : Card.ofContent (handledContent handledSection [.obj [], .null]) = .ok _ := rfl
  obtain ⟨id, after, registered, -, -, pieces⟩ :=
    render_clickAttributes accepted (.counting 0 0) .empty
  obtain rfl : some (.text "h".toList) = id := Except.ok.inj (congrArg Prod.fst registered)
  refine ⟨_, after, accepted, (pieces _ _ ?_ ?_).2 ?_⟩
  · intro block member items found item inside
    obtain ⟨e, loop, rfl⟩ := mem_finds_printAll member
    obtain rfl := Segment.each.inj (List.mem_singleton.1 loop)
    obtain rfl : [.obj [], .null] = items := Json.arr.inj (Option.some.inj (Except.ok.inj found))
    obtain rfl | rfl : item = .obj [] ∨ item = .null := by simpa using inside
    · exact ⟨rfl, rfl⟩
    · exact ⟨rfl, rfl⟩
  · rintro e loop text own
    obtain rfl := Segment.each.inj (List.mem_singleton.1 loop)
    obtain rfl : handledAttributes ++ handledAttributes = text := Except.ok.inj own
    exact .of_literal (by decide +kernel) (by decide +kernel)
  · rfl

/-- What the loop shows of a card. -/
def shownEach (card : Card) : Except Fault Text :=
  (render (.counting 0 0) attributesEach.print (.obj card.context) .empty).1

/-- An element with the keys of the handler puts its own attributes in place of those of the card,
whether the card has a handler or none. -/
theorem render_clickAttributes_hidden :
    (∃ card, Card.ofContent (handledContent [] [.obj [(handlerKey, .str "x".toList)]]) = .ok card ∧
      (registerHandler (.counting 0 0) (.obj card.context) .empty).1 = .ok none ∧
      shownEach card = .ok (writeAttributes (.str "x".toList) (.obj [])) ∧
      shownEach card ≠ .ok []) ∧
    ∃ card, Card.ofContent (handledContent handledSection [.obj [(handlerKey, .str "x".toList),
        (overwriteKey, .obj [("clickParams".toList, .obj [("n".toList, .int 2)])])]]) = .ok card ∧
      (registerHandler (.counting 0 0) (.obj card.context) .empty).1 =
        .ok (some (.text "h".toList)) ∧
      shownEach card = .ok (writeAttributes (.str "x".toList) (.obj [("n".toList, .int 2)])) ∧
      shownEach card ≠ .ok handledAttributes := by
  refine ⟨⟨_, rfl, rfl, rfl, fun empty => ?_⟩, ⟨_, rfl, rfl, rfl, fun own => ?_⟩⟩
  · cases Except.ok.inj empty
  · have same : writeAttributes (.str "x".toList) (.obj [("n".toList, .int 2)]) =
        handledAttributes := Except.ok.inj own
    exact absurd same (by decide +kernel)

/-- What a loop shows is read once more, so parameters that are written like a tag are shown as what
the tag leads to, here nothing. -/
example : ∃ card, Card.ofContent (handledContent [("clickHandler".toList, .str "noop".toList),
      ("clickHandlerId".toList, .str "h".toList),
      ("clickParams".toList, .obj [("t".toList, .str tagText)])] [.null]) = .ok card ∧
    shownEach card =
      .ok (writeAttributes (.str "h".toList) (.obj [("t".toList, .str [])])) :=
  ⟨_, rfl, rfl⟩

end Template

end ChatTranscript

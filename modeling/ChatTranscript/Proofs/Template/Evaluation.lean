import ChatTranscript.Proofs.Template.Scope

/-!
# Evaluating a template

The pieces of a template say what it shows: literals themselves, tags what is put in their place,
and loops their body for each element of a list. Two passes over the text of the pieces show the
same as long as the text that the first pass puts in place of the loops opens no tag, and this is so
for all plain cards.

## Main definitions

* `Template.Segment.evaluate`: what a piece shows in a context.
* `Template.fillBy`: both passes, by what is put in place of a tag.
* `Template.evaluateTag`: what a tag stands for.

## Main statements

* `Template.Segment.fillBy_printAll`: two passes over a template evaluate its pieces if its loops
  show inert text.
* `Template.render_printAll`: rendering a plain card evaluates the pieces of the template.
-/

namespace ChatTranscript

namespace Template

/-! ## one after the other -/

/-- What a list of pieces shows, one after the other. -/
def joined {α : Type} (shown : α → Except Fault Text) (pieces : List α) : Except Fault Text :=
  (pieces.mapM shown).map List.flatten

theorem joined_cons_eq {α : Type} (shown : α → Except Fault Text) (piece : α) (pieces : List α) :
    joined shown (piece :: pieces) = (do
      let first ← shown piece
      return first ++ (← joined shown pieces)) := by
  unfold joined
  rw [List.mapM_cons]
  cases shown piece with
  | error fault => rfl
  | ok first => cases pieces.mapM shown <;> rfl

theorem joined_cons {α : Type} {shown : α → Except Fault Text} {piece : α} {pieces : List α}
    {first later : Text} (h : shown piece = .ok first) (g : joined shown pieces = .ok later) :
    joined shown (piece :: pieces) = .ok (first ++ later) := by
  rw [joined_cons_eq, h, g]
  rfl

theorem joined_congr {α : Type} {shown other : α → Except Fault Text} {pieces : List α}
    (same : ∀ piece ∈ pieces, shown piece = other piece) :
    joined shown pieces = joined other pieces := by
  induction pieces with
  | nil => rfl
  | cons piece pieces ih =>
    obtain ⟨first, later⟩ := List.forall_mem_cons.1 same
    rw [joined_cons_eq, joined_cons_eq, first, ih later]

/-! ## evaluation -/

section

variable (value : Json → Text → Except Fault Text)

def Chunk.evaluate (context : Json) : Chunk → Except Fault Text
  | .literal l => .ok l.text
  | .slot s => value context s.path

/-- The body is evaluated for each element of a list; anything else shows nothing. -/
def Each.evaluate (context : Json) (e : Each) : Except Fault Text := do
  match ← lookup context e.path with
  | some (.arr items) =>
    joined (fun (item, index) =>
      joined (Chunk.evaluate value (roundContext context item index items.length)) e.body)
      items.zipIdx
  | _ => return []

/-- What a piece shows, by what is put in place of a tag. -/
def Segment.evaluate (context : Json) : Segment → Except Fault Text
  | .chunk c => c.evaluate value context
  | .each e => e.evaluate value context

def substituteBy (template : Text) (context : Json) : Except Fault Text :=
  replace (value context) (Text.scan readVariable template)

def blockBy (context : Json) (block : Block) : Except Fault Text := do
  match ← lookup context block.path with
  | some (.arr items) =>
    joined (fun (item, index) =>
      substituteBy value block.body (roundContext context item index items.length))
      items.zipIdx
  | _ => return []

def expandBy (template : Text) (context : Json) : Except Fault Text :=
  replace (blockBy value context) (Text.scan readBlock template)

/-- Both passes over a template, by what is put in place of a tag. -/
def fillBy (template : Text) (context : Json) : Except Fault Text := do
  substituteBy value (← expandBy value template context) context

end

variable {value : Json → Text → Except Fault Text} {fields : Fields} {context : Json} {text : Text}

theorem rounds_eq_joined (body : Text) (context : Json) (count : Nat) (items : List Json)
    (index : Nat) :
    rounds body context count index items =
      joined (fun (item, index) => substitute body (roundContext context item index count))
        (items.zipIdx index) := by
  induction items generalizing index with
  | nil => rfl
  | cons item items ih => rw [rounds, ih, List.zipIdx_cons, joined_cons_eq]

/-- A template is filled by what its tags show in the context and in the rounds of its loops. -/
theorem fill_eq_fillBy (outside : ∀ key, valueOf (.obj fields) key = value (.obj fields) key)
    (inside : ∀ block ∈ Text.finds readBlock text, ∀ items,
      lookup (.obj fields) block.path = .ok (some (.arr items)) → ∀ item ∈ items, ∀ index key,
        valueOf (roundContext (.obj fields) item index items.length) key =
          value (roundContext (.obj fields) item index items.length) key) :
    fill text (.obj fields) = fillBy value text (.obj fields) := by
  have loops : expand text (.obj fields) = expandBy value text (.obj fields) := by
    refine replace_congr fun block member => ?_
    unfold expandBlock blockBy
    cases found : lookup (.obj fields) block.path with
    | error fault => rfl
    | ok entry =>
      cases entry with
      | none => rfl
      | some entry =>
        cases entry with
        | arr items =>
          refine (rounds_eq_joined _ _ _ items 0).trans ?_
          refine joined_congr fun ⟨item, index⟩ member' => ?_
          refine replace_congr fun key _ => ?_
          exact inside block member items found item (List.fst_mem_of_mem_zipIdx member') index key
        | null | bool | int | float | str | obj => rfl
  unfold fill fillBy
  rw [loops]
  exact bind_congr fun middle => replace_congr fun key _ => outside key

/-! ## templates by their pieces -/

theorem Chunk.substituteBy_print (c : Chunk) (rest : Text) :
    substituteBy value (c.print ++ rest) context = (do
      let shown ← c.evaluate value context
      return shown ++ (← substituteBy value rest context)) := by
  cases c with
  | literal l =>
    rw [substituteBy, print, replace_scan_skips (l.inert.skips fun _ => readVariable_eq_none)]
    rfl
  | slot s =>
    exact replace_scan_found (tag_ne_nil _) (readVariable_tag s.notEmpty s.noBraces.2 rest)

@[simp] theorem Chunk.substituteBy_printAll (chunks : List Chunk) :
    substituteBy value (printAll chunks) context =
      joined (evaluate value context) chunks := by
  induction chunks with
  | nil => rfl
  | cons c chunks ih =>
    rw [printAll, List.flatMap_cons, substituteBy_print, joined_cons_eq, ← ih]
    rfl

@[simp] theorem Each.blockBy_eq (e : Each) :
    blockBy value context e.block = e.evaluate value context := by
  unfold blockBy evaluate
  simp only [block, Chunk.substituteBy_printAll]

theorem fillBy_eq_ok {shown : Text} : fillBy value text context = .ok shown ↔
    ∃ middle, expandBy value text context = .ok middle ∧
      substituteBy value middle context = .ok shown := Results.bind_eq_ok

/-- The first pass leaves a piece outside of loops to the second. -/
theorem Chunk.fillBy_print (c : Chunk) {rest shown : Text} :
    fillBy value (c.print ++ rest) context = .ok shown ↔
      ∃ a b, c.evaluate value context = .ok a ∧ fillBy value rest context = .ok b ∧
        a ++ b = shown := by
  have first : expandBy value (c.print ++ rest) context =
      (expandBy value rest context).map (c.print ++ ·) :=
    replace_scan_skips c.skips_readBlock
  simp only [fillBy_eq_ok, first, Results.map_eq_ok]
  constructor
  · rintro ⟨_, ⟨middle, expanded, rfl⟩, filled⟩
    rw [substituteBy_print] at filled
    obtain ⟨a, b, own, later, rfl⟩ := append_eq_ok.1 filled
    exact ⟨a, b, own, ⟨middle, expanded, later⟩, rfl⟩
  · rintro ⟨a, b, own, ⟨middle, expanded, later⟩, rfl⟩
    exact ⟨c.print ++ middle, ⟨middle, expanded, rfl⟩,
      (c.substituteBy_print middle).trans (append_eq_ok.2 ⟨a, b, own, later, rfl⟩)⟩

/-- The second pass keeps what a loop has shown, if that is inert. -/
theorem Each.fillBy_print (e : Each) {rest shown : Text}
    (inert : ∀ a, e.evaluate value context = .ok a → Inert a) :
    fillBy value (e.print ++ rest) context = .ok shown ↔
      ∃ a b, e.evaluate value context = .ok a ∧ fillBy value rest context = .ok b ∧
        a ++ b = shown := by
  have first : expandBy value (e.print ++ rest) context = (do
      let a ← e.evaluate value context
      return a ++ (← expandBy value rest context)) := by
    rw [← Each.blockBy_eq]
    exact replace_scan_found e.print_ne_nil (e.readBlock_print rest)
  have second {a : Text} (shown : e.evaluate value context = .ok a) (middle : Text) :
      substituteBy value (a ++ middle) context =
        (substituteBy value middle context).map (a ++ ·) :=
    replace_scan_skips ((inert a shown).skips fun _ => readVariable_eq_none)
  simp only [fillBy_eq_ok, first, append_eq_ok]
  constructor
  · rintro ⟨_, ⟨a, middle, own, expanded, rfl⟩, filled⟩
    obtain ⟨b, later, rfl⟩ := Results.map_eq_ok.1 ((second own middle).symm.trans filled)
    exact ⟨a, b, own, ⟨middle, expanded, later⟩, rfl⟩
  · rintro ⟨a, b, own, ⟨middle, expanded, later⟩, rfl⟩
    exact ⟨a ++ middle, ⟨a, middle, own, expanded, rfl⟩,
      (second own middle).trans (Results.map_eq_ok.2 ⟨b, later, rfl⟩)⟩

/-- If the loops show inert text, filling a template shows its pieces one after the other. -/
theorem Segment.fillBy_printAll {segments : List Segment} {shown : Text}
    (inert : ∀ e, .each e ∈ segments → ∀ a, e.evaluate value context = .ok a → Inert a) :
    fillBy value (printAll segments) context = .ok shown ↔
      joined (evaluate value context) segments = .ok shown := by
  induction segments generalizing shown with
  | nil => rfl
  | cons segment segments ih =>
    have later {b : Text} := @ih b fun e member => inert e (List.mem_cons_of_mem _ member)
    rw [joined_cons_eq, append_eq_ok, printAll, List.flatMap_cons, ← printAll]
    cases segment with
    | chunk c => simp only [print, evaluate, Chunk.fillBy_print, later]
    | each e => simp only [print, evaluate, e.fillBy_print (inert e List.mem_cons_self), later]

/-! ## what tags stand for -/

/-- The click attributes have a key of their own; any other key is looked up. -/
def evaluateTag (context : Json) (key : Text) : Except Fault Text :=
  if key = "__clickAttrs".toList then clickAttributes context
  else (lookup context key).map display

/-- The element of a round is looked up like any other key. -/
theorem lookup_this : lookup (.obj fields) "this".toList =
    (Json.obj fields).entry "this".toList := by
  have path : steps "this".toList = [.key "this".toList] := rfl
  have stripped : Text.strip "this".toList = "this".toList := rfl
  have follows : lookup (.obj fields) "this".toList =
      follow (.obj fields) (steps "this".toList) := by
    rw [lookup, stripped]
    rfl
  rw [follows, path, follow, Json.entry]
  cases Fields.get? "this".toList fields with
  | none => rfl
  | some value => simp [follow]

theorem valueOf_eq (key : Text) : valueOf (.obj fields) key = evaluateTag (.obj fields) key := by
  unfold valueOf evaluateTag
  simp only [beq_iff_eq]
  split
  · rfl
  · split
    · rename_i this
      rw [this, lookup_this]
    · rfl

theorem fill_eq_fillBy_evaluateTag (text : Text) (fields : Fields) :
    fill text (.obj fields) = fillBy evaluateTag text (.obj fields) := by
  refine fill_eq_fillBy valueOf_eq fun _ _ items _ item _ index key => ?_
  rw [roundContext_eq]
  exact valueOf_eq key

/-! ## plain contexts -/

/-- The indexes in these paths can be read. -/
def AreShort (paths : List Text) : Prop :=
  ∀ path ∈ paths, ∀ step ∈ steps (Text.strip path), step.isShort = true

theorem Scope.evaluateTag_inert (scope : Scope fields) {key : Text}
    (short : ∀ step ∈ steps (Text.strip key), step.isShort = true) :
    ∃ shown, evaluateTag (.obj fields) key = .ok shown ∧ Inert shown := by
  unfold evaluateTag
  split
  · exact scope.clickAttributes_inert
  · obtain ⟨found, eq, plain⟩ := scope.lookup_short short
    exact ⟨display found, by rw [eq]; rfl, inert_display plain⟩

theorem joined_inert {α : Type} {shown : α → Except Fault Text} {pieces : List α}
    (inert : ∀ piece ∈ pieces, ∃ own, shown piece = .ok own ∧ Inert own) :
    ∃ own, joined shown pieces = .ok own ∧ Inert own := by
  induction pieces with
  | nil => exact ⟨[], rfl, .nil⟩
  | cons piece pieces ih =>
    obtain ⟨first, later⟩ := List.forall_mem_cons.1 inert
    obtain ⟨own, eq, quiet⟩ := first
    obtain ⟨rest, eqRest, quietRest⟩ := ih later
    exact ⟨own ++ rest, joined_cons eq eqRest, quiet.append quietRest⟩

theorem Chunk.evaluate_inert (scope : Scope fields) {c : Chunk} (short : AreShort c.paths) :
    ∃ shown, c.evaluate evaluateTag (.obj fields) = .ok shown ∧ Inert shown := by
  cases c with
  | literal l => exact ⟨l.text, rfl, l.inert⟩
  | slot s => exact scope.evaluateTag_inert (short s.path (List.mem_singleton_self _))

/-- A loop over plain elements shows inert text. -/
theorem Each.evaluate_inert (scope : Scope fields) {e : Each} (short : AreShort e.paths) :
    ∃ shown, e.evaluate evaluateTag (.obj fields) = .ok shown ∧ Inert shown := by
  obtain ⟨path, body⟩ := List.forall_mem_cons.1 short
  obtain ⟨found, eq, plain⟩ := scope.lookup_short path
  simp only [evaluate, eq, bind, Except.bind]
  cases found with
  | none => exact ⟨[], rfl, .nil⟩
  | some value =>
    cases value with
    | arr items =>
      refine joined_inert fun ⟨item, index⟩ inside => ?_
      have plainItem := isPlain_arr.1 (plain _ rfl) item (List.fst_mem_of_mem_zipIdx inside)
      obtain ⟨inner, context, innerScope⟩ := @Scope.round _ item index items.length scope plainItem
      rw [context]
      exact joined_inert fun c member =>
        c.evaluate_inert innerScope fun path known =>
          body path (List.mem_flatMap.2 ⟨c, member, known⟩)
    | null | bool | int | float | str | obj => exact ⟨[], rfl, .nil⟩

theorem Segment.evaluate_inert (scope : Scope fields) {segment : Segment}
    (short : AreShort segment.paths) :
    ∃ shown, segment.evaluate evaluateTag (.obj fields) = .ok shown ∧ Inert shown := by
  cases segment with
  | chunk c => exact c.evaluate_inert scope short
  | each e => exact e.evaluate_inert scope short

/-- In a plain context two passes over a template evaluate its pieces. -/
theorem fill_printAll (scope : Scope fields) {segments : List Segment}
    (short : AreShort (segments.flatMap Segment.paths)) :
    ∃ shown, joined (Segment.evaluate evaluateTag (.obj fields)) segments = .ok shown ∧
      fill (Segment.printAll segments) (.obj fields) = .ok shown := by
  have own (segment : Segment) (member : segment ∈ segments) : AreShort segment.paths :=
    fun path known => short path (List.mem_flatMap.2 ⟨segment, member, known⟩)
  obtain ⟨shown, evaluated, -⟩ := joined_inert fun (segment : Segment) member =>
    segment.evaluate_inert scope (own segment member)
  refine ⟨shown, evaluated, ?_⟩
  rw [fill_eq_fillBy_evaluateTag]
  refine (Segment.fillBy_printAll fun e member text loop => ?_).2 evaluated
  obtain ⟨text', eq, inert⟩ := e.evaluate_inert scope (own _ member)
  cases eq.symm.trans loop
  exact inert

/-! ## rendering -/

/-- Whatever the plain card is and the template, as long as the indexes in its paths can be read,
rendering returns what the pieces evaluate to. A round of a loop sees its own entries first, then
those of its element, then the outer ones. -/
theorem render_printAll {content : Json} {card : Card}
    (accepted : Card.ofContent content = .ok card)
    (plain : isPlain (.obj card.context) = true) {source : Click.IdSource}
    (drawn : DrawsDigits source) {segments : List Segment}
    (short : AreShort (segments.flatMap Segment.paths)) (registry : Click.Registry) :
    (∃ id after shown,
      registerHandler source (.obj card.context) registry = (.ok id, after) ∧
      joined (Segment.evaluate evaluateTag (enhance (.obj card.context) id)) segments = .ok shown ∧
      render source (Segment.printAll segments) (.obj card.context) registry =
        (.ok shown, after)) ∧
    ∀ context item index count key,
      (roundContext context item index count).get? key =
        (Fields.get? key (ownEntries item index count)).or
          ((item.get? key).or (context.get? key)) := by
  have proper := Card.proper_ofContent accepted
  obtain ⟨id, after, registered, bare⟩ := registerHandler_card proper plain drawn registry
  obtain ⟨fields, enhanced, scope⟩ := scope_enhance plain bare
  obtain ⟨shown, evaluated, filled⟩ := fill_printAll scope short
  refine ⟨⟨id, after, shown, registered, ?_, ?_⟩, fun context item index count key =>
    get?_roundContext context⟩
  · rw [enhanced]
    exact evaluated
  · rw [render, registered]
    simp only [enhanced, filled]

/-- A card with a click handler and a list of two elements. -/
def listContent : Json := .obj [
  ("app".toList, .str "a".toList),
  ("meta".toList, .obj [("items".toList, .arr [
    .obj [("name".toList, .str "x".toList)], .obj [("name".toList, .obj [])]])]),
  ("overwrite".toList, .obj [("clickHandler".toList, .str "noop".toList)])]

/-- A loop over the list, in an element with the click attributes. -/
def listSegments : List Segment := [
  .chunk (.literal ⟨"<ul ".toList, by decide, by decide⟩),
  .chunk (.slot (.ofName ⟨"__clickAttrs".toList, by decide, by decide, by decide⟩ [] []
    (by decide) (by decide) (by decide))),
  .chunk (.literal ⟨">".toList, by decide, by decide⟩),
  .each (.ofName ⟨"meta.items".toList, by decide, by decide, by decide⟩ [
    .slot (.ofName ⟨"@index".toList, by decide, by decide, by decide⟩ " ".toList " ".toList
      (by decide) (by decide) (by decide)),
    .literal ⟨['}'], by decide, by decide⟩,
    .slot (.ofName ⟨"name".toList, by decide, by decide, by decide⟩ [] []
      (by decide) (by decide) (by decide))])]

theorem render_listSegments :
    ∃ card, Card.ofContent listContent = .ok card ∧ isPlain (.obj card.context) = true ∧
      DrawsDigits (.counting 0 0) ∧ AreShort (listSegments.flatMap Segment.paths) ∧
      ∃ id after shown,
        registerHandler (.counting 0 0) (.obj card.context) .empty = (.ok id, after) ∧
        joined (Segment.evaluate evaluateTag (enhance (.obj card.context) id)) listSegments =
          .ok shown ∧
        render (.counting 0 0) (Segment.printAll listSegments) (.obj card.context) .empty =
          (.ok shown, after) := by
  have accepted : Card.ofContent listContent = .ok _ := rfl
  have drawn := drawsDigits_counting 0 0
  have short : AreShort (listSegments.flatMap Segment.paths) := by
    unfold AreShort
    decide
  exact ⟨_, accepted, by decide, drawn, short,
    (render_printAll accepted (by decide) drawn short .empty).1⟩

end Template

end ChatTranscript

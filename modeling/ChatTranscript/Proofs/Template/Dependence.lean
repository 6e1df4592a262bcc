import ChatTranscript.Proofs.Template.Scope

/-!
# What a rendered template depends on

A tag names a key of the context, and a render looks at the keys that the tags of its text name. The
first pass reads the tags of the template alone. The second pass reads tags also in what the loops
have shown, so a value shown by a loop may name a key that the template does not.

## Main definitions

* `Template.AgreeOn`: contexts with the same value under a key.
* `Template.afterLoops`: the text between the two passes.

## Main statements

* `Template.render_agrees`: contexts that agree on the named keys are shown alike.
-/

namespace ChatTranscript

namespace Template

open Click

/-! ## keys of a context -/

/-- Two contexts have the same value, or none, under a key. -/
def AgreeOn (f g : Fields) (key : Text) : Prop := Fields.get? key f = Fields.get? key g

variable {f g : Fields} {key text : Text}

theorem AgreeOn.append (h : AgreeOn f g key) (own : Fields) :
    AgreeOn (own ++ f) (own ++ g) key := by
  rw [AgreeOn, Fields.get?_append, Fields.get?_append, h]

theorem follow_congr {first : Step} (rest : List Step) (h : AgreeOn f g first.name) :
    follow (.obj f) (first :: rest) = follow (.obj g) (first :: rest) := by
  cases first with
  | key name => rw [follow, follow, show Fields.get? name f = Fields.get? name g from h]
  | item name digits => rw [follow, follow, show Fields.get? name f = Fields.get? name g from h]

/-- Looking up a path looks at one key of the context only. -/
theorem lookup_congr {path : Text} (h : AgreeOn f g (rootOf path)) :
    lookup (.obj f) path = lookup (.obj g) path := by
  obtain nowhere | entry | ⟨first, rest, -, root, along⟩ := lookup_cases path
  · rw [nowhere, nowhere]
  · rw [entry, entry, show Fields.get? (rootOf path) f = Fields.get? (rootOf path) g from h]
  · rw [along, along]
    exact follow_congr rest (root ▸ h)

/-! ## passes -/

/-- Contexts with the same click handler and the same overwrite section. -/
structure Alike (f g : Fields) : Prop where
  handler : AgreeOn f g handlerKey
  overwrite : AgreeOn f g overwriteKey

theorem Alike.append (h : Alike f g) (own : Fields) : Alike (own ++ f) (own ++ g) :=
  ⟨h.handler.append own, h.overwrite.append own⟩

theorem clickAttributes_congr (alike : Alike f g) :
    clickAttributes (.obj f) = clickAttributes (.obj g) := by
  have handler := alike.handler
  have overwrite := alike.overwrite
  unfold AgreeOn at handler overwrite
  simp only [clickAttributes, Json.entry, handler, overwrite]

theorem valueOf_congr (alike : Alike f g) (h : AgreeOn f g (rootOf key)) :
    valueOf (.obj f) key = valueOf (.obj g) key := by
  unfold valueOf
  split
  · exact clickAttributes_congr alike
  · split
    · rename_i this
      obtain rfl := beq_iff_eq.1 this
      have root : rootOf "this".toList = "this".toList := by decide
      rw [root, AgreeOn] at h
      rw [Json.entry, Json.entry, h]
    · rw [lookup_congr h]

theorem substitute_congr (alike : Alike f g) (h : ∀ key ∈ tags text, AgreeOn f g (rootOf key)) :
    substitute text (.obj f) = substitute text (.obj g) :=
  replace_congr fun key member => valueOf_congr alike (h key member)

theorem rounds_congr (alike : Alike f g) (h : ∀ key ∈ tags text, AgreeOn f g (rootOf key))
    (count : ℕ) (items : List Json) (index : ℕ) :
    rounds text (.obj f) count index items = rounds text (.obj g) count index items := by
  induction items generalizing index with
  | nil => rfl
  | cons item items ih =>
    have round : substitute text (roundContext (.obj f) item index count) =
        substitute text (roundContext (.obj g) item index count) := by
      rw [roundContext_eq, roundContext_eq]
      exact substitute_congr (alike.append _) fun key member => (h key member).append _
    rw [rounds, rounds, round, ih]

theorem expandBlock_congr {block : Block} (alike : Alike f g)
    (path : AgreeOn f g (rootOf block.path))
    (body : ∀ key ∈ tags block.body, AgreeOn f g (rootOf key)) :
    expandBlock (.obj f) block = expandBlock (.obj g) block := by
  simp only [expandBlock, lookup_congr path, rounds_congr alike body]

/-- The first pass looks at the keys that the template names. -/
theorem expand_congr {segments : List Segment} (alike : Alike f g)
    (named : ∀ path ∈ segments.flatMap Segment.paths, AgreeOn f g (rootOf path)) :
    expand (Segment.printAll segments) (.obj f) = expand (Segment.printAll segments) (.obj g) := by
  refine replace_congr fun block member => ?_
  obtain ⟨e, inside, rfl⟩ := mem_finds_printAll member
  have own (path : Text) (member : path ∈ e.paths) : AgreeOn f g (rootOf path) :=
    named path (List.mem_flatMap.2 ⟨_, inside, member⟩)
  refine expandBlock_congr alike (own _ List.mem_cons_self) fun key member => ?_
  rw [Each.block, Chunk.tags_printAll] at member
  exact own key (List.mem_cons_of_mem _ member)

/-! ## the second pass -/

theorem expand_chunk {c : Chunk} {rest middle : Text}
    (h : expand (c.print ++ rest) (.obj f) = .ok middle) :
    ∃ later, expand rest (.obj f) = .ok later ∧ middle = c.print ++ later := by
  rw [expand, replace_scan_skips c.skips_readBlock] at h
  obtain ⟨later, read, rfl⟩ := Results.map_eq_ok.1 h
  exact ⟨later, read, rfl⟩

theorem expand_each {e : Each} {rest middle : Text}
    (h : expand (e.print ++ rest) (.obj f) = .ok middle) :
    ∃ shown later, expandBlock (.obj f) e.block = .ok shown ∧ expand rest (.obj f) = .ok later ∧
      middle = shown ++ later := by
  rw [expand, replace_scan_found e.print_ne_nil (e.readBlock_print rest)] at h
  obtain ⟨shown, later, block, read, rfl⟩ := append_eq_ok.1 h
  exact ⟨shown, later, block, read, rfl⟩

/-- What a loop shows is what the first pass leaves of it. -/
theorem expand_print (e : Each) : expand e.print (.obj f) = expandBlock (.obj f) e.block := by
  rw [← List.append_nil e.print, expand,
    replace_scan_found e.print_ne_nil (e.readBlock_print [])]
  cases expandBlock (.obj f) e.block with
  | error fault => rfl
  | ok shown => exact congrArg Except.ok (List.append_nil shown)

/-- If the loops have shown inert text, the second pass reads the tags of the template alone. -/
theorem tags_expand {segments : List Segment} {middle : Text}
    (inert : ∀ e, .each e ∈ segments → ∀ shown,
      expandBlock (.obj f) e.block = .ok shown → Inert shown)
    (h : expand (Segment.printAll segments) (.obj f) = .ok middle) :
    ∀ path ∈ tags middle, path ∈ segments.flatMap Segment.paths := by
  induction segments generalizing middle with
  | nil =>
    cases h
    nofun
  | cons segment segments ih =>
    have inside {later : Text} := @ih later fun e member =>
      inert e (List.mem_cons_of_mem _ member)
    intro path member
    rw [List.flatMap_cons, List.mem_append]
    rw [Segment.printAll, List.flatMap_cons] at h
    cases segment with
    | chunk c =>
      obtain ⟨later, expanded, rfl⟩ := expand_chunk h
      rw [Chunk.tags_append, List.mem_append] at member
      exact member.imp_right (inside expanded path)
    | each e =>
      obtain ⟨shown, later, block, expanded, rfl⟩ := expand_each h
      have skips := (inert e List.mem_cons_self shown block).skips fun _ => readVariable_eq_none
      rw [tags, Text.finds_skips skips] at member
      exact .inr (inside expanded path member)

theorem fill_congr (alike : Alike f g) (first : expand text (.obj f) = expand text (.obj g))
    (second : ∀ middle, expand text (.obj f) = .ok middle →
      ∀ path ∈ tags middle, AgreeOn f g (rootOf path)) :
    fill text (.obj f) = fill text (.obj g) := by
  rw [fill, fill, ← first]
  cases expanded : expand text (.obj f) with
  | error fault => rfl
  | ok middle => exact substitute_congr alike (second middle expanded)

/-! ## renders -/

/-- What a context has in front once its handler is registered. -/
def reserved (fields : Fields) (id : Option HandlerId) : Fields :=
  [(handlerKey, (id.map HandlerId.toJson).getD .null),
    (overwriteKey, match Fields.get? "overwrite".toList fields with
      | some (.obj overwrite) => .obj overwrite
      | _ => .obj [])]

theorem enhance_eq (fields : Fields) (id : Option HandlerId) :
    enhance (.obj fields) id = .obj (reserved fields id ++ fields) := rfl

theorem reserved_congr (h : AgreeOn f g "overwrite".toList) (id : Option HandlerId) :
    reserved f id = reserved g id := by
  have same : Fields.get? "overwrite".toList f = Fields.get? "overwrite".toList g := h
  rw [reserved, reserved, same]

theorem alike_reserved (h : AgreeOn f g "overwrite".toList) (id : Option HandlerId) :
    Alike (reserved f id ++ f) (reserved g id ++ g) := by
  have other : handlerKey ≠ overwriteKey := by decide
  rw [reserved_congr h]
  refine ⟨Fields.get?_cons_self.trans Fields.get?_cons_self.symm, ?_⟩
  exact ((Fields.get?_cons_of_ne other).trans Fields.get?_cons_self).trans
    ((Fields.get?_cons_of_ne other).trans Fields.get?_cons_self).symm

theorem agreeOn_reserved (overwrite : AgreeOn f g "overwrite".toList) (id : Option HandlerId)
    (h : AgreeOn f g key) : AgreeOn (reserved f id ++ f) (reserved g id ++ g) key := by
  rw [reserved_congr overwrite]
  exact h.append _

theorem register_fst (source : IdSource) (name : Text) (payload other : Json)
    (id : Option HandlerId) (registry : Registry) :
    (registry.register source name payload id).1 = (registry.register source name other id).1 := by
  unfold Registry.register
  split
  · rfl
  · rfl

/-- The id of a handler does not depend on the payload that it is bound to. -/
theorem registerHandler_congr (h : AgreeOn f g "overwrite".toList) (source : IdSource)
    (registry : Registry) :
    (registerHandler source (.obj f) registry).1 =
      (registerHandler source (.obj g) registry).1 := by
  have same : Fields.get? "overwrite".toList f = Fields.get? "overwrite".toList g := h
  unfold registerHandler
  rw [Json.entry, Json.entry, same]
  cases Fields.get? "overwrite".toList g with
  | none => rfl
  | some value =>
    cases value with
    | obj overwrite =>
      dsimp only
      split
      · rfl
      · split
        · rfl
        · split
          · rfl
          · exact congrArg Except.ok (register_fst source _ (.obj f) (.obj g) _ registry)
    | _ => rfl

/-- The text between the two passes of a render. -/
def afterLoops (source : IdSource) (template : Text) (context : Json) (registry : Registry) :
    Except Fault Text := do
  let id ← (registerHandler source context registry).1
  expand template (enhance context id)

theorem render_eq (source : IdSource) (template : Text) (context : Json) (registry : Registry) :
    (render source template context registry).1 = (do
      let id ← (registerHandler source context registry).1
      fill template (enhance context id)) := by
  rw [render]
  split
  · rename_i registered
    rw [registered]
    rfl
  · rename_i registered
    rw [registered]
    rfl

/-- Renders of contexts that agree on the keys of the template's tags hold the same text after the
loops. What the second pass makes of it can differ only if a tag in that text names another key,
which inert text does not. -/
theorem render_agrees (segments : List Segment) (overwrite : AgreeOn f g "overwrite".toList)
    (named : ∀ path ∈ segments.flatMap Segment.paths, AgreeOn f g (rootOf path))
    (source : IdSource) (registry : Registry) :
    afterLoops source (Segment.printAll segments) (.obj f) registry =
        afterLoops source (Segment.printAll segments) (.obj g) registry ∧
      ((∀ middle, afterLoops source (Segment.printAll segments) (.obj f) registry = .ok middle →
          ∀ path ∈ tags middle, AgreeOn f g (rootOf path)) →
        (render source (Segment.printAll segments) (.obj f) registry).1 =
          (render source (Segment.printAll segments) (.obj g) registry).1) ∧
      ((∀ e, .each e ∈ segments → ∀ shown,
          afterLoops source e.print (.obj f) registry = .ok shown → Inert shown) →
        (render source (Segment.printAll segments) (.obj f) registry).1 =
          (render source (Segment.printAll segments) (.obj g) registry).1) := by
  rw [render_eq, render_eq]
  unfold afterLoops
  rw [← registerHandler_congr overwrite]
  cases (registerHandler source (.obj f) registry).1 with
  | error fault => exact ⟨rfl, fun _ => rfl, fun _ => rfl⟩
  | ok id =>
    have alike := alike_reserved overwrite id
    have first := expand_congr alike fun path member =>
      agreeOn_reserved overwrite id (named path member)
    refine ⟨first, fun second => fill_congr alike first fun middle expanded path member => ?_,
      fun inert => fill_congr alike first fun middle expanded path member => ?_⟩
    · exact agreeOn_reserved overwrite id (second middle expanded path member)
    · refine agreeOn_reserved overwrite id (named path ?_)
      refine tags_expand (fun e inside shown block => inert e inside shown ?_) expanded path member
      exact (expand_print e).trans block

/-! ## a value that is read as a tag -/

/-- The content of a card with a list of one text and with another entry. -/
def listingContent (item entry : Text) : Json := .obj [("app".toList, .str "a".toList),
  ("items".toList, .arr [.str item]), ("secret".toList, .str entry)]

def listingCard (item entry : Text) : Card where
  app := "a".toList
  view := []
  sections := []
  overwrite := none
  config := .obj []
  extras := [("items".toList, .arr [.str item]), ("secret".toList, .str entry)]

theorem ofContent_listing (item entry : Text) :
    Card.ofContent (listingContent item entry) = .ok (listingCard item entry) := rfl

/-- A loop that shows each element of the list. -/
def showEach : Each where
  opening := "#each items".toList
  path := "items".toList
  body := [.slot ⟨"this".toList, by decide, by decide, by decide, by decide⟩]
  closing := "/each".toList
  opens := by decide
  closes := isClosing_each
  closed := by decide

/-- What the loop shows of a card. -/
def shownItems (item entry : Text) : Except Fault Text :=
  (render (.counting 0 0) (Segment.printAll [.each showEach])
    (.obj (listingCard item entry).context) .empty).1

/-- The loop names the list, and not the other entry. -/
theorem named_showEach (item entry other : Text) :
    ∀ path ∈ [Segment.each showEach].flatMap Segment.paths,
      AgreeOn (listingCard item entry).context (listingCard item other).context
        (rootOf path) := by
  have paths : [Segment.each showEach].flatMap Segment.paths =
      ["items".toList, "this".toList] := by decide
  have items (entry : Text) : Fields.get? (rootOf "items".toList)
      (listingCard item entry).context = some (.arr [.str item]) := rfl
  have this (entry : Text) : Fields.get? (rootOf "this".toList)
      (listingCard item entry).context = none := rfl
  rw [paths]
  exact List.forall_mem_cons.2 ⟨(items entry).trans (items other).symm,
    List.forall_mem_cons.2 ⟨(this entry).trans (this other).symm, nofun⟩⟩

theorem agreeOn_overwrite (item entry other : Text) : AgreeOn (listingCard item entry).context
    (listingCard item other).context "overwrite".toList := by
  have overwrite (entry : Text) :
      Fields.get? "overwrite".toList (listingCard item entry).context = none := rfl
  exact (overwrite entry).trans (overwrite other).symm

theorem afterLoops_showEach (item entry : Text) :
    afterLoops (.counting 0 0) showEach.print (.obj (listingCard item entry).context) .empty =
      .ok item := by
  have evaluated : afterLoops (.counting 0 0) showEach.print
      (.obj (listingCard item entry).context) .empty = .ok (item ++ [] ++ [] ++ []) := rfl
  simpa using evaluated

theorem shownItems_eq (item entry : Text) :
    shownItems item entry =
      substitute item (enhance (.obj (listingCard item entry).context) none) := by
  have evaluated : shownItems item entry = substitute (item ++ [] ++ [] ++ [])
      (enhance (.obj (listingCard item entry).context) none) := rfl
  simpa using evaluated

/-- Inert texts in the list do not show the other entry. -/
theorem render_showEach :
    AgreeOn (listingCard "x".toList "a".toList).context
        (listingCard "x".toList "b".toList).context "overwrite".toList ∧
      shownItems "x".toList "a".toList = shownItems "x".toList "b".toList := by
  have overwrite := agreeOn_overwrite "x".toList "a".toList "b".toList
  have named := named_showEach "x".toList "a".toList "b".toList
  refine ⟨overwrite, (render_agrees [.each showEach] overwrite named (.counting 0 0) .empty).2.2 ?_⟩
  intro e member shown after
  obtain rfl := Segment.each.inj (List.mem_singleton.1 member)
  rw [afterLoops_showEach] at after
  obtain rfl := Except.ok.inj after
  exact .of_not_mem (by decide)

/-- A text that is written like a tag. -/
def tagText : Text := "\x7b\x7bsecret\x7d\x7d".toList

/-- Such a text in the list shows an entry that no tag of the template names. -/
theorem render_not_determined :
    Card.ofContent (listingContent tagText "a".toList) = .ok (listingCard tagText "a".toList) ∧
      Card.ofContent (listingContent tagText "b".toList) = .ok (listingCard tagText "b".toList) ∧
      AgreeOn (listingCard tagText "a".toList).context (listingCard tagText "b".toList).context
        "overwrite".toList ∧
      (∀ path ∈ [Segment.each showEach].flatMap Segment.paths,
        AgreeOn (listingCard tagText "a".toList).context (listingCard tagText "b".toList).context
          (rootOf path)) ∧
      shownItems tagText "a".toList ≠ shownItems tagText "b".toList := by
  refine ⟨ofContent_listing _ _, ofContent_listing _ _, agreeOn_overwrite _ _ _,
    named_showEach _ _ _, fun same => ?_⟩
  have shown (entry : Text) : substitute tagText
      (enhance (.obj (listingCard tagText entry).context) none) = .ok (entry ++ []) := rfl
  rw [shownItems_eq, shownItems_eq, shown, shown] at same
  exact absurd (Except.ok.inj same) (by decide)

end Template

end ChatTranscript

import ChatTranscript.Proofs.Click.Registration
import ChatTranscript.Proofs.Template.Dependence
import ChatTranscript.Proofs.Text.Renamed

/-!
# Renders under another id

A card that draws an id shows another one in each render. Nothing else changes in the text after the
loops. The second pass reads tags in that text, so it changes nothing else either if the tags are
the same ones, that is if no loop shows the id within something that is read as a tag.

## Main definitions

* `Click.Redraws`: the draws of two runs, side by side.
* `Template.RenamedOutcome`: the same fault, or texts up to a renaming.
* `Template.DrawsId`: contexts that ask for a click handler and give no id for it.
* `Template.SteadyTags`: the tags after the loops do not depend on the id.

## Main statements

* `Template.expand_renamed`: the loops show the same up to the id.
* `Template.steadyTags_of_idless`: tags are steady if no loop shows the id.
* `Template.render_again`: with steady tags, renders are the same up to the ids that they draw.
-/

namespace ChatTranscript

namespace Click

/-! ## draws -/

/-- Draws of two runs that stand for each other, in order. The runs draw from one pair of counts on,
up to another. -/
structure Redraws (low high : ℕ × ℕ) (draws : List (ℕ × ℕ)) : Prop where
  increasing : draws.Pairwise fun draw next => draw.1 < next.1 ∧ draw.2 < next.2
  between : ∀ draw ∈ draws, low ≤ draw ∧ draw.1 < high.1 ∧ draw.2 < high.2

namespace Redraws

variable {low middle high : ℕ × ℕ} {draws more : List (ℕ × ℕ)}

theorem nil : Redraws low high [] := ⟨.nil, nofun⟩

theorem single {draw : ℕ × ℕ} (least : low ≤ draw) (most : draw.1 < high.1 ∧ draw.2 < high.2) :
    Redraws low high [draw] := ⟨List.pairwise_singleton _ _, by simpa using ⟨least, most⟩⟩

theorem append (h : Redraws low middle draws) (g : Redraws middle high more)
    (first : low ≤ middle) (second : middle ≤ high) : Redraws low high (draws ++ more) := by
  refine ⟨List.pairwise_append.2 ⟨h.increasing, g.increasing, fun draw early other late => ?_⟩,
    fun draw member => ?_⟩
  · obtain ⟨-, below⟩ := h.between draw early
    obtain ⟨above, -⟩ := g.between other late
    exact ⟨below.1.trans_le above.1, below.2.trans_le above.2⟩
  · obtain early | late := List.mem_append.1 member
    · obtain ⟨above, below⟩ := h.between draw early
      exact ⟨above, below.1.trans_le second.1, below.2.trans_le second.2⟩
    · obtain ⟨above, below⟩ := g.between draw late
      exact ⟨first.trans above, below⟩

end Redraws

/-- The ids of draws that stand for each other. -/
def IdSource.names (source : IdSource) (draws : List (ℕ × ℕ)) : List (Text × Text) :=
  draws.map fun draw => (source.id draw.1, source.id draw.2)

end Click

namespace Template

open Click Text

/-! ## outcomes -/

/-- The same fault, or texts that are the same up to a renaming. -/
inductive RenamedOutcome (names : List (Text × Text)) :
    Except Fault Text → Except Fault Text → Prop where
  | fault (fault : Fault) : RenamedOutcome names (.error fault) (.error fault)
  | text {text other : Text} (renamed : Renamed names text other) :
      RenamedOutcome names (.ok text) (.ok other)

namespace RenamedOutcome

variable {names : List (Text × Text)} {first second rest later : Except Fault Text}

theorem refl (names : List (Text × Text)) (outcome : Except Fault Text) :
    RenamedOutcome names outcome outcome := by
  cases outcome with
  | error fault => exact .fault fault
  | ok text => exact .text (.refl names text)

theorem map {f g : Text → Text}
    (kept : ∀ {text other}, Renamed names text other → Renamed names (f text) (g other))
    (h : RenamedOutcome names first second) :
    RenamedOutcome names (first.map f) (second.map g) := by
  cases h with
  | fault fault => exact .fault fault
  | text renamed => exact .text (kept renamed)

theorem append (h : RenamedOutcome names first second) (g : RenamedOutcome names rest later) :
    RenamedOutcome names (do let shown ← first; return shown ++ (← rest))
      (do let shown ← second; return shown ++ (← later)) := by
  cases h with
  | fault fault => exact .fault fault
  | text front =>
    cases g with
    | fault fault => exact .fault fault
    | text back => exact .text (front.append back)

/-- Both passes put the same in place of each find, up to the renaming. -/
theorem replace {α : Type} {value other : α → Except Fault Text}
    (h : ∀ find, RenamedOutcome names (value find) (other find)) (pieces : List (Piece α)) :
    RenamedOutcome names (replace value pieces) (replace other pieces) := by
  induction pieces with
  | nil => exact refl names _
  | cons piece pieces ih =>
    cases piece with
    | plain text => exact append (refl names (.ok text)) ih
    | found _ find => exact append (h find) ih

end RenamedOutcome

/-! ## contexts -/

/-- The entries of a context with an id; rounds of loops have entries of their own in front. -/
def underId (own outer : Fields) (id : Text) : Fields := own ++ (handlerKey, .str id) :: outer

variable {a b : Text}

/-- What a key leads to is the id, or does not depend on it. -/
theorem get?_underId (own outer : Fields) (key : Text) :
    (∃ value, ∀ id, Fields.get? key (underId own outer id) = value) ∨
      ∀ id, Fields.get? key (underId own outer id) = some (.str id) := by
  unfold underId
  cases shadowed : Fields.get? key own with
  | some value => exact .inl ⟨some value, fun id => by rw [Fields.get?_append, shadowed]; rfl⟩
  | none =>
    by_cases handler : handlerKey = key
    · subst handler
      exact .inr fun id => by rw [Fields.get?_append, shadowed, Fields.get?_cons_self]; rfl
    · refine .inl ⟨Fields.get? key outer, fun id => ?_⟩
      rw [Fields.get?_append, shadowed, Fields.get?_cons_of_ne handler]
      rfl

theorem get?_underId_of_ne (own outer : Fields) {key : Text} (other : handlerKey ≠ key) :
    ∃ value, ∀ id, Fields.get? key (underId own outer id) = value := by
  refine ⟨(Fields.get? key own).or (Fields.get? key outer), fun id => ?_⟩
  rw [underId, Fields.get?_append, Fields.get?_cons_of_ne other]

theorem follow_underId (own outer : Fields) {path : List Step} (notNil : path ≠ []) :
    (∃ outcome, ∀ id, follow (.obj (underId own outer id)) path = outcome) ∨
      ∀ id, follow (.obj (underId own outer id)) path = .ok (some (.str id)) := by
  obtain ⟨step, later, rfl⟩ := List.exists_cons_of_ne_nil notNil
  cases step with
  | key name =>
    obtain ⟨value, fixed⟩ | shown := get?_underId own outer name
    · exact .inl ⟨_, fun id => by rw [follow, fixed]⟩
    · cases later with
      | nil => exact .inr fun id => by simp only [follow, shown]
      | cons => exact .inl ⟨.ok none, fun id => by simp only [follow, shown]⟩
  | item name digits =>
    obtain ⟨value, fixed⟩ | shown := get?_underId own outer name
    · exact .inl ⟨_, fun id => by rw [follow, fixed]⟩
    · exact .inl ⟨_, fun id => by simp only [follow, shown]; rfl⟩

/-- So does a path. -/
theorem lookup_underId (own outer : Fields) (path : Text) :
    (∃ outcome, ∀ id, lookup (.obj (underId own outer id)) path = outcome) ∨
      ∀ id, lookup (.obj (underId own outer id)) path = .ok (some (.str id)) := by
  unfold lookup
  dsimp only
  split
  · exact .inl ⟨_, fun _ => rfl⟩
  · split
    · obtain ⟨value, fixed⟩ | shown := get?_underId own outer (strip path)
      · exact .inl ⟨.ok value, fun id => congrArg Except.ok (fixed id)⟩
      · exact .inr fun id => congrArg Except.ok (shown id)
    · have notNil : steps (strip path) ≠ [] := by simp [steps, List.splitOn_ne_nil]
      exact follow_underId own outer notNil

/-! ## values -/

theorem renamed_writeAttributes (params : Json) :
    Renamed [(a, b)] (writeAttributes (.str a) params) (writeAttributes (.str b) params) := by
  have id : Renamed [(a, b)] a b := .name List.mem_cons_self
  unfold writeAttributes
  exact (((Renamed.refl _ _).append id).append (.refl _ _)).append (.refl _ _) |>.append (.refl _ _)

theorem clickAttributes_renamed (own outer : Fields) (left : a ≠ []) (right : b ≠ []) :
    RenamedOutcome [(a, b)] (clickAttributes (.obj (underId own outer a)))
      (clickAttributes (.obj (underId own outer b))) := by
  obtain ⟨overwrite, kept⟩ := get?_underId_of_ne own outer (by decide : handlerKey ≠ overwriteKey)
  have entry (key id : Text) : Json.entry key (.obj (underId own outer id)) =
      .ok (Fields.get? key (underId own outer id)) := rfl
  unfold clickAttributes
  simp only [entry, kept]
  obtain ⟨value, fixed⟩ | shown := get?_underId own outer handlerKey
  · rw [fixed, fixed]
    exact .refl _ _
  · have given {id : Text} (notEmpty : id ≠ []) :
        Json.truthy? (some (.str id)) = some (.str id) := by
      simp [Json.truthy?, Json.isTruthy, notEmpty]
    rw [shown, shown]
    simp only [given left, given right, bind, Except.bind]
    cases Json.entry "clickParams".toList ((Json.truthy? overwrite).getD (.obj [])) with
    | error fault => exact .fault fault
    | ok params => exact .text (renamed_writeAttributes _)

theorem valueOf_renamed (own outer : Fields) (left : a ≠ []) (right : b ≠ []) (key : Text) :
    RenamedOutcome [(a, b)] (valueOf (.obj (underId own outer a)) key)
      (valueOf (.obj (underId own outer b)) key) := by
  have id : Renamed [(a, b)] a b := .name List.mem_cons_self
  unfold valueOf
  split
  · exact clickAttributes_renamed own outer left right
  · split
    · simp only [Json.entry]
      obtain ⟨value, fixed⟩ | shown := get?_underId own outer key
      · rw [fixed, fixed]
        exact .refl _ _
      · rw [shown, shown]
        exact .text id
    · obtain ⟨value, fixed⟩ | shown := lookup_underId own outer key
      · rw [fixed, fixed]
        exact .refl _ _
      · rw [shown, shown]
        exact .text id

/-! ## the first pass -/

theorem substitute_underId (own outer : Fields) (left : a ≠ []) (right : b ≠ []) (text : Text) :
    RenamedOutcome [(a, b)] (substitute text (.obj (underId own outer a)))
      (substitute text (.obj (underId own outer b))) :=
  .replace (valueOf_renamed own outer left right) _

theorem round_underId (own outer : Fields) (id : Text) (item : Json) (index count : ℕ) :
    roundContext (.obj (underId own outer id)) item index count =
      .obj (underId (ownEntries item index count ++ item.entries ++ own) outer id) := by
  rw [roundContext_eq, underId, underId, Json.entries, ← List.append_assoc]

theorem rounds_renamed (own outer : Fields) (left : a ≠ []) (right : b ≠ []) (body : Text)
    (count : ℕ) (items : List Json) (index : ℕ) :
    RenamedOutcome [(a, b)] (rounds body (.obj (underId own outer a)) count index items)
      (rounds body (.obj (underId own outer b)) count index items) := by
  induction items generalizing index with
  | nil => exact .refl _ _
  | cons item items ih =>
    rw [rounds, rounds, round_underId, round_underId]
    exact (substitute_underId _ outer left right body).append (ih (index + 1))

/-- An id is no list, so a loop over it shows nothing. -/
theorem expandBlock_renamed (own outer : Fields) (left : a ≠ []) (right : b ≠ []) (block : Block) :
    RenamedOutcome [(a, b)] (expandBlock (.obj (underId own outer a)) block)
      (expandBlock (.obj (underId own outer b)) block) := by
  unfold expandBlock
  obtain ⟨outcome, fixed⟩ | shown := lookup_underId own outer block.path
  · rw [fixed, fixed]
    match outcome with
    | .error fault => exact .fault fault
    | .ok (some (.arr items)) => exact rounds_renamed own outer left right block.body _ items 0
    | .ok none | .ok (some .null) | .ok (some (.bool _)) | .ok (some (.int _))
    | .ok (some (.float _)) | .ok (some (.str _)) | .ok (some (.obj _)) => exact .refl _ _
  · rw [shown, shown]
    exact .refl _ _

/-- The text after the loops is the same up to the id. -/
theorem expand_renamed (own outer : Fields) (left : a ≠ []) (right : b ≠ []) (template : Text) :
    RenamedOutcome [(a, b)] (expand template (.obj (underId own outer a)))
      (expand template (.obj (underId own outer b))) :=
  .replace (expandBlock_renamed own outer left right) _

/-! ## loops that do not show the id -/

/-- The tag shows no click attributes, and its path does not start from the id. -/
def Idless (key : Text) : Prop := key ≠ "__clickAttrs".toList ∧ rootOf key ≠ handlerKey

instance (key : Text) : Decidable (Idless key) :=
  inferInstanceAs (Decidable (key ≠ "__clickAttrs".toList ∧ rootOf key ≠ handlerKey))

theorem valueOf_of_idless {key : Text} (idless : Idless key) (own outer : Fields) (a b : Text) :
    valueOf (.obj (underId own outer a)) key = valueOf (.obj (underId own outer b)) key := by
  have agree {name : Text} (other : handlerKey ≠ name) :
      AgreeOn (underId own outer a) (underId own outer b) name := by
    obtain ⟨value, fixed⟩ := get?_underId_of_ne own outer other
    exact (fixed a).trans (fixed b).symm
  unfold valueOf
  split
  · rename_i attributes
    exact absurd (beq_iff_eq.1 attributes) idless.1
  · split
    · rename_i this
      obtain rfl := beq_iff_eq.1 this
      have other : handlerKey ≠ "this".toList := by decide
      exact congrArg (fun value => Except.ok (display value)) (agree other)
    · rw [lookup_congr (agree (Ne.symm idless.2))]

theorem rounds_of_idless {body : Text} (idless : ∀ key ∈ tags body, Idless key)
    (own outer : Fields) (a b : Text) (count : ℕ) (items : List Json) (index : ℕ) :
    rounds body (.obj (underId own outer a)) count index items =
      rounds body (.obj (underId own outer b)) count index items := by
  induction items generalizing index with
  | nil => rfl
  | cons item items ih =>
    have round (own : Fields) : substitute body (.obj (underId own outer a)) =
        substitute body (.obj (underId own outer b)) :=
      replace_congr fun key member => valueOf_of_idless (idless key member) own outer a b
    rw [rounds, rounds, round_underId, round_underId, round, ih]

/-- Loops whose bodies do not show the id show the same under every id. -/
theorem expand_of_idless {template : Text}
    (idless : ∀ block ∈ finds readBlock template, ∀ key ∈ tags block.body, Idless key)
    (outer : Fields) (a b : Text) :
    expand template (.obj (underId [] outer a)) = expand template (.obj (underId [] outer b)) := by
  refine replace_congr fun block member => ?_
  unfold expandBlock
  obtain ⟨outcome, fixed⟩ | shown := lookup_underId [] outer block.path
  · simp only [fixed, rounds_of_idless (idless block member) [] outer a b]
  · rw [shown, shown]
    rfl

/-! ## the second pass -/

variable {names : List (Text × Text)} {held text other rest : Text} {context next : Json}

/-- What stands between braces is what a tag holds. -/
theorem eq_tag_of_readBraces (h : readBraces text = some (held, rest)) :
    text = tag held ++ rest ∧ '}' ∉ held := by
  unfold readBraces at h
  cases opened : openBraces.isPrefixOf? text with
  | none => simp [opened] at h
  | some inside =>
    cases closed : closeBraces.isPrefixOf? (spanWhile (· != '}') inside).2 with
    | none => simp [opened, closed] at h
    | some after =>
      have whole := (List.append_eq_of_isPrefixOf?_eq_some opened).symm
      have ending := (List.append_eq_of_isPrefixOf?_eq_some closed).symm
      simp only [opened, closed, Option.bind_eq_bind, Option.bind_some, Option.pure_def,
        Option.some.injEq, Prod.mk.injEq] at h
      obtain ⟨rfl, rfl⟩ := h
      refine ⟨?_, fun member => by simpa using List.mem_takeWhile_imp member⟩
      rw [whole, tag, List.append_assoc, List.append_assoc, ← ending, spanWhile,
        List.takeWhile_append_dropWhile]

def braces : List Char := ['{', '}']

@[simp] theorem mem_braces {c : Char} : c ∈ braces ↔ c = '{' ∨ c = '}' := by
  simp [braces]

theorem readBraces_renamed (free : Renamed.Unmarked braces names)
    (h : Renamed names text other) :
    readBraces text = none ∧ readBraces other = none ∨
      ∃ held holds rest later, readBraces text = some (held, rest) ∧
        readBraces other = some (holds, later) ∧
        Renamed names held holds ∧ Renamed names rest later := by
  have opening : ∀ c ∈ openBraces, c ∈ braces := by simp [openBraces]
  have closing : ∀ c ∈ closeBraces, c ∈ braces := by simp [closeBraces]
  unfold readBraces
  obtain ⟨left, right⟩ | ⟨inside, within, left, right, opened⟩ := h.isPrefixOf? free opening
  · simp [left, right]
  · obtain ⟨held, after⟩ := opened.spanWhile free (mem_braces.2 (.inr rfl))
    obtain ⟨first, second⟩ | ⟨rest, later, first, second, closed⟩ := after.isPrefixOf? free closing
    · simp [left, right, first, second]
    · exact .inr ⟨_, _, rest, later, by simp [left, first], by simp [right, second], held, closed⟩

/-- Where one text has a tag, the other has one. -/
theorem readVariable_renamed (free : Renamed.Unmarked braces names)
    (h : Renamed names text other) :
    readVariable text = none ∧ readVariable other = none ∨
      ∃ held holds rest later, text = tag held ++ rest ∧ other = tag holds ++ later ∧
        readVariable text = some (strip held, rest) ∧
        readVariable other = some (strip holds, later) ∧ Renamed names rest later := by
  unfold readVariable
  obtain ⟨left, right⟩ | ⟨held, holds, rest, later, left, right, names, after⟩ :=
    readBraces_renamed free h
  · exact .inl (by simp [left, right])
  · have both := names.nil_iff free
    cases held with
    | nil => exact .inl (by simp [left, right, both.1 rfl])
    | cons c inner =>
      cases holds with
      | nil => cases both.2 rfl
      | cons d within =>
        exact .inr ⟨_, _, rest, later, (eq_tag_of_readBraces left).1,
          (eq_tag_of_readBraces right).1, by rw [left], by rw [right], after⟩

/-- A second pass over texts up to a renaming gives such texts if it reads the same tags. -/
theorem substitute_renamed (free : Renamed.Unmarked braces names)
    (values : ∀ key, RenamedOutcome names (valueOf context key) (valueOf next key))
    (h : Renamed names text other) (same : tags text = tags other) :
    RenamedOutcome names (substitute text context) (substitute other next) := by
  induction size : text.length using Nat.strong_induction_on generalizing text other with
  | _ n ih =>
    subst size
    cases h with
    | nil => exact .refl _ _
    | swap member rest =>
      rename_i name text other
      obtain ⟨left, right⟩ := free _ member
      -- a name holds no brace, so it opens no tag
      have skips {name : Text} (free : Free braces name) : Skips readVariable name :=
        (Inert.of_not_mem fun brace => free.unmarked _ brace (by decide)).skips
          fun _ => readVariable_eq_none
      have shorter : text.length < (name.1 ++ text).length := by
        have := List.length_pos_iff.2 left.notEmpty
        rw [List.length_append]
        omega
      rw [tags, tags, finds_skips (skips left), finds_skips (skips right)] at same
      rw [substitute, substitute, replace_scan_skips (skips left),
        replace_scan_skips (skips right)]
      exact (ih _ shorter rest same rfl).map (Renamed.append (.name member))
    | keep c rest =>
      rename_i text other
      obtain ⟨left, right⟩ | ⟨held, holds, after, later, split, splits, left, right, goesOn⟩ :=
        readVariable_renamed free (rest.keep c)
      · rw [tags, tags, finds, finds, scan_plain left, scan_plain right,
          filterMap_push fun _ => rfl, filterMap_push fun _ => rfl] at same
        rw [substitute, substitute, scan_plain left, scan_plain right, replace_push, replace_push]
        exact (ih _ (by simp) rest same rfl).map (.keep c)
      · have notEmpty (held : Text) : tag held ≠ [] := by simp [tag, openBraces]
        have shorter : after.length < (c :: text).length := by
          rw [split]
          simp [tag, openBraces]
          omega
        rw [split] at left
        rw [splits] at right
        rw [split, splits, tags, tags, finds_found (notEmpty held) left,
          finds_found (notEmpty holds) right] at same
        obtain ⟨key, same⟩ := List.cons.inj same
        rw [substitute, substitute, split, splits, replace_scan_found (notEmpty held) left,
          replace_scan_found (notEmpty holds) right, key]
        exact (values _).append (ih _ shorter goesOn same rfl)

/-! ## renders -/

/-- The text after the loops has the same tags whichever id is drawn. -/
def SteadyTags (source : IdSource) (template : Text) (context : Json) : Prop :=
  ∀ registry other, (afterLoops source template context registry).map tags =
    (afterLoops source template context other).map tags

theorem fill_renamed (outer : Fields) (left : Free braces a) (right : Free braces b)
    {template : Text} (steady : (expand template (.obj (underId [] outer a))).map tags =
      (expand template (.obj (underId [] outer b))).map tags) :
    RenamedOutcome [(a, b)] (fill template (.obj (underId [] outer a)))
      (fill template (.obj (underId [] outer b))) := by
  have free : Renamed.Unmarked braces [(a, b)] := by simpa [Renamed.Unmarked] using ⟨left, right⟩
  have first := expand_renamed [] outer left.notEmpty right.notEmpty template
  unfold fill
  generalize expand template (.obj (underId [] outer a)) = shown at first steady ⊢
  generalize expand template (.obj (underId [] outer b)) = shows at first steady ⊢
  cases first with
  | fault fault => exact .fault fault
  | text renamed =>
    exact substitute_renamed free (valueOf_renamed [] outer left.notEmpty right.notEmpty) renamed
      (Except.ok.inj steady)

variable {source : IdSource} {registry : Registry}

/-- The context asks for a click handler and gives no id for it. -/
def DrawsId (context : Json) : Prop := ∃ handler, Request.ofContext? context = some ⟨none, handler⟩

theorem drawFresh_between (source : IdSource) (registry : Registry) (tries : ℕ) :
    ∃ n, (Registry.drawFresh source registry tries).1 = source.id n ∧ registry.drawn ≤ n ∧
      n < (Registry.drawFresh source registry tries).2.drawn := by
  obtain ⟨k, -, drawn, -⟩ := Registry.drawFresh_eq source registry tries
  rw [drawn]
  exact ⟨registry.drawn + k, rfl, by omega, by dsimp only; omega⟩

theorem free_id (drawn : DrawsDigits source) (n : ℕ) : Free braces (source.id n) := by
  have front : '{' ∉ "handler_".toList ∧ '}' ∉ "handler_".toList := by simp
  have letter : ∀ d < 36, suffixDigit d ≠ '{' ∧ suffixDigit d ≠ '}' := by decide
  have digits {mark : Char} (other : mark.isDigit = false) :
      ∀ c ∈ ofNat (source.milliseconds n), c ≠ mark :=
    fun c member => bne_iff_ne.1 ((isDigits_ofNat _).ne other c member)
  rw [IdSource.id_eq]
  refine ⟨by simp, fun c member => ?_⟩
  rw [mem_braces, not_or]
  obtain early | late := List.mem_append.1 member
  · exact ⟨ne_of_mem_of_not_mem early front.1, ne_of_mem_of_not_mem early front.2⟩
  obtain digit | late := List.mem_append.1 late
  · exact ⟨digits rfl c digit, digits rfl c digit⟩
  obtain rfl | suffix := List.mem_cons.1 late
  · decide
  · obtain ⟨d, bound, rfl⟩ := drawn n c suffix
    exact letter d bound

/-- Without a draw the registry does not matter, and no id is drawn from it. -/
theorem registerHandler_of_not_drawsId {context : Json} (undrawn : ¬ DrawsId context)
    (source : IdSource) :
    ∃ outcome, ∀ registry, (registerHandler source context registry).1 = outcome ∧
      (registerHandler source context registry).2.drawn = registry.drawn := by
  obtain ⟨⟨id, handler⟩, asked, registered⟩ | ⟨-, outcome, -, registered⟩ :=
    registerHandler_cases source context
  · cases id with
    | none => exact absurd ⟨handler, asked⟩ undrawn
    | some id =>
      refine ⟨.ok (some id), fun registry => ?_⟩
      rw [registered, Registry.grant_given]
      exact ⟨rfl, rfl⟩
  · refine ⟨outcome, fun registry => ?_⟩
    rw [registered]
    exact ⟨rfl, rfl⟩

theorem registerHandler_of_drawsId {context : Json} (draws : DrawsId context)
    (source : IdSource) (registry : Registry) :
    ∃ n, (registerHandler source context registry).1 = .ok (some (.text (source.id n))) ∧
      registry.drawn ≤ n ∧ n < (registerHandler source context registry).2.drawn := by
  obtain ⟨handler, asked⟩ := draws
  obtain ⟨request, asks, registered⟩ | ⟨nothing, -⟩ := registerHandler_cases source context
  · obtain rfl := Option.some.inj (asked.symm.trans asks)
    obtain ⟨n, id, low, high⟩ := drawFresh_between source registry registry.entries.length
    rw [← Registry.newId] at id high
    refine ⟨n, ?_, low, ?_⟩
    · rw [registered, ← id]
      rfl
    · rw [registered]
      exact high
  · cases asked.symm.trans nothing

theorem drawn_le_render (source : IdSource) (template : Text) (context : Json)
    (registry : Registry) : registry.drawn ≤ (render source template context registry).2.drawn := by
  rw [render_snd]
  by_cases draws : DrawsId context
  · obtain ⟨n, -, low, high⟩ := registerHandler_of_drawsId draws source registry
    exact low.trans high.le
  · obtain ⟨outcome, fixed⟩ := registerHandler_of_not_drawsId draws source
    exact (fixed registry).2.ge

/-- Tags are steady if the bodies of all loops leave the id out. -/
theorem steadyTags_of_idless {template : Text}
    (idless : ∀ block ∈ finds readBlock template, ∀ key ∈ tags block.body, Idless key)
    (source : IdSource) (fields : Fields) : SteadyTags source template (.obj fields) := by
  intro registry other
  unfold afterLoops
  by_cases draws : DrawsId (.obj fields)
  · obtain ⟨m, first, -⟩ := registerHandler_of_drawsId draws source registry
    obtain ⟨n, second, -⟩ := registerHandler_of_drawsId draws source other
    rw [first, second]
    exact congrArg (Except.map tags) (expand_of_idless idless _ (source.id m) (source.id n))
  · obtain ⟨outcome, fixed⟩ := registerHandler_of_not_drawsId draws source
    rw [(fixed registry).1, (fixed other).1]

/-- Two renders of a context are the same up to the ids that they draw. -/
theorem render_again {fields : Fields} (drawn : DrawsDigits source) (template : Text)
    (registry other : Registry) :
    ∃ draws, Redraws (registry.drawn, other.drawn)
        ((render source template (.obj fields) registry).2.drawn,
          (render source template (.obj fields) other).2.drawn) draws ∧
      (¬ DrawsId (.obj fields) → draws = []) ∧
      ((DrawsId (.obj fields) → SteadyTags source template (.obj fields)) →
        RenamedOutcome (source.names draws) (render source template (.obj fields) registry).1
          (render source template (.obj fields) other).1) := by
  rw [render_snd, render_snd, render_eq, render_eq]
  by_cases draws : DrawsId (.obj fields)
  · obtain ⟨m, first, low, high⟩ := registerHandler_of_drawsId draws source registry
    obtain ⟨n, second, least, most⟩ := registerHandler_of_drawsId draws source other
    refine ⟨[(m, n)], .single ⟨low, least⟩ ⟨high, most⟩, fun undrawn => absurd draws undrawn,
      fun steady => ?_⟩
    have same := steady draws registry other
    unfold afterLoops at same
    rw [first, second] at same ⊢
    exact fill_renamed _ (free_id drawn m) (free_id drawn n) same
  · obtain ⟨outcome, fixed⟩ := registerHandler_of_not_drawsId draws source
    refine ⟨[], .nil, fun _ => rfl, fun _ => ?_⟩
    rw [(fixed registry).1, (fixed other).1]
    exact .refl _ _

end Template

end ChatTranscript

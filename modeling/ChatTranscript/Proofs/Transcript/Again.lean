import ChatTranscript.Proofs.Session.Growth
import ChatTranscript.Proofs.Template.Renaming
import ChatTranscript.Proofs.Transcript.Composition

/-!
# Rendering a transcript again

A second render finds the avatars and templates of the first one, so it shows the same and leaves
them as they are. Only click handlers that are bound under new ids get others. The markup is then
the same up to these ids, if they do not decide what is read as a tag.

## Main definitions

* `Renderer.Steady`: no id decides what a record shows besides itself.
* `Renderer.Redone`: a part of a render that gives the same when it is done again.

## Main statements

* `Renderer.transcript_again`: the second render of a transcript.
* `Renderer.transcript_not_repeatable`: a loop can make an id part of a tag.
-/

namespace ChatTranscript

open Click Template Text

/-- The record is a message with a card that is accepted. -/
def Record.HasCard (record : Record) (card : Card) : Prop :=
  record.isSystem = false ∧ record.element = .card ∧
    Card.ofContent record.messageContent = .ok card

/-- The card of the record names a known click action and gives no id for it. -/
def Record.DrawsId (record : Record) : Prop :=
  ∃ card, record.HasCard card ∧ Template.DrawsId (.obj card.context)

namespace Renderer

variable {σ : Type}

/-- If the card draws an id, its template reads the same tags whichever id it is. -/
def SteadyCard (renderer : Renderer σ) (session : Session σ) (card : Card) : Prop :=
  Template.DrawsId (.obj card.context) → ∀ template,
    (session.template renderer.fetch (renderer.templatePath card)).1 = .ok template →
      SteadyTags renderer.ids template (.obj card.context)

def Steady (renderer : Renderer σ) (session : Session σ) (record : Record) : Prop :=
  ∀ card, record.HasCard card → renderer.SteadyCard session card

/-- How many ids were drawn in two sessions. -/
def drawnIn (session later : Session σ) : ℕ × ℕ := (session.handlers.drawn, later.handlers.drawn)

/-- A part of a render that is done again from a later session leaves that session as it is, and
gives the same up to the ids that are drawn. -/
structure Redone {α : Type} (renderer : Renderer σ) (resources : Text → FetchOutcome)
    (drawing steady : Prop) (same : List (Text × Text) → α → α → Prop)
    (part : Session σ → α × Session σ) (session : Session σ) : Prop where
  grows : session.Extends resources (part session).2
  drawn : session.handlers.drawn ≤ (part session).2.handlers.drawn
  again : ∀ later, (part session).2.Extends resources later →
    later.Revisited renderer.fetch (part later).2 ∧
      ∃ draws, Redraws (drawnIn session later) (drawnIn (part session).2 (part later).2) draws ∧
        (¬ drawing → draws = []) ∧
        (steady → same (renderer.ids.names draws) (part session).1 (part later).1)

variable {renderer : Renderer σ} {resources : Text → FetchOutcome} {view : AvatarView}
  {card : Card} {record : Record} {records : List Record} {session next after : Session σ}
  {template markup : Text} {fault : Fault} {seen : List ContentKey} {fragments : List Text}

/-! ## cards -/

theorem fillCard_of_error
    (unanswered : (session.template renderer.fetch (renderer.templatePath card)).1 = .error fault) :
    renderer.fillCard card session =
      (.error fault, (session.template renderer.fetch (renderer.templatePath card)).2) := by
  unfold fillCard
  generalize session.template renderer.fetch (renderer.templatePath card) = outcome at unanswered ⊢
  obtain ⟨answer, next⟩ := outcome
  cases unanswered
  rfl

theorem fillCard_of_ok
    (answered : (session.template renderer.fetch (renderer.templatePath card)).1 = .ok template) :
    renderer.fillCard card session =
      ((Template.render renderer.ids template (.obj card.context) session.handlers).1,
        { (session.template renderer.fetch (renderer.templatePath card)).2 with
          handlers :=
            (Template.render renderer.ids template (.obj card.context) session.handlers).2 }) := by
  have kept : (session.template renderer.fetch (renderer.templatePath card)).2.handlers =
      session.handlers := rfl
  rw [← kept]
  clear kept
  unfold fillCard
  generalize session.template renderer.fetch (renderer.templatePath card) = outcome at answered ⊢
  obtain ⟨answer, next⟩ := outcome
  cases answered
  rfl

variable (fixed : ∀ path source, (renderer.fetch path source).1 = resources path)

include fixed

/-- A card is steady in a session if it is in a session that has grown from it. -/
theorem SteadyCard.of_extends (grows : session.Extends resources next)
    (steady : renderer.SteadyCard next card) : renderer.SteadyCard session card := by
  intro draws template answered
  refine steady draws template ?_
  rw [Session.template_answer fixed, grows.store.answer_eq, ← Session.template_answer fixed,
    answered]

theorem fillCard_redone (ids : DrawsDigits renderer.ids) (card : Card) (session : Session σ) :
    renderer.Redone resources (Template.DrawsId (.obj card.context))
      (renderer.SteadyCard session card) RenamedOutcome (renderer.fillCard card) session := by
  have grows := Session.template_extends fixed (renderer.templatePath card) session
  have again (later : Session σ)
      (h : (session.template renderer.fetch (renderer.templatePath card)).2.Extends resources
        later) := Session.template_again fixed h
  cases answered : (session.template renderer.fetch (renderer.templatePath card)).1 with
  | error fault =>
    have filled := fillCard_of_error answered
    refine ⟨by rw [filled]; exact grows, by rw [filled]; exact Nat.le_refl _, fun later h => ?_⟩
    rw [filled] at h ⊢
    obtain ⟨same, revisited⟩ := again later h
    rw [fillCard_of_error (same.trans answered)]
    exact ⟨revisited, [], .nil, fun _ => rfl, fun _ => .fault fault⟩
  | ok template =>
    have filled := fillCard_of_ok answered
    refine ⟨?_, ?_, fun later h => ?_⟩
    · rw [filled]
      exact ⟨grows.roster, grows.store⟩
    · rw [filled]
      exact drawn_le_render _ _ _ _
    · rw [filled] at h ⊢
      obtain ⟨same, revisited⟩ := again later ⟨h.roster, h.store⟩
      rw [fillCard_of_ok (same.trans answered)]
      obtain ⟨draws, redraws, undrawn, renamed⟩ :=
        render_again ids template session.handlers later.handlers
      exact ⟨⟨revisited.roster, revisited.store, revisited.source, drawn_le_render _ _ _ _⟩,
        draws, redraws, undrawn, fun steady => renamed fun draws => steady draws template answered⟩

omit fixed

/-! ## messages -/

namespace Redone

variable {α β : Type} {drawing steady : Prop} {same : List (Text × Text) → α → α → Prop}
  {part : Session σ → α × Session σ}

/-- What does not look at the session can be done again. -/
theorem const {value : α} (refl : ∀ names, same names value value) (session : Session σ) :
    renderer.Redone resources drawing steady same (fun session => (value, session)) session :=
  ⟨.refl _ _, Nat.le_refl _,
    fun _ _ => ⟨.refl _ _, [], .nil, fun _ => rfl, fun _ => refl _⟩⟩

/-- What is made of the result is made of the second one too. -/
theorem map {drawing' steady' : Prop} {same' : List (Text × Text) → β → β → Prop} (f : α → β)
    (kept : ∀ {names x y}, same names x y → same' names (f x) (f y))
    (draws : drawing → drawing') (steadies : steady' → steady)
    (h : renderer.Redone resources drawing steady same part session) :
    renderer.Redone resources drawing' steady' same'
      (fun session => (f (part session).1, (part session).2)) session := by
  refine ⟨h.grows, h.drawn, fun later grown => ?_⟩
  obtain ⟨revisited, drawn, redraws, undrawn, renamed⟩ := h.again later grown
  exact ⟨revisited, drawn, redraws, fun nothing => undrawn (mt draws nothing),
    fun holds => kept (renamed (steadies holds))⟩

end Redone

/-- A card that cannot be filled is shown with a note in its place. -/
def shownCard : Except Fault Text → Except Fault Text
  | .ok markup => .ok markup
  | .error fault => .ok (Html.error "Card render failed".toList fault.description)

theorem cardContent_of_ok {content : Json} (accepted : Card.ofContent content = .ok card) :
    renderer.cardContent content = fun session =>
      (shownCard (renderer.fillCard card session).1, (renderer.fillCard card session).2) := by
  funext session
  unfold cardContent Renderer.card
  rw [accepted]
  dsimp only
  generalize renderer.fillCard card session = filled
  obtain ⟨fault | markup, next⟩ := filled
  · rfl
  · rfl

theorem shownCard_renamed {names : List (Text × Text)} {first second : Except Fault Text}
    (h : RenamedOutcome names first second) :
    RenamedOutcome names (shownCard first) (shownCard second) := by
  cases h with
  | fault fault => exact .text (.refl _ _)
  | text renamed => exact .text renamed

theorem renamed_frame {names : List (Text × Text)} {content other : Text} (view : AvatarView)
    (record : Record) (session : Session σ) (h : Renamed names content other) :
    Renamed names (frame view record session content) (frame view record session other) := by
  unfold frame Html.chatItem
  exact ((Renamed.refl _ _).append h).append (.refl _ _)

/-- Who has an avatar keeps it. -/
theorem chooseAvatar_again
    (h : (chooseAvatar view record session).2.roster.Extends next.roster) :
    chooseAvatar view record next = ((chooseAvatar view record session).1, next) := by
  have chosen := Avatar.choose_again h
  unfold chooseAvatar
  rw [chosen]

theorem frame_again (h : (chooseAvatar view record session).2.roster.Extends next.roster) :
    frame view record next = frame view record session := by
  funext content
  unfold frame
  rw [chooseAvatar_again h]

variable (fixed : ∀ path source, (renderer.fetch path source).1 = resources path)
  (ids : DrawsDigits renderer.ids)

include fixed ids

theorem content_redone (message : record.isSystem = false) (session : Session σ) :
    renderer.Redone resources record.DrawsId (renderer.Steady session record) RenamedOutcome
      (renderer.content record) session := by
  cases element : record.element with
  | text =>
    have content : renderer.content record =
        fun session => (.ok (renderer.textContent record.messageContent), session) := by
      funext session
      rw [Renderer.content, element]
    rw [content]
    exact .const (fun _ => .refl _ _) session
  | card =>
    have content : renderer.content record = renderer.cardContent record.messageContent := by
      funext session
      rw [Renderer.content, element]
    rw [content]
    cases read : Card.ofContent record.messageContent with
    | ok card =>
      have has : record.HasCard card := ⟨message, element, read⟩
      rw [cardContent_of_ok read]
      exact (fillCard_redone fixed ids card session).map shownCard shownCard_renamed
        (fun draws => ⟨card, has, draws⟩) fun steady => steady card has
    | error fault =>
      have refused : ∃ outcome, renderer.cardContent record.messageContent =
          fun session => (outcome, session) := by
        unfold cardContent
        rw [read]
        cases fault <;> exact ⟨_, rfl⟩
      obtain ⟨outcome, refused⟩ := refused
      rw [refused]
      exact .const (fun _ => .refl _ _) session

theorem item_redone (view : AvatarView) (message : record.isSystem = false)
    (session : Session σ) :
    renderer.Redone resources record.DrawsId (renderer.Steady session record) RenamedOutcome
      (renderer.item view record) session := by
  have chosen : session.Extends resources (chooseAvatar view record session).2 :=
    ⟨Avatar.choose_extends _ _ _, .refl _ _⟩
  have content := content_redone fixed ids message (chooseAvatar view record session).2
  refine ⟨?_, ?_, fun later h => ?_⟩
  · rw [item_eq]
    exact chosen.trans content.grows
  · rw [item_eq]
    exact content.drawn
  · rw [item_eq] at h ⊢
    have kept := (content.grows.trans h).roster
    rw [item_eq, chooseAvatar_again kept, frame_again kept]
    obtain ⟨revisited, draws, redraws, undrawn, renamed⟩ := content.again later h
    exact ⟨revisited, draws, redraws, undrawn, fun steady =>
      (renamed steady).map (renamed_frame view record session)⟩

/-! ## transcripts -/

omit ids in
theorem Steady.of_extends (grows : session.Extends resources next)
    (steady : renderer.Steady next record) : renderer.Steady session record :=
  fun card has => (steady card has).of_extends fixed grows

/-- A render that returns can be done again from its end or from any later session. -/
theorem Returns.again (h : Returns renderer view seen records session fragments after) :
    (session.Extends resources after ∧ session.handlers.drawn ≤ after.handlers.drawn) ∧
      ∀ later, after.Extends resources later →
        ∃ again last, Returns renderer view seen records later again last ∧
          later.Revisited renderer.fetch last ∧
          ∃ draws, Redraws (drawnIn session later) (drawnIn after last) draws ∧
            ((∀ record ∈ records, ¬ record.DrawsId) → draws = []) ∧
            ((∀ record ∈ records, renderer.Steady after record) →
              Renamed (renderer.ids.names draws) fragments.flatten again.flatten) := by
  induction h with
  | done seen session =>
    refine ⟨⟨.refl _ _, Nat.le_refl _⟩, fun later _ => ?_⟩
    exact ⟨[], later, .done _ _, .refl _ _, [], .nil, fun _ => rfl, fun _ => .nil⟩
  | notice system _ ih =>
    obtain ⟨grows, redo⟩ := ih
    refine ⟨grows, fun later grown => ?_⟩
    obtain ⟨again, last, shows, revisited, draws, redraws, undrawn, renamed⟩ := redo later grown
    exact ⟨_, last, .notice system shows, revisited, draws, redraws,
      fun quiet => undrawn (List.forall_mem_cons.1 quiet).2,
      fun steady => (Renamed.refl _ _).append (renamed (List.forall_mem_cons.1 steady).2)⟩
  | repeated message known _ ih =>
    obtain ⟨grows, redo⟩ := ih
    refine ⟨grows, fun later grown => ?_⟩
    obtain ⟨again, last, shows, revisited, draws, redraws, undrawn, renamed⟩ := redo later grown
    exact ⟨again, last, .repeated message known shows, revisited, draws, redraws,
      fun quiet => undrawn (List.forall_mem_cons.1 quiet).2,
      fun steady => renamed (List.forall_mem_cons.1 steady).2⟩
  | @shown record _ session middle _ _ _ _ message new item _ ih =>
    obtain ⟨⟨grows, drawn⟩, redo⟩ := ih
    have first := item_redone fixed ids view message session
    obtain rfl : (renderer.item view record session).2 = middle := by rw [item]
    refine ⟨⟨first.grows.trans grows, first.drawn.trans drawn⟩, fun later grown => ?_⟩
    -- the record is shown again, and the rest goes on from there
    obtain ⟨revisited, draws, redraws, undrawn, renamed⟩ := first.again later (grows.trans grown)
    obtain ⟨front, next, reshown⟩ := item_returns message item later
    rw [item, reshown] at renamed
    rw [reshown] at revisited redraws
    obtain ⟨again, last, shows, returned, more, goesOn, nothing, same⟩ :=
      redo next (revisited.extends_of_extends grown)
    refine ⟨front :: again, last, .shown message new reshown shows, revisited.trans returned,
      draws ++ more, redraws.append goesOn ⟨first.drawn, revisited.drawn⟩ ⟨drawn, returned.drawn⟩,
      fun quiet => ?_, fun steady => ?_⟩
    · obtain ⟨here, rest⟩ := List.forall_mem_cons.1 quiet
      rw [undrawn here, nothing rest, List.append_nil]
    · obtain ⟨here, rest⟩ := List.forall_mem_cons.1 steady
      have late := same rest
      cases renamed (here.of_extends fixed (first.grows.trans grows)) with
      | text early =>
        exact (early.mono (List.map_subset _ (List.subset_append_left draws more))).append
          (late.mono (List.map_subset _ (List.subset_append_right draws more)))

/-- A render that returns, done again from where it ends, returns and leaves avatars, templates and
styles as they are, and it fetches no template that is kept. Without cards that draw ids it gives
the same markup. With such cards the markup is the same but for the ids that each render draws, in
order, if the templates of these cards read the same tags under every id. -/
theorem transcript_again (view : AvatarView) (records : List Record) (session : Session σ)
    (returns : renderer.transcript view records session = (.ok markup, after)) :
    ∃ again last, renderer.transcript view records after = (.ok again, last) ∧
      after.Revisited renderer.fetch last ∧
      ((∀ record ∈ records, ¬ record.DrawsId) → again = markup) ∧
      ((∀ record ∈ records, renderer.Steady after record) →
        ∃ draws, Redraws (drawnIn session after) (drawnIn after last) draws ∧
          Renamed (renderer.ids.names draws) markup again) := by
  obtain ⟨fragments, shown, rfl⟩ := returns_of_transcript returns
  obtain ⟨-, redo⟩ := shown.again fixed ids
  obtain ⟨again, last, shows, revisited, draws, redraws, undrawn, renamed⟩ := redo after (.refl _ _)
  refine ⟨again.flatten, last, shows.transcript, revisited, fun quiet => ?_, fun steady =>
    ⟨draws, redraws, renamed steady⟩⟩
  have steady : ∀ record ∈ records, renderer.Steady after record :=
    fun record member card has draws => absurd ⟨card, has, draws⟩ (quiet record member)
  have same := renamed steady
  rw [undrawn quiet] at same
  exact same.eq_of_nil.symm

omit fixed ids

/-- A renderer with one template, which writes down what it fetches. -/
def recording (template : Text) : Renderer (List Text) where
  fetch path asked := (.text template, asked ++ [path])
  ids := .counting 1700000000000 0
  templates := "T".toList
  viewer := []

def unvisited : Session (List Text) := .fresh [] [] []

theorem fixed_recording (template path : Text) (asked : List Text) :
    ((recording template).fetch path asked).1 = (fun _ => .text template) path := rfl

theorem drawsDigits_recording (template : Text) : DrawsDigits (recording template).ids :=
  drawsDigits_counting _ _

/-- A message with a card that draws an id. -/
def clickable (entries : Fields) : Record where
  sender := "alice".toList
  element := .card
  content := .obj ([("app".toList, .str "a".toList),
    ("overwrite".toList, .obj [("clickHandler".toList, .str "noop".toList)])] ++ entries)
  avatarHint := none

def listTemplate : Text :=
  ("<ul \x7b\x7b__clickAttrs\x7d\x7d>\x7b\x7b#each items\x7d\x7d<li>\x7b\x7bthis\x7d\x7d</li>" ++
    "\x7b\x7b/each\x7d\x7d</ul>").toList

def listed : Record := clickable [("items".toList, .arr [.str "x".toList, .str "y".toList])]

theorem transcript_again_list :
    ∃ markup after again last,
      (recording listTemplate).transcript ⟨[], false⟩ [listed] unvisited = (.ok markup, after) ∧
      (recording listTemplate).transcript ⟨[], false⟩ [listed] after = (.ok again, last) ∧
      ∃ draws, Redraws (drawnIn unvisited after) (drawnIn after last) draws ∧
        Renamed ((recording listTemplate).ids.names draws) markup again := by
  obtain ⟨again, last, shows, -, -, renamed⟩ :=
    transcript_again (fixed_recording listTemplate) (drawsDigits_recording listTemplate)
      ⟨[], false⟩ [listed] unvisited rfl
  refine ⟨_, _, again, last, rfl, shows, renamed ?_⟩
  intro record member card has draws template answered
  obtain rfl : template = listTemplate := by
    obtain rfl := List.mem_singleton.1 member
    cases has.2.2
    exact (Except.ok.inj answered).symm
  exact steadyTags_of_idless (by decide) _ _

/-! ## an id that is read as part of a tag -/

/-- A transcript of one card that is filled. -/
theorem transcript_card {content : Text} (has : record.HasCard card)
    (answered : ((chooseAvatar view record session).2.template renderer.fetch
      (renderer.templatePath card)).1 = .ok template)
    (filled : (Template.render renderer.ids template (.obj card.context) session.handlers).1 =
      .ok content) :
    renderer.transcript view [record] session =
      (.ok (frame view record session content),
        { ((chooseAvatar view record session).2.template renderer.fetch
            (renderer.templatePath card)).2 with
          handlers :=
            (Template.render renderer.ids template (.obj card.context) session.handlers).2 }) := by
  have new : ¬ [].contains record.content.contentKey = true := by simp
  have fills := fillCard_of_ok answered
  have same : (chooseAvatar view record session).2.handlers = session.handlers := rfl
  rw [same, filled] at fills
  have item := item_eq renderer view record session
  rw [Renderer.content, has.2.1] at item
  dsimp only at item
  rw [cardContent_of_ok has.2.2] at item
  dsimp only at item
  rw [fills] at item
  rw [transcript, Renderer.fragments, fragmentsFrom_shown has.1 new item]
  simp [prepend, fragmentsFrom, Except.map]

/-- Frames are of one length only around contents of one length. -/
theorem length_of_frame {content other : Text}
    (h : (frame view record session content).length = (frame view record session other).length) :
    content.length = other.length := by
  unfold frame Html.chatItem at h
  simp only [List.length_append] at h
  omega

@[simp] theorem length_suffixDigits (count n : ℕ) : (suffixDigits count n).length = count := by
  induction count generalizing n with
  | zero => rfl
  | succ count ih => rw [suffixDigits, List.length_append, ih, List.length_singleton]

/-- All ids are of one length. -/
@[simp] theorem length_id (milliseconds first n : ℕ) :
    ((IdSource.counting milliseconds first).id n).length =
      "handler_".toList.length + (ofNat milliseconds).length + "_".toList.length + 5 := by
  unfold IdSource.id IdSource.counting
  rw [List.length_append, List.length_append, List.length_append, length_suffixDigits]

/-- A loop that shows the id behind each element, and braces behind the loop. -/
def unsteadyTemplate : Text :=
  ("\x7b\x7b#each items\x7d\x7d\x7b\x7bthis\x7d\x7d\x7b\x7b__clickHandlerId\x7d\x7d" ++
    "\x7b\x7b/each\x7d\x7d\x7d\x7d").toList

/-- The only element is braces, and an entry goes by the name of the second id. -/
def unsteady : Record := clickable [("items".toList, .arr [.str openBraces]),
  ("handler_1700000000000_aaaab".toList, .str "x".toList)]

def unsteadyCard : Card where
  app := "a".toList
  view := []
  sections := []
  overwrite := some ⟨some "noop".toList, none, .obj [], []⟩
  config := .obj []
  extras := [("items".toList, .arr [.str openBraces]),
    ("handler_1700000000000_aaaab".toList, .str "x".toList)]

theorem hasCard_unsteady : unsteady.HasCard unsteadyCard := ⟨by decide, rfl, rfl⟩

/-- The first id names no entry. -/
theorem render_unsteady : (Template.render (recording unsteadyTemplate).ids unsteadyTemplate
    (.obj unsteadyCard.context) .empty).1 = .ok [] := by
  rfl

/-- The second id names an entry of the card. -/
theorem render_unsteady_again : (Template.render (recording unsteadyTemplate).ids unsteadyTemplate
    (.obj unsteadyCard.context) (Template.render (recording unsteadyTemplate).ids unsteadyTemplate
      (.obj unsteadyCard.context) .empty).2).1 = .ok ['x'] := by
  rfl

/-- A loop that shows braces before an id makes a tag of it. The tag leads nowhere in the first
render, and to an entry in the second. -/
theorem transcript_not_repeatable :
    ∃ markup after again last,
      (recording unsteadyTemplate).transcript ⟨[], false⟩ [unsteady] unvisited =
        (.ok markup, after) ∧
      (recording unsteadyTemplate).transcript ⟨[], false⟩ [unsteady] after = (.ok again, last) ∧
      ∀ draws, ¬ Renamed ((recording unsteadyTemplate).ids.names draws) markup again := by
  refine ⟨_, _, _, _, transcript_card hasCard_unsteady rfl render_unsteady,
    transcript_card hasCard_unsteady rfl render_unsteady_again, fun draws renamed => ?_⟩
  -- ids are of one length, but the second markup is longer than the first
  have even : ∀ name ∈ (recording unsteadyTemplate).ids.names draws,
      name.1.length = name.2.length := by
    intro name member
    obtain ⟨draw, -, rfl⟩ := List.mem_map.1 member
    exact (length_id _ _ _).trans (length_id _ _ _).symm
  have framed (next : Session (List Text))
      (kept : next.roster = (chooseAvatar ⟨[], false⟩ unsteady unvisited).2.roster) :
      frame ⟨[], false⟩ unsteady next = frame ⟨[], false⟩ unsteady unvisited := by
    refine frame_again ?_
    rw [kept]
    exact .refl _
  have same := (renamed.length_eq even).trans (congrArg List.length (congrFun (framed _ rfl) _))
  exact absurd (length_of_frame same) (by decide)

end Renderer

end ChatTranscript

import ChatTranscript.Proofs.Template.Requests
import ChatTranscript.Session.Transcript

/-!
# How sessions grow

Renders only add to a session: senders keep their avatars, and kept templates stay. So what was
asked for once gets the same answer ever after, and asking again adds nothing. A template that could
not be fetched is asked for anew, and cannot be fetched again, as long as the fetcher has the same
resources.

## Main definitions

* `Avatar.Roster.Extends`, `Template.Store.Extends`, `Session.Extends`: what has grown from what.
* `Session.Revisited`: what is left of a session after everything in it was asked for again.

## Main statements

* `Avatar.choose_again`, `Template.Store.get_again`: the second answer is the first.
-/

namespace ChatTranscript

namespace Avatar

/-! ## avatars -/

namespace Roster

/-- Those who had an avatar have it still. -/
def Extends (roster next : Roster) : Prop :=
  ∀ name url, roster.get? name = some url → next.get? name = some url

variable {roster next last : Roster}

theorem Extends.refl (roster : Roster) : roster.Extends roster := fun _ _ has => has

theorem Extends.trans (h : roster.Extends next) (g : next.Extends last) : roster.Extends last :=
  fun name url has => g name url (h name url has)

theorem assign_extends (roster : Roster) (name : Text) : roster.Extends (roster.assign name).2 := by
  intro other url has
  unfold assign
  split
  · exact has
  · rw [get?] at has ⊢
    rw [Pairs.lookup_append, has, Option.some_or]

theorem get?_assign (roster : Roster) (name : Text) :
    (roster.assign name).2.get? name = some (roster.assign name).1 := by
  unfold assign
  split
  · assumption
  · rename_i missing
    rw [get?] at missing ⊢
    rw [Pairs.lookup_append, missing]
    simp

/-- A sender who has an avatar takes no turn. -/
theorem assign_again (name : Text) (h : (roster.assign name).2.Extends next) :
    next.assign name = ((roster.assign name).1, next) := by
  rw [assign, h _ _ (get?_assign roster name)]

end Roster

variable {myAvatar : Text} {sender : Sender} {roster next : Roster}

theorem choose_extends (myAvatar : Text) (sender : Sender) (roster : Roster) :
    roster.Extends (choose myAvatar sender roster).2 := by
  unfold choose
  split
  · exact .refl roster
  · split
    · exact .refl roster
    · exact roster.assign_extends sender.name

theorem choose_again (h : (choose myAvatar sender roster).2.Extends next) :
    choose myAvatar sender next = ((choose myAvatar sender roster).1, next) := by
  unfold choose at h ⊢
  split
  · rfl
  · split
    · rfl
    · rename_i other _ none
      rw [if_neg other, none] at h
      exact Roster.assign_again sender.name h

end Avatar

/-! ## templates -/

namespace Template

namespace Store

variable {σ : Type} {fetch : Fetcher σ} {resources : Text → FetchOutcome} {store next last : Store}
  {path : Text} {source : σ}

/-- Kept templates stay, and others come from the resources. -/
structure Extends (resources : Text → FetchOutcome) (store next : Store) : Prop where
  fallback : next.fallback = store.fallback
  kept : ∀ path template, store.get? path = some template → next.get? path = some template
  fetched : ∀ path template, store.get? path = none → next.get? path = some template →
    resources path = .text template

theorem Extends.refl (resources : Text → FetchOutcome) (store : Store) :
    store.Extends resources store :=
  ⟨rfl, fun _ _ kept => kept, fun _ _ absent kept => by simp [absent] at kept⟩

theorem Extends.trans (h : store.Extends resources next) (g : next.Extends resources last) :
    store.Extends resources last := by
  refine ⟨g.fallback.trans h.fallback, fun path template kept => g.kept _ _ (h.kept _ _ kept),
    fun path template absent kept => ?_⟩
  cases middle : next.get? path with
  | none => exact g.fetched path template middle kept
  | some first =>
    cases (g.kept path first middle).symm.trans kept
    exact h.fetched path template absent middle

/-- What a path is answered with. -/
def answer (resources : Text → FetchOutcome) (store : Store) (path : Text) : Except Fault Text :=
  match store.get? path with
  | some template => .ok template
  | none => (store.settle path (resources path)).1

/-- A store that has grown answers as before. -/
theorem Extends.answer_eq (h : store.Extends resources next) (path : Text) :
    next.answer resources path = store.answer resources path := by
  unfold answer
  cases before : store.get? path with
  | some template => rw [h.kept path template before]
  | none =>
    cases after : next.get? path with
    | some template =>
      rw [h.fetched path template before after]
      rfl
    | none =>
      cases resources path with
      | failed failure => exact congrArg Except.ok h.fallback
      | text | raised => rfl

/-- A fetch that brings what the resources hold lets a store grow. -/
theorem settle_extends (resources : Text → FetchOutcome) (path : Text) (store : Store) :
    store.Extends resources (store.settle path (resources path)).2 := by
  cases outcome : resources path with
  | failed | raised => exact .refl resources store
  | text template =>
    refine ⟨rfl, fun other kept has => ?_, fun other kept lacks has => ?_⟩
    · simp [settle, has]
    · simp only [settle, get?_keep, lacks, Option.none_or] at has
      split at has
      · rename_i same
        rw [← same, outcome, Option.some.inj has]
      · cases has

variable (fixed : ∀ path source, (fetch path source).1 = resources path)

include fixed

theorem get_answer (path : Text) (store : Store) (source : σ) :
    (store.get fetch path source).1 = store.answer resources path := by
  unfold get answer
  cases store.get? path with
  | some template => rfl
  | none =>
    dsimp only
    rw [fixed]

theorem get_extends (path : Text) (store : Store) (source : σ) :
    store.Extends resources (store.get fetch path source).2.1 := by
  unfold get
  cases absent : store.get? path with
  | some template => exact .refl resources store
  | none =>
    dsimp only
    rw [fixed]
    exact settle_extends resources path store

theorem get?_get {template : Text} (store : Store) (source : σ)
    (arrives : resources path = .text template) :
    ∃ first, (store.get fetch path source).2.1.get? path = some first := by
  unfold get
  cases before : store.get? path with
  | some first => exact ⟨first, before⟩
  | none =>
    dsimp only
    rw [fixed, arrives]
    exact ⟨template, by simp [settle, before]⟩

/-- Only a path that could not be fetched is asked for again, and changes nothing again. -/
theorem get_again (h : (store.get fetch path source).2.1.Extends resources next) (other : σ) :
    (next.get fetch path other).2 = (next, other) ∨
      next.get? path = none ∧ (next.get fetch path other).2 = (next, (fetch path other).2) := by
  cases kept : next.get? path with
  | some template =>
    left
    rw [get, kept]
  | none =>
    right
    rw [get, kept]
    dsimp only
    rw [fixed]
    refine ⟨rfl, ?_⟩
    cases outcome : resources path with
    | failed | raised => rfl
    | text template =>
      obtain ⟨first, keeps⟩ := get?_get fixed store source outcome
      have stays := h.kept path first keeps
      rw [kept] at stays
      cases stays

end Store

end Template

/-! ## sessions -/

/-- The state of a fetcher after some fetches. -/
def Fetcher.visit {σ : Type} (fetch : Fetcher σ) (paths : List Text) (source : σ) : σ :=
  paths.foldl (fun source path => (fetch path source).2) source

namespace Session

variable {σ : Type} {fetch : Fetcher σ} {resources : Text → FetchOutcome}
  {session next last : Session σ}

structure Extends (resources : Text → FetchOutcome) (session next : Session σ) : Prop where
  roster : session.roster.Extends next.roster
  store : session.store.Extends resources next.store

theorem Extends.refl (resources : Text → FetchOutcome) (session : Session σ) :
    session.Extends resources session := ⟨.refl _, .refl resources _⟩

theorem Extends.trans (h : session.Extends resources next) (g : next.Extends resources last) :
    session.Extends resources last := ⟨h.roster.trans g.roster, h.store.trans g.store⟩

/-- Avatars, templates and styles are as before, and paths that were fetched are not kept. Ids may
have been drawn. -/
structure Revisited (fetch : Fetcher σ) (session next : Session σ) : Prop where
  roster : next.roster = session.roster
  store : next.store = session.store
  source : ∃ paths, next.source = fetch.visit paths session.source ∧
    ∀ path ∈ paths, session.store.get? path = none
  drawn : session.handlers.drawn ≤ next.handlers.drawn

namespace Revisited

theorem refl (fetch : Fetcher σ) (session : Session σ) : session.Revisited fetch session :=
  ⟨rfl, rfl, ⟨[], rfl, nofun⟩, Nat.le_refl _⟩

theorem trans (h : session.Revisited fetch next) (g : next.Revisited fetch last) :
    session.Revisited fetch last := by
  obtain ⟨paths, fetched, absent⟩ := h.source
  obtain ⟨others, visited, missing⟩ := g.source
  refine ⟨g.roster.trans h.roster, g.store.trans h.store, ⟨paths ++ others, ?_, ?_⟩,
    Nat.le_trans h.drawn g.drawn⟩
  · rw [visited, fetched, Fetcher.visit, Fetcher.visit, Fetcher.visit, List.foldl_append]
  · intro path member
    obtain first | second := List.mem_append.1 member
    · exact absent path first
    · rw [← h.store]
      exact missing path second

theorem extends_of_extends (h : next.Revisited fetch last)
    (g : session.Extends resources next) : session.Extends resources last :=
  ⟨by rw [h.roster]; exact g.roster, by rw [h.store]; exact g.store⟩

end Revisited

variable (fixed : ∀ path source, (fetch path source).1 = resources path)

include fixed

theorem template_answer (path : Text) (session : Session σ) :
    (session.template fetch path).1 = session.store.answer resources path :=
  Template.Store.get_answer fixed path session.store session.source

theorem template_extends (path : Text) (session : Session σ) :
    session.Extends resources (session.template fetch path).2 :=
  ⟨.refl _, Template.Store.get_extends fixed path session.store session.source⟩

theorem template_again {path : Text}
    (h : (session.template fetch path).2.Extends resources next) :
    (next.template fetch path).1 = (session.template fetch path).1 ∧
      next.Revisited fetch (next.template fetch path).2 := by
  have grown := (template_extends fixed path session).trans h
  refine ⟨?_, ?_⟩
  · rw [template_answer fixed, template_answer fixed, grown.store.answer_eq]
  · obtain same | ⟨absent, same⟩ := Template.Store.get_again fixed h.store next.source
    · refine ⟨rfl, congrArg Prod.fst same, ⟨[], congrArg Prod.snd same, nofun⟩, Nat.le_refl _⟩
    · refine ⟨rfl, congrArg Prod.fst same, ⟨[path], congrArg Prod.snd same, ?_⟩, Nat.le_refl _⟩
      simpa using absent

end Session

end ChatTranscript

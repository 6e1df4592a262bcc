import ChatTranscript.Proofs.Template.Gains
import ChatTranscript.Proofs.Template.SharedFetch

/-!
# The style history of a template store

Requests run on a store, and in between style tags are added to its scope, alone or with all those
of a text. Whatever the order, the scope holds the first occurrences of everything that was brought:
by a template when it arrives, which happens once for a path, by a text, and by itself.

## Main definitions

* `Template.Gathering.Use`: what is done with a store.
* `Template.Gathering.brings`: the style tags that a use brings to the scope.

## Main statements

* `Template.Gathering.styles_of_uses`: the style scope after any uses of a store.
-/

namespace ChatTranscript

namespace Template

namespace Gathering

/-! ## uses -/

/-- What is done with a store: a request goes on or its fetch ends, the style tags of a text are
added, or a single tag. -/
inductive Use where
  | request (event : Event)
  | register (text : Text)
  | add (tag : Text)

def setStyles (g : Gathering) (styles : Style.Scope) : Gathering :=
  { g with store := { g.store with styles } }

def use (g : Gathering) : Use → Gathering
  | .request event => g.step event
  | .register text => g.setStyles (g.store.styles.register text).2
  | .add tag => g.setStyles (g.store.styles.add tag).2

/-- The gathering after some uses. -/
def used (g : Gathering) (uses : List Use) : Gathering := uses.foldl use g

/-- The template that arrives in a use, with its path. -/
def arrives (g : Gathering) : Use → List (Text × Text)
  | .request event => (g.arrival? event).toList
  | .register _ | .add _ => []

/-- The style tags that a use brings to the scope. -/
def brings (g : Gathering) : Use → List Text
  | .request event => stylesOf (g.arrival? event).toList
  | .register text => Style.tags text
  | .add tag => [tag]

/-- What each use comes to, in order. -/
def collect {α : Type} (what : Gathering → Use → List α) : Gathering → List Use → List α
  | _, [] => []
  | g, use :: uses => what g use ++ collect what (g.use use) uses

variable {g : Gathering} {event : Event}

/-! ## one use -/

/-- Requests do not look at the style scope. -/
theorem Sound.setStyles (h : Sound g) (styles : Style.Scope) : Sound (g.setStyles styles) :=
  ⟨h.nodup, h.inLine, h.alone, h.absent⟩

/-- Only a template that arrives changes the store. -/
theorem step_idle (g : Gathering) (none : g.arrival? event = none) :
    (g.step event).store = g.store := by
  obtain same | ⟨i, path, outcome, rfl, at_i, settled⟩ := step_store g event
  · exact same
  · rw [settled]
    cases outcome with
    | failed | raised => rfl
    | text template => simp [arrival?, at_i] at none

theorem Sound.step_gains (h : Sound g) (event : Event) :
    g.store.Gains (g.arrival? event).toList (stylesOf (g.arrival? event).toList)
      (g.step event).store := by
  cases arrived : g.arrival? event with
  | none =>
    rw [step_idle g arrived]
    exact .nothing g.store
  | some entry =>
    obtain ⟨i, rfl, at_i⟩ := arrival?_some arrived
    have settled : (g.step (.answer i (.text entry.2))).store =
        (g.store.settle entry.1 (.text entry.2)).2 := by
      rw [Gathering.step, answer_end at_i, call_store]
    rw [settled]
    exact Store.settle_gains (h.absent at_i) (.text entry.2)

theorem Sound.use (h : Sound g) (use : Use) :
    Sound (g.use use) ∧ g.store.Gains (g.arrives use) (g.brings use) (g.use use).store := by
  cases use with
  | request event => exact ⟨(h.step event).sound, h.step_gains event⟩
  | register text => exact ⟨h.setStyles _, .ofStyles (g.store.styles.tags_addAll _)⟩
  | add tag => exact ⟨h.setStyles _, .ofStyles (g.store.styles.tags_add_eq tag)⟩

/-! ## runs -/

@[simp] theorem used_append (g : Gathering) (uses later : List Use) :
    g.used (uses ++ later) = (g.used uses).used later := List.foldl_append

/-- A store gains in a run what it gains in each use, one after the other. -/
theorem Sound.used (h : Sound g) (uses : List Use) :
    Sound (g.used uses) ∧
      g.store.Gains (g.collect arrives uses) (g.collect brings uses) (g.used uses).store := by
  induction uses generalizing g with
  | nil => exact ⟨h, .nothing g.store⟩
  | cons use uses ih =>
    obtain ⟨sound, first⟩ := h.use use
    obtain ⟨after, rest⟩ := ih sound
    exact ⟨after, first.trans rest⟩

/-- A scope only grows at its end. -/
theorem Sound.used_prefix (h : Sound g) (uses : List Use) :
    g.store.styles.tags <+: (g.used uses).store.styles.tags := by
  rw [(h.used uses).2.styles, List.eraseDups_append, Style.eraseDups_of_nodup g.store.styles.nodup]
  exact List.prefix_append _ _

/-- A single get is a request that runs alone. -/
theorem get_eq_used {σ : Type} (fetch : Fetcher σ) (path : Text) (store : Store) (source : σ) :
    (store.get fetch path source).2.1 = ((ofPaths store [path]).used
      [.request (.resume 0), .request (.answer 0 (fetch path source).1)]).store := by
  change _ = (((ofPaths store [path]).resume 0).answer 0 (fetch path source).1).store
  have ready : (ofPaths store [path]).At 0 path .ready := rfl
  unfold Store.get
  cases kept : store.get? path with
  | some template =>
    rw [resume_hit ready kept]
    rfl
  | none =>
    have idle : ¬ (ofPaths store [path]).isBusy path = true := by
      simp [isBusy, ofPaths, Phase.isFetching, Phase.inLine]
    rw [resume_start ready kept idle, answer_end (setPhase_self ready), call_store]
    rfl

/-! ## all runs -/

/-- After any uses, the style scope holds the first occurrences, in order, of what it held at first
and of what the uses brought: the style tags of each template that arrived, those of each text, and
each single tag. A template arrives once for a path, and only by a fetch that ends with it; what
else a request does leaves the store as it is. The scope holds no tag twice and only grows at its
end. Registering a text answers with the number of tags that the scope grows by, and adding a tag
with whether it grows. All this goes for single gets too, which are requests that run alone. -/
theorem styles_of_uses (store : Store) (paths : List Text) (uses : List Use) :
    let start := ofPaths store paths
    let after := start.used uses
    let scope := after.store.styles
    scope.tags.Nodup ∧
    scope.tags = (store.styles.tags ++ start.collect brings uses).eraseDups ∧
    (∀ later, scope.tags <+: (start.used (uses ++ later)).store.styles.tags) ∧
    after.store.kept = store.kept ++ start.collect arrives uses ∧
    ((start.collect arrives uses).map Prod.fst).Nodup ∧
    (∀ template ∈ start.collect arrives uses, store.get? template.1 = none) ∧
    (∀ event, (∀ i template, event ≠ .answer i (.text template)) →
      (after.use (.request event)).store = after.store) ∧
    (∀ text, ∃ new, (scope.register text).2.tags = scope.tags ++ new ∧
      (scope.register text).1 = new.length) ∧
    (∀ tag, (scope.add tag).2.tags = scope.tags ++ if (scope.add tag).1 then [tag] else []) ∧
    ∀ (σ : Type) (fetch : Fetcher σ) (path : Text) (source : σ),
      (after.store.get fetch path source).2.1 = ((ofPaths after.store [path]).used
        [.request (.resume 0), .request (.answer 0 (fetch path source).1)]).store := by
  intro start after scope
  obtain ⟨sound, gains⟩ := (sound_ofPaths store paths).used uses
  refine ⟨scope.nodup, gains.styles, fun later => ?_, gains.kept, gains.once, gains.new,
    fun event other => step_idle after ?_, fun text => scope.addAll_grows _,
    fun tag => Style.Scope.tags_add, fun σ fetch path source => get_eq_used fetch path _ source⟩
  · rw [used_append]
    exact sound.used_prefix later
  · cases arrived : after.arrival? event with
    | none => rfl
    | some template =>
      obtain ⟨i, rfl, -⟩ := arrival?_some arrived
      exact absurd rfl (other i _)

/-- A tag that is shared by a template and a text is held once, where it came first. -/
example : ((ofPaths (.empty []) ["p".toList]).used
    [.request (.resume 0), .register "<style>a</style>".toList,
      .request (.answer 0 (.text "<style>b</style><style>a</style>".toList))]).store.styles.tags =
    ["<style>a</style>".toList, "<style>b</style>".toList] := by decide

end Gathering

end Template

end ChatTranscript

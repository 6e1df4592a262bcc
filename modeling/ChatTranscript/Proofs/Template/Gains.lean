import ChatTranscript.Proofs.Style.Order
import ChatTranscript.Proofs.Template.Requests

/-!
# What a template store gains

A store gains templates, each under a path that it did not hold before, and style tags. A template
that arrives brings its style tags along; a fetch that brings no text leaves the store as it is.

## Main definitions

* `Template.stylesOf`: the style tags of templates, in order.
* `Template.Store.Gains`: a store that has gained templates and style tags.
* `Template.Store.Gathers`: the same, with style tags from these templates only.
* `FetchOutcome.arrived`: the templates that the outcome of a fetch brings.
-/

namespace ChatTranscript

/-- The template that the outcome of a fetch brings, with its path. -/
def FetchOutcome.arrived (path : Text) : FetchOutcome → List (Text × Text)
  | .text template => [(path, template)]
  | .failed _ | .raised _ => []

namespace Template

/-- The style tags of templates, in order. -/
def stylesOf (templates : List (Text × Text)) : List Text :=
  templates.flatMap fun template => Style.tags template.2

@[simp] theorem stylesOf_append (first second : List (Text × Text)) :
    stylesOf (first ++ second) = stylesOf first ++ stylesOf second :=
  List.flatMap_append

namespace Store

variable {σ : Type} {store next last : Store} {path template : Text}
  {arrived later : List (Text × Text)} {tags more : List Text}

@[grind =] theorem get?_eq_none_iff : store.get? path = none ↔ path ∉ store.kept.map Prod.fst :=
  Pairs.lookup_eq_none_iff

/-- The store has gained templates under new paths, in the order of arrival, and of the tags those
that it did not have, in the order in which they came first. -/
structure Gains (store : Store) (arrived : List (Text × Text)) (tags : List Text)
    (next : Store) : Prop where
  fallback : next.fallback = store.fallback
  kept : next.kept = store.kept ++ arrived
  once : (arrived.map Prod.fst).Nodup
  new : ∀ template ∈ arrived, store.get? template.1 = none
  styles : next.styles.tags = (store.styles.tags ++ tags).eraseDups

namespace Gains

theorem nothing (store : Store) : store.Gains [] [] store := by
  refine ⟨rfl, (List.append_nil _).symm, List.nodup_nil, by simp, ?_⟩
  rw [List.append_nil, Style.eraseDups_of_nodup store.styles.nodup]

theorem trans (h : store.Gains arrived tags next) (g : next.Gains later more last) :
    store.Gains (arrived ++ later) (tags ++ more) last := by
  -- what is new to the next store was not in the first one and has not arrived in between
  have apart (template) (member : template ∈ later) :
      template.1 ∉ store.kept.map Prod.fst ∧ template.1 ∉ arrived.map Prod.fst := by
    have := get?_eq_none_iff.1 (g.new template member)
    rwa [h.kept, List.map_append, List.mem_append, not_or] at this
  refine ⟨g.fallback.trans h.fallback, ?_, ?_, ?_, ?_⟩
  · rw [g.kept, h.kept, List.append_assoc]
  · rw [List.map_append, List.nodup_append]
    refine ⟨h.once, g.once, ?_⟩
    rintro path before _ after rfl
    obtain ⟨template, member, rfl⟩ := List.mem_map.1 after
    exact (apart template member).2 before
  · intro template member
    obtain before | after := List.mem_append.1 member
    · exact h.new template before
    · exact get?_eq_none_iff.2 (apart template after).1
  · rw [g.styles, h.styles, Style.eraseDups_append_eraseDups, List.append_assoc]

/-- A store that changes in its styles only. -/
theorem ofStyles {styles : Style.Scope}
    (grown : styles.tags = (store.styles.tags ++ tags).eraseDups) :
    store.Gains [] tags { store with styles } :=
  ⟨rfl, (List.append_nil _).symm, List.nodup_nil, by simp, grown⟩

end Gains

/-- The end of a fetch of a path that is not kept. -/
theorem settle_gains (absent : store.get? path = none) (outcome : FetchOutcome) :
    store.Gains (outcome.arrived path) (stylesOf (outcome.arrived path))
      (store.settle path outcome).2 := by
  cases outcome with
  | failed | raised => exact .nothing store
  | text template =>
    refine ⟨rfl, rfl, by simp [FetchOutcome.arrived],
      by simpa [FetchOutcome.arrived] using absent, ?_⟩
    rw [FetchOutcome.arrived, stylesOf, List.flatMap_singleton]
    exact store.styles.tags_addAll (Style.tags template)

/-! ## single gets -/

/-- The store has gained templates, and style tags from these templates only. -/
def Gathers (store next : Store) : Prop :=
  ∃ arrived, store.Gains arrived (stylesOf arrived) next

theorem Gathers.refl (store : Store) : store.Gathers store := ⟨[], .nothing store⟩

theorem Gathers.trans (h : store.Gathers next) (g : next.Gathers last) : store.Gathers last := by
  obtain ⟨arrived, first⟩ := h
  obtain ⟨later, second⟩ := g
  exact ⟨arrived ++ later, stylesOf_append arrived later ▸ first.trans second⟩

theorem get_gathers (fetch : Fetcher σ) (path : Text) (store : Store) (source : σ) :
    store.Gathers (store.get fetch path source).2.1 := by
  unfold get
  cases absent : store.get? path with
  | some template => exact .refl store
  | none => exact ⟨_, settle_gains absent (fetch path source).1⟩

end Store

end Template

end ChatTranscript

import ChatTranscript.Style.Scope
import Mathlib.Data.List.Induction

/-!
# The order of style tags

A style scope holds the first occurrences of the tags that were added to it, in order, so it grows
at its end only.

## Main statements

* `Style.Scope.tags_addAll`: what a scope holds after tags were added.
* `Style.Scope.addAll_grows`: the count of the new tags is what the scope has grown by.
-/

namespace ChatTranscript

namespace Style

variable {tag : Text} {tags more : List Text}

/-! ## first occurrences -/

/-- A tag at the end stays only if it did not occur before. -/
theorem eraseDups_append_singleton (tags : List Text) (tag : Text) :
    (tags ++ [tag]).eraseDups = tags.eraseDups ++ if tag ∈ tags then [] else [tag] := by
  by_cases h : tag ∈ tags <;> simp [List.eraseDups_append, List.removeAll, List.eraseDups_cons, h]

theorem eraseDups_of_nodup (h : tags.Nodup) : tags.eraseDups = tags := by
  induction tags using List.reverseRecOn with
  | nil => rfl
  | append_singleton tags tag ih =>
    obtain ⟨nodup, -, apart⟩ := List.nodup_append.1 h
    have new : tag ∉ tags := fun member => apart tag member tag (by simp) rfl
    rw [eraseDups_append_singleton, ih nodup, if_neg new]

/-- First occurrences may be taken on the way. -/
theorem eraseDups_append_eraseDups (tags more : List Text) :
    (tags.eraseDups ++ more).eraseDups = (tags ++ more).eraseDups := by
  have again (tags : List Text) : tags.eraseDups.eraseDups = tags.eraseDups := by
    induction tags using List.reverseRecOn with
    | nil => rfl
    | append_singleton tags tag ih =>
      rw [eraseDups_append_singleton]
      by_cases h : tag ∈ tags
      · simpa [h] using ih
      · rw [if_neg h, eraseDups_append_singleton, ih, if_neg (by simpa using h)]
  rw [List.eraseDups_append, List.eraseDups_append, again]
  simp [List.removeAll]

namespace Scope

variable {scope : Scope}

/-! ## adding tags -/

theorem tags_add_eq (scope : Scope) (tag : Text) :
    (scope.add tag).2.tags = (scope.tags ++ [tag]).eraseDups := by
  rw [eraseDups_append_singleton, eraseDups_of_nodup scope.nodup]
  by_cases h : tag ∈ scope.tags <;> simp [add, h]

theorem tags_addAll (scope : Scope) (tags : List Text) :
    (scope.addAll tags).2.tags = (scope.tags ++ tags).eraseDups := by
  induction tags generalizing scope with
  | nil => rw [addAll, List.append_nil, eraseDups_of_nodup scope.nodup]
  | cons tag tags ih =>
    rw [addAll_cons, ih, tags_add_eq, eraseDups_append_eraseDups, List.append_assoc,
      List.singleton_append]

theorem addAll_grows (scope : Scope) (tags : List Text) :
    ∃ new, (scope.addAll tags).2.tags = scope.tags ++ new ∧ (scope.addAll tags).1 = new.length := by
  induction tags generalizing scope with
  | nil => exact ⟨[], (List.append_nil _).symm, rfl⟩
  | cons tag tags ih =>
    obtain ⟨new, grown, count⟩ := ih (scope.add tag).2
    refine ⟨(if (scope.add tag).1 then [tag] else []) ++ new, ?_, ?_⟩
    · rw [addAll_cons, grown, tags_add, List.append_assoc]
    · rw [addAll_cons, count]
      cases (scope.add tag).1 <;> simp [Nat.add_comm]

end Scope

end Style

end ChatTranscript

import ChatTranscript.Json.Basic
import ChatTranscript.Proofs.Pairs

/-!
# Entries of objects

Looking up keys in objects that are put together from others.
-/

namespace ChatTranscript

namespace Fields

variable {key name : Text} {value : Json} {fields other : Fields}

theorem mem_of_get? (h : get? key fields = some value) : (key, value) ∈ fields :=
  Pairs.mem_of_lookup h

theorem get?_eq_none (h : ∀ entry ∈ fields, entry.1 ≠ key) : get? key fields = none :=
  Pairs.lookup_eq_none_iff.2 fun known => by
    obtain ⟨entry, member, same⟩ := List.mem_map.1 known
    exact h entry member same

theorem get?_of_mem (h : (key, value) ∈ fields) : ∃ first, get? key fields = some first := by
  cases found : get? key fields with
  | some first => exact ⟨first, rfl⟩
  | none =>
    exact absurd (List.mem_map_of_mem h) (Pairs.lookup_eq_none_iff.1 found)

/-- What stands in front shadows what comes after it. -/
@[simp, grind =] theorem get?_append :
    get? key (fields ++ other) = (get? key fields).or (get? key other) :=
  Pairs.lookup_append

@[simp, grind =] theorem get?_cons_self : get? key ((key, value) :: fields) = some value := by
  simp [get?]

@[simp] theorem get?_cons_of_ne (h : name ≠ key) :
    get? key ((name, value) :: fields) = get? key fields := by
  simp [get?, h]

/-- With distinct keys, no other entry takes the place of one that is left out. -/
theorem get?_filter {p : Text × Json → Bool} (distinct : (fields.map (·.1)).Nodup) :
    get? key (fields.filter p) = (get? key fields).filter fun value => p (key, value) := by
  induction fields with
  | nil => rfl
  | cons entry fields ih =>
    obtain ⟨name, value⟩ := entry
    obtain ⟨fresh, distinct⟩ := List.nodup_cons.1 distinct
    by_cases same : name = key
    · subst same
      have later : get? name (fields.filter p) = none := get?_eq_none fun other member =>
        fun same => fresh (List.mem_map.2 ⟨other, (List.mem_filter.1 member).1, same⟩)
      rw [get?_cons_self, List.filter_cons, Option.filter_some]
      split
      · exact get?_cons_self
      · exact later
    · rw [get?_cons_of_ne same, ← ih distinct, List.filter_cons]
      split
      · exact get?_cons_of_ne same
      · rfl

end Fields

namespace Json

/-- The entries of an object; any other value has none. -/
def entries : Json → Fields
  | .obj fields => fields
  | _ => []

theorem get?_entries {key : Text} (value : Json) :
    value.get? key = Fields.get? key value.entries := by
  cases value <;> rfl

end Json

end ChatTranscript

import ChatTranscript.Proofs.Json.Values
import Mathlib.Data.List.Nodup

/-!
# Objects with distinct keys

The reader keeps the last of several entries with one key, so no object in a value that it returns
has a key twice.

## Main definitions

* `Json.distinctKeys`: no object has a key twice.

## Main statements

* `Json.distinctKeys_read`: every value that a text is read as has distinct keys.
-/

namespace ChatTranscript

namespace Json

mutual

/-- No object has a key twice. -/
def distinctKeys : Json → Bool
  | .arr items => distinctKeysItems items
  | .obj fields => decide (fields.map (·.1)).Nodup && distinctKeysFields fields
  | _ => true

def distinctKeysItems : List Json → Bool
  | [] => true
  | item :: items => distinctKeys item && distinctKeysItems items

def distinctKeysFields : Fields → Bool
  | [] => true
  | (_, value) :: fields => distinctKeys value && distinctKeysFields fields

end

theorem distinctKeysItems_iff {items : List Json} :
    distinctKeysItems items = true ↔ ∀ item ∈ items, distinctKeys item = true := by
  induction items with
  | nil => exact ⟨fun _ => nofun, fun _ => rfl⟩
  | cons item items ih => rw [distinctKeysItems, Bool.and_eq_true, ih, List.forall_mem_cons]

theorem distinctKeysFields_iff {fields : Fields} :
    distinctKeysFields fields = true ↔ ∀ entry ∈ fields, distinctKeys entry.2 = true := by
  induction fields with
  | nil => exact ⟨fun _ => nofun, fun _ => rfl⟩
  | cons entry fields ih =>
    obtain ⟨key, value⟩ := entry
    rw [distinctKeysFields, Bool.and_eq_true, ih, List.forall_mem_cons]

end Json

namespace Fields

variable {fields pairs : Fields} {key : Text} {value : Json}

/-- Entries with distinct keys, whose values have distinct keys themselves. -/
structure Distinct (fields : Fields) : Prop where
  keys : (fields.map (·.1)).Nodup
  values : ∀ entry ∈ fields, entry.2.distinctKeys = true

theorem nodup_keys_set (h : (fields.map (·.1)).Nodup) :
    ((set key value fields).map (·.1)).Nodup := by
  induction fields with
  | nil => exact List.nodup_singleton key
  | cons first fields ih =>
    obtain ⟨name, old⟩ := first
    obtain ⟨fresh, later⟩ := List.nodup_cons.1 h
    rw [set]
    split
    · exact h
    · rename_i other
      refine List.nodup_cons.2 ⟨fun member => ?_, ih later⟩
      obtain ⟨entry, inSet, same⟩ := List.mem_map.1 member
      obtain rfl | old := mem_set inSet
      · exact other (beq_iff_eq.2 same.symm)
      · exact fresh (List.mem_map.2 ⟨entry, old, same⟩)

theorem nodup_keys_update (h : (fields.map (·.1)).Nodup) :
    ((update fields pairs).map (·.1)).Nodup := by
  induction pairs generalizing fields with
  | nil => exact h
  | cons pair pairs ih => exact ih (nodup_keys_set h)

theorem distinct_ofPairs (h : ∀ entry ∈ pairs, entry.2.distinctKeys = true) :
    Distinct (ofPairs pairs) where
  keys := nodup_keys_update List.nodup_nil
  values entry member := h entry (mem_ofPairs member)

end Fields

namespace Json

theorem distinctKeys_obj_iff {fields : Fields} :
    (obj fields).distinctKeys = true ↔ fields.Distinct := by
  rw [distinctKeys, Bool.and_eq_true, decide_eq_true_eq, distinctKeysFields_iff]
  exact ⟨fun ⟨keys, values⟩ => ⟨keys, values⟩, fun h => ⟨h.keys, h.values⟩⟩

theorem distinctKeys_number {token : NumberToken} {value : Json} (h : token.value = .ok value) :
    distinctKeys value = true := by
  unfold NumberToken.value at h
  split at h
  · split at h
    · cases h
    · cases h
      rfl
  · cases h
    rfl

theorem inherited_distinctKeys : Inherited fun value => distinctKeys value = true where
  word := by decide
  number _ := distinctKeys_number
  str _ := rfl
  arr h := by rw [distinctKeys, distinctKeysItems_iff]; exact h
  obj h := distinctKeys_obj_iff.2 (Fields.distinct_ofPairs h)

/-- Every value that a text is read as has distinct keys. -/
theorem distinctKeys_read {text : Text} {value : Json} (h : read text = .ok value) :
    distinctKeys value = true := inherited_distinctKeys.read h

end Json

end ChatTranscript

import ChatTranscript.Transcript.Content
import ChatTranscript.Proofs.Json.Readability
import ChatTranscript.Proofs.Json.DistinctKeys
import ChatTranscript.Proofs.Json.Fields
import Mathlib.Data.Char
import Mathlib.Data.List.Perm.Subperm

/-!
# Contents up to the order of keys

Two values have one content key if and only if they are the same value up to the order of keys, at
every depth. Sorting by keys makes one value of two that differ in that order only, and the text of
the sorted value can be read in one way.

## Main definitions

* `Json.same`: the same value, in objects in any order of keys.

## Main statements

* `Json.sortKeys_eq_iff`: sorting by keys identifies the values that are the same.
* `Json.contentKey_eq_iff`: content keys are equal for the same values only.
-/

namespace ChatTranscript

namespace Text

/-- Code point order is the lexical order of the characters. -/
theorem le_iff_not_lex : ∀ a b : Text, le a b = true ↔ ¬List.Lex (· < ·) b a
  | [], b => by simp [le]
  | a :: as, [] => by simp [le]
  | a :: as, b :: bs => by
    rw [le, List.cons_lex_cons_iff, not_or, not_and, ← le_iff_not_lex as bs, Char.lt_def]
    split
    · rename_i less
      have apart : b ≠ a := by
        rintro rfl
        exact UInt32.lt_irrefl _ less
      simp [UInt32.lt_asymm less, apart]
    · rename_i notLess
      split
      · rename_i greater
        simp [greater]
      · rename_i notGreater
        have same : b = a :=
          Char.ext (UInt32.le_antisymm (UInt32.not_lt.1 notLess) (UInt32.not_lt.1 notGreater))
        simp [same]

theorem le_iff (a b : Text) : le a b = true ↔ @LE.le (List Char) _ a b :=
  (le_iff_not_lex a b).trans (@not_lt (List Char) _ b a)

end Text

namespace Fields

variable {fields other : Fields} {key : Text} {value : Json}

/-- With distinct keys, looking a key up finds its entry. -/
theorem get?_eq_some_iff (distinct : (fields.map (·.1)).Nodup) :
    get? key fields = some value ↔ (key, value) ∈ fields := by
  refine ⟨mem_of_get?, fun member => ?_⟩
  obtain ⟨first, found⟩ := get?_of_mem member
  have same := List.inj_on_of_nodup_map distinct (mem_of_get? found) member rfl
  rw [found, (Prod.mk.inj same).2]

/-- The order of entries by their keys. -/
def byKey (a b : Text × Json) : Bool := Text.le a.1 b.1

theorem pairwise_mergeSort (fields : Fields) :
    (fields.mergeSort byKey).Pairwise fun a b => byKey a b = true :=
  List.pairwise_mergeSort
    (fun a b c h g => by
      rw [byKey, Text.le_iff] at *
      exact h.trans g)
    (fun a b => by
      rw [byKey, byKey, Bool.or_eq_true, Text.le_iff, Text.le_iff]
      exact le_total _ _)
    fields

/-- Two objects with distinct keys sort to one list if they have the same entries. -/
theorem mergeSort_eq_iff (distinct : (fields.map (·.1)).Nodup) :
    fields.mergeSort byKey = other.mergeSort byKey ↔
      fields.length = other.length ∧ ∀ entry ∈ fields, entry ∈ other := by
  have perm := fields.mergeSort_perm byKey
  have perm' := other.mergeSort_perm byKey
  constructor
  · intro same
    have all : fields.Perm other := perm.symm.trans (same ▸ perm')
    exact ⟨all.length_eq, fun entry member => all.subset member⟩
  · rintro ⟨length, subset⟩
    have all : fields.Perm other :=
      (List.subperm_of_subset distinct.of_map subset).perm_of_length_le length.ge
    refine List.Perm.eq_of_pairwise (fun a b member member' h g => ?_) (pairwise_mergeSort fields)
      (pairwise_mergeSort other) (perm.trans (all.trans perm'.symm))
    rw [byKey, Text.le_iff] at h g
    exact List.inj_on_of_nodup_map distinct (perm.subset member)
      (all.symm.subset (perm'.subset member')) (h.antisymm g)

end Fields

namespace Json

mutual

/-- The same value, in objects in any order of keys. -/
def same : Json → Json → Bool
  | .null, .null => true
  | .bool a, .bool b => a == b
  | .int m, .int n => m == n
  | .float x, .float y => decide (x = y)
  | .str text, .str other => text == other
  | .arr items, .arr others => sameItems items others
  | .obj fields, .obj others => fields.length == others.length && sameFields fields others
  | _, _ => false

def sameItems : List Json → List Json → Bool
  | [], [] => true
  | item :: items, other :: others => same item other && sameItems items others
  | _, _ => false

/-- Each entry has the same value under its key in the other object. -/
def sameFields : Fields → Fields → Bool
  | [], _ => true
  | (key, value) :: fields, others =>
    (Fields.get? key others).any (fun other => same value other) && sameFields fields others

end

/-! ## sorting by keys -/

theorem sortKeysFields_eq_map (fields : Fields) :
    sortKeysFields fields = fields.map fun entry => (entry.1, sortKeys entry.2) := by
  induction fields with
  | nil => rfl
  | cons entry fields ih =>
    obtain ⟨key, value⟩ := entry
    rw [sortKeysFields, ih]
    rfl

@[simp] theorem keys_sortKeysFields (fields : Fields) :
    (sortKeysFields fields).map (·.1) = fields.map (·.1) := by
  rw [sortKeysFields_eq_map, List.map_map]
  rfl

@[simp] theorem length_sortKeysFields (fields : Fields) :
    (sortKeysFields fields).length = fields.length := by
  rw [sortKeysFields_eq_map, List.length_map]

@[simp, grind =] theorem mem_sortKeysFields {key : Text} {image : Json} {fields : Fields} :
    (key, image) ∈ sortKeysFields fields ↔
      ∃ value, (key, value) ∈ fields ∧ sortKeys value = image := by
  rw [sortKeysFields_eq_map]
  simp

mutual

/-- Sorting by keys identifies the values that are the same. -/
theorem sortKeys_eq_iff (a b : Json) (ha : distinctKeys a = true) (hb : distinctKeys b = true) :
    sortKeys a = sortKeys b ↔ same a b = true := by
  match a with
  | .arr items =>
    cases b with
    | arr others =>
      rw [sortKeys, sortKeys, arr.injEq, same]
      exact sortKeysItems_eq_iff items others ha hb
    | _ => simp [sortKeys, same]
  | .obj fields =>
    cases b with
    | obj others =>
      rw [distinctKeys, Bool.and_eq_true, decide_eq_true_eq] at ha hb
      rw [sortKeys, sortKeys, obj.injEq, same, Bool.and_eq_true, beq_iff_eq,
        ← subset_sortKeysFields_iff fields others ha.2 hb.2 hb.1,
        ← length_sortKeysFields fields, ← length_sortKeysFields others]
      exact Fields.mergeSort_eq_iff (by rw [keys_sortKeysFields]; exact ha.1)
    | _ => simp [sortKeys, same]
  | .null | .bool _ | .int _ | .float _ | .str _ => cases b <;> simp [sortKeys, same]

theorem sortKeysItems_eq_iff (as bs : List Json) (ha : distinctKeysItems as = true)
    (hb : distinctKeysItems bs = true) :
    sortKeysItems as = sortKeysItems bs ↔ sameItems as bs = true := by
  match as, bs with
  | [], [] => exact ⟨fun _ => rfl, fun _ => rfl⟩
  | [], b :: bs => exact ⟨nofun, nofun⟩
  | a :: as, [] => exact ⟨nofun, nofun⟩
  | a :: as, b :: bs =>
    rw [distinctKeysItems, Bool.and_eq_true] at ha hb
    rw [sortKeysItems, sortKeysItems, List.cons.injEq, sameItems, Bool.and_eq_true,
      sortKeys_eq_iff a b ha.1 hb.1, sortKeysItems_eq_iff as bs ha.2 hb.2]

theorem subset_sortKeysFields_iff (fields others : Fields)
    (ha : distinctKeysFields fields = true) (hb : distinctKeysFields others = true)
    (distinct : (others.map (·.1)).Nodup) :
    (∀ entry ∈ sortKeysFields fields, entry ∈ sortKeysFields others) ↔
      sameFields fields others = true := by
  match fields with
  | [] => exact ⟨fun _ => rfl, fun _ => nofun⟩
  | (key, value) :: fields =>
    rw [distinctKeysFields, Bool.and_eq_true] at ha
    rw [sortKeysFields, List.forall_mem_cons, mem_sortKeysFields, sameFields, Bool.and_eq_true,
      subset_sortKeysFields_iff fields others ha.2 hb distinct, Option.any_eq_true]
    refine and_congr_left fun _ => exists_congr fun other => ?_
    rw [Fields.get?_eq_some_iff distinct]
    refine and_congr_right fun member => ?_
    rw [← sortKeys_eq_iff value other ha.1 (distinctKeysFields_iff.1 hb _ member)]
    exact eq_comm

end

/-! ## content keys -/

theorem hasComma_spaced : spaced.HasComma := ⟨[' '], rfl⟩

/-- Content keys are equal for the same values only: null has a key of its own, a string is its own
key, and the key of any other value is the one way to write it with sorted keys. -/
theorem contentKey_eq_iff {a b : Json} (ha : a.distinctKeys = true) (hb : b.distinctKeys = true) :
    a.contentKey = b.contentKey ↔ a.same b = true := by
  have structured (a b : Json) : ContentKey.structured (a.sortKeys.write spaced) =
      .structured (b.sortKeys.write spaced) ↔ a.sortKeys = b.sortKeys := by
    rw [ContentKey.structured.injEq, (write_injective hasComma_spaced).eq_iff]
  cases a with
  | null => cases b <;> simp [contentKey, same]
  | str text => cases b <;> simp [contentKey, same]
  | _ =>
    cases b with
    | null => simp [contentKey, same]
    | str text => simp [contentKey, same]
    | _ => exact (structured _ _).trans (sortKeys_eq_iff _ _ ha hb)

theorem contentKey_reordered :
    (obj [("a".toList, int 1),
        ("b".toList, arr [obj [("c".toList, null), ("d".toList, .float .nan)]])]).contentKey =
      (obj [("b".toList, arr [obj [("d".toList, .float .nan), ("c".toList, null)]]),
        ("a".toList, int 1)]).contentKey :=
  (contentKey_eq_iff (by decide) (by decide)).2 (by decide)

/-- Truth, one and the floating-point one differ, as do the two zeros, and an array is no string
that is written like it. -/
example :
    same (bool true) (int 1) = false ∧ same (int 1) (.float (.ofInt 1)) = false ∧
      same (.float (.finite true .zero)) (.float .zero) = false ∧
      same (.float .nan) (.float .nan) = true ∧
      same (arr [int 1]) (str "[1]".toList) = false := by
  decide

end Json

end ChatTranscript

import Mathlib.Data.List.Basic

/-!
# Lookups in lists of pairs

Stores, rosters, disks and objects keep their entries as pairs in order. The first pair with a key
counts.
-/

namespace ChatTranscript

namespace Pairs

variable {κ ν : Type} [BEq κ] {pairs more : List (κ × ν)} {key : κ} {value : ν}

theorem lookup_append : ((pairs ++ more).find? (·.1 == key)).map (·.2) =
    ((pairs.find? (·.1 == key)).map (·.2)).or ((more.find? (·.1 == key)).map (·.2)) := by
  rw [List.find?_append, Option.map_or]

variable [LawfulBEq κ]

theorem lookup_eq_none_iff :
    (pairs.find? (·.1 == key)).map (·.2) = none ↔ key ∉ pairs.map Prod.fst := by
  simp only [Option.map_eq_none_iff, List.find?_eq_none, beq_iff_eq, List.mem_map, not_exists,
    not_and]

theorem mem_of_lookup (found : (pairs.find? (·.1 == key)).map (·.2) = some value) :
    (key, value) ∈ pairs := by
  obtain ⟨⟨name, _⟩, first, rfl⟩ := Option.map_eq_some_iff.1 found
  have same := List.find?_some first
  obtain rfl : name = key := beq_iff_eq.1 same
  exact List.mem_of_find?_eq_some first

end Pairs

end ChatTranscript

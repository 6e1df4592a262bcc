import ChatTranscript.Json.Reader
import ChatTranscript.Proofs.Results

/-!
# Values that are read

A value that is read is a word, a number or a string, or it is made of such values. So what holds of
these, and goes up from the items of an array and from the pairs of an object, holds of every value
that is read.

## Main definitions

* `Json.Inherited`: a property that goes up through arrays and objects.

## Main statements

* `Json.Inherited.read`: an inherited property holds of every value that a text is read as.
-/

namespace ChatTranscript

namespace Fields

variable {fields pairs : Fields} {key : Text} {value : Json} {entry : Text × Json}

@[grind →] theorem mem_set (h : entry ∈ set key value fields) :
    entry = (key, value) ∨ entry ∈ fields := by
  induction fields with
  | nil => exact .inl (List.mem_singleton.1 h)
  | cons first fields ih =>
    obtain ⟨name, old⟩ := first
    rw [set] at h
    split at h
    · rename_i same
      obtain rfl := beq_iff_eq.1 same
      obtain rfl | member := List.mem_cons.1 h
      · exact .inl rfl
      · exact .inr (List.mem_cons_of_mem _ member)
    · obtain rfl | member := List.mem_cons.1 h
      · exact .inr List.mem_cons_self
      · exact (ih member).imp_right (List.mem_cons_of_mem _)

@[grind →] theorem mem_update (h : entry ∈ update fields pairs) :
    entry ∈ fields ∨ entry ∈ pairs := by
  induction pairs generalizing fields with
  | nil => exact .inl h
  | cons pair pairs ih =>
    obtain inside | later := ih h
    · obtain rfl | old := mem_set inside
      · exact .inr List.mem_cons_self
      · exact .inl old
    · exact .inr (List.mem_cons_of_mem _ later)

@[grind →] theorem mem_ofPairs (h : entry ∈ ofPairs pairs) : entry ∈ pairs :=
  (mem_update h).resolve_left List.not_mem_nil

end Fields

namespace Json

/-! ## words and numbers -/

variable {text rest : Text} {value : Json}

theorem readAtom_cases (h : readAtom text = .ok (value, rest)) :
    (∃ word, (word, value) ∈ words) ∨
      ∃ token, readNumber? text = some (token, rest) ∧ token.value = .ok value := by
  unfold readAtom at h
  split at h
  · rename_i found eq
    cases h
    obtain ⟨⟨word, value⟩, known, eq⟩ := List.exists_of_findSome?_eq_some eq
    obtain ⟨after, _, ⟨⟩⟩ := Option.map_eq_some_iff.1 eq
    exact .inl ⟨word, known⟩
  · split at h
    · rename_i token after read
      obtain ⟨value, number, ⟨⟩⟩ := Results.map_eq_ok.1 h
      exact .inr ⟨token, read, number⟩
    · cases h

/-! ## values -/

/-- A property of words, numbers and strings that goes up from the items of an array and from the
values among the pairs of an object. -/
structure Inherited (P : Json → Prop) : Prop where
  word : ∀ entry ∈ words, P entry.2
  number : ∀ {text rest token value}, readNumber? text = some (token, rest) →
    token.value = .ok value → P value
  str : ∀ text, P (.str text)
  arr : ∀ {items}, (∀ item ∈ items, P item) → P (.arr items)
  obj : ∀ {pairs : Fields}, (∀ pair ∈ pairs, P pair.2) → P (.obj (Fields.ofPairs pairs))

namespace Inherited

variable {P : Json → Prop}

theorem atom (h : Inherited P) (read : readAtom text = .ok (value, rest)) : P value := by
  obtain ⟨word, known⟩ | ⟨token, read, number⟩ := readAtom_cases read
  · exact h.word _ known
  · exact h.number read number

/-- The induction is on the bound of the calls, which the three readers share. -/
theorem readValue (h : Inherited P) (fuel : Nat) :
    (∀ {text rest value}, Json.readValue fuel text = .ok (value, rest) → P value) ∧
    (∀ {text rest items}, readItems fuel text = .ok (items, rest) → ∀ item ∈ items, P item) ∧
    (∀ {text rest pairs}, readPairs fuel text = .ok (pairs, rest) → ∀ pair ∈ pairs, P pair.2) := by
  induction fuel with
  | zero => exact ⟨nofun, nofun, nofun⟩
  | succ fuel ih =>
    obtain ⟨ofValue, ofItems, ofPairs⟩ := ih
    refine ⟨fun {text rest value} read => ?_, fun {text rest items} read => ?_,
      fun {text rest pairs} read => ?_⟩
    · unfold Json.readValue at read
      split at read
      · obtain ⟨_, _, ⟨⟩⟩ := Results.map_eq_ok.1 read
        exact h.str _
      · split at read
        · cases read
          exact h.arr nofun
        · obtain ⟨⟨items, after⟩, read, ⟨⟩⟩ := Results.map_eq_ok.1 read
          exact h.arr (ofItems read)
      · split at read
        · cases read
          have empty : ∀ pair ∈ ([] : Fields), P pair.2 := nofun
          exact h.obj empty
        · obtain ⟨⟨pairs, after⟩, read, ⟨⟩⟩ := Results.map_eq_ok.1 read
          exact h.obj (ofPairs read)
      · exact h.atom read
    · rw [readItems] at read
      obtain ⟨⟨item, after⟩, first, read⟩ := Results.bind_eq_ok.1 read
      dsimp only at read
      split at read
      · cases read
        exact List.forall_mem_singleton.2 (ofValue first)
      · obtain ⟨⟨items, after⟩, later, ⟨⟩⟩ := Results.bind_eq_ok.1 read
        exact List.forall_mem_cons.2 ⟨ofValue first, ofItems later⟩
      · cases read
    · rw [readPairs] at read
      obtain ⟨⟨key, after⟩, _, read⟩ := Results.bind_eq_ok.1 read
      obtain ⟨after, _, read⟩ := Results.bind_eq_ok.1 read
      obtain ⟨⟨value, after⟩, first, read⟩ := Results.bind_eq_ok.1 read
      dsimp only at read
      split at read
      · cases read
        exact List.forall_mem_singleton.2 (ofValue first)
      · obtain ⟨⟨pairs, after⟩, later, ⟨⟩⟩ := Results.bind_eq_ok.1 read
        exact List.forall_mem_cons.2 ⟨ofValue first, ofPairs later⟩
      · cases read

theorem readAll (h : Inherited P) (read : Json.readAll text = .ok value) : P value := by
  unfold Json.readAll at read
  split at read
  · cases read
  · obtain ⟨⟨found, rest⟩, first, read⟩ := Results.bind_eq_ok.1 read
    dsimp only at read
    split at read
    · cases read
      exact (h.readValue _).1 first
    · cases read

/-- An inherited property holds of every value that a text is read as. -/
theorem read (h : Inherited P) (read : Json.read text = .ok value) : P value := by
  unfold Json.read at read
  split at read
  · cases read
    exact h.readAll ‹_›
  · cases read
  · cases read

end Inherited

end Json

end ChatTranscript

import ChatTranscript.Text.Basic
import Mathlib.Data.List.Basic

/-!
# Texts up to a renaming

Two texts that are the same but for some names. In such texts, reading for characters that no name
holds stops at the same places.

## Main definitions

* `Text.Renamed`: texts in which names stand for each other.
* `Text.Free`: names without certain characters.
-/

namespace ChatTranscript

namespace Text

/-- The second text is the first with some stretches of it, which are names, under new names. -/
inductive Renamed (names : List (Text × Text)) : Text → Text → Prop where
  | nil : Renamed names [] []
  | keep {text other : Text} (c : Char) (rest : Renamed names text other) :
      Renamed names (c :: text) (c :: other)
  | swap {name : Text × Text} {text other : Text} (member : name ∈ names)
      (rest : Renamed names text other) : Renamed names (name.1 ++ text) (name.2 ++ other)

namespace Renamed

variable {names more : List (Text × Text)} {text other rest later : Text}

theorem refl (names : List (Text × Text)) (text : Text) : Renamed names text text := by
  induction text with
  | nil => exact .nil
  | cons c text ih => exact ih.keep c

theorem name {pair : Text × Text} (member : pair ∈ names) : Renamed names pair.1 pair.2 := by
  simpa using swap member nil

theorem append (h : Renamed names text other) (g : Renamed names rest later) :
    Renamed names (text ++ rest) (other ++ later) := by
  induction h with
  | nil => exact g
  | keep c _ ih => exact ih.keep c
  | swap member _ ih =>
    rw [List.append_assoc, List.append_assoc]
    exact ih.swap member

theorem mono (wider : names ⊆ more) (h : Renamed names text other) : Renamed more text other := by
  induction h with
  | nil => exact .nil
  | keep c _ ih => exact ih.keep c
  | swap member _ ih => exact ih.swap (wider member)

theorem eq_of_nil (h : Renamed [] text other) : text = other := by
  induction h with
  | nil => rfl
  | keep c _ ih => rw [ih]
  | swap member => cases member

/-- Names of one length are renamed within texts of one length. -/
theorem length_eq (even : ∀ name ∈ names, name.1.length = name.2.length)
    (h : Renamed names text other) : text.length = other.length := by
  induction h with
  | nil => rfl
  | keep c _ ih => rw [List.length_cons, List.length_cons, ih]
  | swap member _ ih => rw [List.length_append, List.length_append, even _ member, ih]

end Renamed

/-- Names that are not empty and have none of the characters. -/
structure Free (marks : List Char) (name : Text) : Prop where
  notEmpty : name ≠ []
  unmarked : ∀ c ∈ name, c ∉ marks

/-! ## reading renamed texts -/

namespace Renamed

variable {names : List (Text × Text)} {marks : List Char} {text other : Text}

/-- Both names of each pair lack the characters. -/
def Unmarked (marks : List Char) (names : List (Text × Text)) : Prop :=
  ∀ name ∈ names, Free marks name.1 ∧ Free marks name.2

theorem nil_iff (free : Unmarked marks names) (h : Renamed names text other) :
    text = [] ↔ other = [] := by
  cases h with
  | nil => rfl
  | keep c => simp
  | swap member =>
    obtain ⟨left, right⟩ := free _ member
    simp [left.notEmpty, right.notEmpty]

/-- A prefix of marks stands before both texts, or before none. -/
theorem isPrefixOf? (free : Unmarked marks names) (h : Renamed names text other)
    {front : Text} (marked : ∀ c ∈ front, c ∈ marks) :
    front.isPrefixOf? text = none ∧ front.isPrefixOf? other = none ∨
      ∃ rest later, front.isPrefixOf? text = some rest ∧ front.isPrefixOf? other = some later ∧
        Renamed names rest later := by
  induction front generalizing text other with
  | nil => exact .inr ⟨text, other, rfl, rfl, h⟩
  | cons mark front ih =>
    obtain ⟨isMark, marked⟩ := List.forall_mem_cons.1 marked
    have blocks {name : Text} (free : Free marks name) (rest : Text) :
        (mark :: front).isPrefixOf? (name ++ rest) = none := by
      obtain ⟨c, tail, rfl⟩ := List.exists_cons_of_ne_nil free.notEmpty
      have differs : mark ≠ c :=
        ne_of_mem_of_not_mem isMark (free.unmarked c List.mem_cons_self)
      simp [List.isPrefixOf?, differs]
    cases h with
    | nil => exact .inl ⟨rfl, rfl⟩
    | keep c rest =>
      by_cases same : mark = c
      · subst same
        simpa [List.isPrefixOf?] using ih rest marked
      · exact .inl (by simp [List.isPrefixOf?, same])
    | swap member rest =>
      obtain ⟨left, right⟩ := free _ member
      exact .inl ⟨blocks left _, blocks right _⟩

/-- Both texts reach their first mark at the same place. -/
theorem spanWhile (free : Unmarked marks names) (h : Renamed names text other)
    {mark : Char} (isMark : mark ∈ marks) :
    Renamed names (Text.spanWhile (· != mark) text).1 (Text.spanWhile (· != mark) other).1 ∧
      Renamed names (Text.spanWhile (· != mark) text).2 (Text.spanWhile (· != mark) other).2 := by
  have passes {name : Text} (free : Free marks name) : ∀ c ∈ name, (c != mark) = true :=
    fun c member => bne_iff_ne.2 (ne_of_mem_of_not_mem isMark (free.unmarked c member)).symm
  unfold Text.spanWhile
  induction h with
  | nil => exact ⟨.nil, .nil⟩
  | keep c rest ih =>
    by_cases stops : c = mark
    · simpa [stops] using And.intro nil (rest.keep mark)
    · simpa [stops] using And.intro (ih.1.keep c) ih.2
  | swap member rest ih =>
    obtain ⟨left, right⟩ := free _ member
    rw [List.takeWhile_append_of_pos (passes left), List.takeWhile_append_of_pos (passes right),
      List.dropWhile_append_of_pos (passes left), List.dropWhile_append_of_pos (passes right)]
    exact ⟨ih.1.swap member, ih.2⟩

end Renamed

end Text

end ChatTranscript

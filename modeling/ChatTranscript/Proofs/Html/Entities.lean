import ChatTranscript.Html.Escape
import ChatTranscript.Proofs.Text.Pieces

/-!
# Undoing escapes

The five characters that are escaped are found again behind their entities, whichever spelling of
the quotes was used. Undoing the escapes of a text that holds no entity leaves it as it is.

## Main definitions

* `Html.unescapeWith`: undoes the escapes of one spelling.
* `Html.QuoteEntities.Sound`: entities that are told apart.

## Main statements

* `Html.unescapeWith_escapeWith`: every text is found again behind its escapes.
* `Html.unescapeWith_eq_self_iff`: a text is left as it is unless it looks escaped.
-/

namespace ChatTranscript

open Text

namespace Html

/-- The entities and what they stand for. -/
def QuoteEntities.table (quotes : QuoteEntities) : List (Text × Char) :=
  [("&amp;".toList, '&'), ("&lt;".toList, '<'), ("&gt;".toList, '>'), (quotes.double, '"'),
    (quotes.single, '\'')]

def QuoteEntities.entities (quotes : QuoteEntities) : List Text := quotes.table.map (·.1)

/-- Reads an entity from the front of a text. -/
def readEntity (quotes : QuoteEntities) (text : Text) : Option (Char × Text) :=
  quotes.table.findSome? fun (entity, c) =>
    (entity.isPrefixOf? text).map fun rest => (c, rest)

/-- A piece of an escaped text without escapes. -/
def original : Piece Char → Text
  | .plain text => text
  | .found _ c => [c]

def unescapeWith (quotes : QuoteEntities) (text : Text) : Text :=
  (scan (readEntity quotes) text).flatMap original

/-- Undoes the escapes of attributes. -/
def unescape (text : Text) : Text := unescapeWith inFragments text

/-- Entities that are told apart: each of them is longer than what it stands for, starts with the
mark of entities, and is read as what it stands for. -/
structure QuoteEntities.Sound (quotes : QuoteEntities) : Prop where
  long : ∀ entry ∈ quotes.table, 1 < entry.1.length
  marked : ∀ entry ∈ quotes.table, entry.1.head? = some '&'
  read : ∀ entry ∈ quotes.table, ∀ rest, readEntity quotes (entry.1 ++ rest) = some (entry.2, rest)

theorem inFragments_sound : inFragments.Sound where
  long := by decide
  marked := by decide
  read := by
    simp only [QuoteEntities.table, List.forall_mem_cons]
    exact ⟨fun _ => rfl, fun _ => rfl, fun _ => rfl, fun _ => rfl, fun _ => rfl, by simp⟩

theorem inPages_sound : inPages.Sound where
  long := by decide
  marked := by decide
  read := by
    simp only [QuoteEntities.table, List.forall_mem_cons]
    exact ⟨fun _ => rfl, fun _ => rfl, fun _ => rfl, fun _ => rfl, fun _ => rfl, by simp⟩

variable {quotes : QuoteEntities} {c : Char} {text rest : Text}

/-! ## entities at the front -/

theorem readEntity_eq_some (reads : readEntity quotes text = some (c, rest)) :
    ∃ entity, (entity, c) ∈ quotes.table ∧ text = entity ++ rest := by
  obtain ⟨⟨entity, d⟩, known, reads⟩ := List.exists_of_findSome?_eq_some reads
  obtain ⟨_, front, same⟩ := Option.map_eq_some_iff.1 reads
  cases same
  exact ⟨entity, known, (List.isPrefixOf?_eq_some_iff_append_eq.1 front).symm⟩

theorem readEntity_eq_none_iff :
    readEntity quotes text = none ↔ ∀ entity ∈ quotes.entities, ¬ entity <+: text := by
  simp [readEntity, QuoteEntities.entities, ← Option.not_isSome_iff_eq_none,
    List.isSome_isPrefixOf?_eq_isPrefixOf]

/-- An entity is undone by a single character. -/
theorem readEntity_reads (sound : quotes.Sound) :
    Reads (fun stretch c => (stretch, c) ∈ quotes.table) (readEntity quotes) := by
  intro text c rest reads
  obtain ⟨entity, known, rfl⟩ := readEntity_eq_some reads
  refine ⟨entity, ?_, rfl, known⟩
  rintro rfl
  exact absurd (sound.long _ known) (by simp)

theorem readEntity_cons (sound : quotes.Sound) (plain : c ≠ '&') (rest : Text) :
    readEntity quotes (c :: rest) = none := by
  rw [readEntity_eq_none_iff]
  rintro entity known front
  obtain ⟨entry, listed, rfl⟩ := List.mem_map.1 known
  have marked := sound.marked entry listed
  have long := sound.long entry listed
  obtain ⟨mark, inner, split⟩ := List.exists_cons_of_length_pos (Nat.zero_lt_of_lt long)
  rw [split] at front marked
  obtain rfl : mark = '&' := by simpa using marked
  exact plain (List.cons_prefix_cons.1 front).1.symm

/-- What a character is escaped as. -/
theorem escapeChar_cases (quotes : QuoteEntities) (c : Char) :
    (escapeChar quotes c, c) ∈ quotes.table ∨ escapeChar quotes c = [c] ∧ c ≠ '&' := by
  unfold escapeChar QuoteEntities.table
  grind

/-! ## whole texts -/

@[simp] theorem original_push (c : Char) (pieces : List (Piece Char)) :
    (Piece.push c pieces).flatMap original = c :: pieces.flatMap original := by
  match pieces with
  | [] => rfl
  | .plain _ :: _ => rfl
  | .found _ _ :: _ => rfl

/-- Every text is found again behind its escapes. -/
theorem unescapeWith_escapeWith (sound : quotes.Sound) (text : Text) :
    unescapeWith quotes (escapeWith quotes text) = text := by
  induction text with
  | nil => rfl
  | cons c text ih =>
    rw [escapeWith, List.flatMap_cons, ← escapeWith]
    obtain known | ⟨same, plain⟩ := escapeChar_cases quotes c
    · have notEmpty : escapeChar quotes c ≠ [] :=
        List.ne_nil_of_length_pos (Nat.zero_lt_of_lt (sound.long _ known))
      rw [unescapeWith, scan_found notEmpty (sound.read _ known _), List.flatMap_cons,
        ← unescapeWith, ih]
      rfl
    · rw [same, List.singleton_append, unescapeWith, scan_plain (readEntity_cons sound plain _),
        original_push, ← unescapeWith, ih]

theorem length_unescapeWith_le (sound : quotes.Sound) (text : Text) :
    (unescapeWith quotes text).length ≤ text.length := by
  refine scan_induction (readEntity_reads sound)
    (motive := fun text pieces => (pieces.flatMap original).length ≤ text.length) le_rfl ?_ ?_ text
  · intro c rest _ ih
    rw [original_push]
    exact Nat.succ_le_succ ih
  · intro stretch c rest notEmpty _ ih
    rw [List.flatMap_cons, List.length_append, List.length_append]
    exact Nat.add_le_add (List.length_pos_of_ne_nil notEmpty) ih

/-- A text is left as it is exactly if no entity stands in it. -/
theorem unescapeWith_eq_self_iff (sound : quotes.Sound) :
    unescapeWith quotes text = text ↔ ∀ entity ∈ quotes.entities, ¬ entity <:+: text := by
  refine scan_induction (readEntity_reads sound)
    (motive := fun text pieces =>
      pieces.flatMap original = text ↔ ∀ entity ∈ quotes.entities, ¬ entity <:+: text) ?_ ?_ ?_ text
  · refine iff_of_true rfl fun entity known inside => ?_
    obtain ⟨entry, listed, rfl⟩ := List.mem_map.1 known
    have long := sound.long entry listed
    rw [List.infix_nil.1 inside] at long
    cases long
  · intro c rest unread ih
    rw [original_push, List.cons.injEq, eq_self, true_and, ih]
    have front := readEntity_eq_none_iff.1 unread
    simp only [List.infix_cons_iff]
    grind
  · intro stretch c rest _ known _
    refine iff_of_false (fun same => ?_) fun none => ?_
    · -- what an entity gives is shorter than the entity
      have long := sound.long _ known
      have shorter := length_unescapeWith_le sound rest
      have lengths := congrArg List.length same
      rw [List.flatMap_cons, ← unescapeWith, List.length_append, List.length_append] at lengths
      have one : (original (.found stretch c)).length = 1 := rfl
      dsimp only at long
      omega
    · exact none stretch (List.mem_map_of_mem known) (List.prefix_append stretch rest).isInfix

end Html

end ChatTranscript

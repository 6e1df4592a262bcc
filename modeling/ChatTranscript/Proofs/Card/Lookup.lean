import ChatTranscript.Proofs.Card.Accepted
import ChatTranscript.Proofs.Template.Dependence
import ChatTranscript.Proofs.Template.Walk

/-!
# What templates find in a card

A card is put together from its content: the known entries come first, with a default where the
content has none, and entries that are null are left out. Templates see none of this. A path into
the content is shown the same when it is followed from the card, as long as it does not start from
an entry that is rewritten or made up.

## Main definitions

* `Card.rewrittenKeys`, `Card.defaultedKeys`: the known keys, by what a card makes of their entries.

## Main statements

* `Card.get?_context_of_accepted`: an entry of the content is found in the context, or is null.
* `Template.display_lookup_context`: a path is shown alike in the card and in its content.
-/

namespace ChatTranscript

variable {key path : Text} {fields : Fields} {card : Card}

/-! ## entries of a card -/

namespace Card

/-- Under these keys a card has its own reading of the entry. -/
def rewrittenKeys : List Text := ["app", "view", "overwrite"].map String.toList

/-- Under these keys a card has an entry also if its content has none. -/
def defaultedKeys : List Text := ["meta", "config"].map String.toList

theorem mem_knownKeys : key ∈ knownKeys ↔ key ∈ rewrittenKeys ∨ key ∈ defaultedKeys := by
  simp only [knownKeys, rewrittenKeys, defaultedKeys, List.map_cons, List.map_nil, List.mem_cons,
    List.not_mem_nil, or_false]
  grind

/-- The entries of an accepted card beyond the known ones are those of its content, without what is
null. -/
theorem get?_extras (accepted : ofFields fields = .ok card) (distinct : (fields.map (·.1)).Nodup)
    (unknown : key ∉ knownKeys) :
    Fields.get? key (Fields.present card.extras) =
      (Fields.get? key fields).filter (·.kind != .null) := by
  obtain ⟨sections, overwrite, -, -, rfl⟩ := ofFields_eq_ok accepted
  have kept : (!knownKeys.contains key) = true := by simpa using unknown
  rw [Fields.present, List.filter_filter, Fields.get?_filter distinct]
  simp only [kept, Bool.and_true]

/-- A known entry is not found among the others. -/
theorem get?_extras_of_known (accepted : ofFields fields = .ok card) (known : key ∈ knownKeys) :
    Fields.get? key (Fields.present card.extras) = none := by
  obtain ⟨sections, overwrite, -, -, rfl⟩ := ofFields_eq_ok accepted
  refine Fields.get?_present_eq_none fun entry member same => ?_
  have unknown := (List.mem_filter.1 member).2
  simp [same, known] at unknown

/-- What a card shows under a key with a default is what it has read there. -/
theorem get?_context_sections (accepted : ofFields fields = .ok card) :
    Fields.get? "meta".toList card.context = some (.obj card.sections) := by
  have others := get?_extras_of_known accepted (by decide : "meta".toList ∈ knownKeys)
  rw [context]
  simp only [List.cons_append, List.nil_append]
  rw [Fields.get?_present_cons_of_ne (by decide), Fields.get?_present_cons_of_ne (by decide),
    Fields.get?_present_cons_self]
  · rfl
  · rw [Fields.get?_present_cons_of_ne (by decide), Fields.get?_present_cons_of_ne (by decide),
      others]

theorem get?_context_config (accepted : ofFields fields = .ok card) :
    Fields.get? "config".toList card.context =
      if card.config.kind = .null then none else some card.config := by
  have others := get?_extras_of_known accepted (by decide : "config".toList ∈ knownKeys)
  rw [context]
  simp only [List.cons_append, List.nil_append]
  rw [Fields.get?_present_cons_of_ne (by decide), Fields.get?_present_cons_of_ne (by decide),
    Fields.get?_present_cons_of_ne (by decide), Fields.get?_present_cons_of_ne (by decide),
    Fields.get?_present_cons_self others]

theorem get?_context_of_unknown (accepted : ofFields fields = .ok card)
    (distinct : (fields.map (·.1)).Nodup) (unknown : key ∉ knownKeys) :
    Fields.get? key card.context = (Fields.get? key fields).filter (·.kind != .null) := by
  have front : ∀ name ∈ knownKeys, name ≠ key := fun name known same => unknown (same ▸ known)
  simp only [knownKeys, List.map_cons, List.map_nil, List.forall_mem_cons] at front
  rw [← get?_extras accepted distinct unknown, context]
  simp only [List.cons_append, List.nil_append]
  rw [Fields.get?_present_cons_of_ne front.1, Fields.get?_present_cons_of_ne front.2.1,
    Fields.get?_present_cons_of_ne front.2.2.1, Fields.get?_present_cons_of_ne front.2.2.2.1,
    Fields.get?_present_cons_of_ne front.2.2.2.2.1]

/-- Templates find an entry of the content of a card, unless it is null. -/
theorem get?_context_of_accepted (accepted : ofFields fields = .ok card)
    (distinct : (fields.map (·.1)).Nodup) (kept : key ∉ rewrittenKeys)
    (given : key ∈ defaultedKeys → ∃ value, Fields.get? key fields = some value) :
    Fields.get? key card.context = (Fields.get? key fields).filter (·.kind != .null) := by
  by_cases known : key ∈ knownKeys
  · have default : key ∈ defaultedKeys := (mem_knownKeys.1 known).resolve_left kept
    obtain ⟨value, found⟩ := given default
    obtain rfl | rfl : key = "meta".toList ∨ key = "config".toList := by
      simpa [defaultedKeys] using default
    · rw [get?_context_sections accepted]
      obtain ⟨sections, overwrite, read, -, rfl⟩ := ofFields_eq_ok accepted
      rw [found] at read ⊢
      cases value with
      | obj own =>
        cases read
        rfl
      | null | bool | int | float | str | arr => cases read
    · rw [get?_context_config accepted]
      obtain ⟨sections, overwrite, -, -, rfl⟩ := ofFields_eq_ok accepted
      rw [found]
      cases value <;> rfl
  · exact get?_context_of_unknown accepted distinct known

end Card

namespace Template

variable {f g : Fields} {value : Json}

/-! ## paths -/

/-- Behind an entry that is null there is nothing to show, as if it were not there. -/
theorem display_follow_of_null {first : Step} (absent : Fields.get? first.name f = none)
    (null : Fields.get? first.name g = some .null) (rest : List Step) :
    (follow (.obj f) (first :: rest)).map display =
      (follow (.obj g) (first :: rest)).map display := by
  cases first with
  | key name =>
    rw [follow, follow, show Fields.get? name f = none from absent,
      show Fields.get? name g = some .null from null]
    cases rest with
    | nil => simp [follow, Except.map, display]
    | cons second rest => simp [follow]
  | item name digits =>
    rw [follow, follow, show Fields.get? name f = none from absent,
      show Fields.get? name g = some .null from null]

/-- A path is shown alike in two contexts if it starts from the same entry in both, or in one from
an entry that is null and in the other from none. -/
theorem display_lookup_congr
    (same : Fields.get? (rootOf path) f =
      (Fields.get? (rootOf path) g).filter (·.kind != .null)) :
    (lookup (.obj f) path).map display = (lookup (.obj g) path).map display := by
  by_cases null : Fields.get? (rootOf path) g = some .null
  · have absent : Fields.get? (rootOf path) f = none := by
      rw [same, null]
      rfl
    obtain nowhere | entry | ⟨first, rest, -, root, along⟩ := lookup_cases path
    · rw [nowhere, nowhere]
    · rw [entry, entry, absent, null]
      rfl
    · rw [root] at absent null
      rw [along, along]
      exact display_follow_of_null absent null rest
  · have agree : AgreeOn f g (rootOf path) := by
      rw [AgreeOn, same]
      cases found : Fields.get? (rootOf path) g with
      | none => rfl
      | some value =>
        cases value with
        | null => exact absurd found null
        | bool | int | float | str | arr | obj => rfl
    rw [lookup_congr agree]

theorem exists_lookup (short : ∀ step ∈ steps (Text.strip path), step.isShort = true) :
    ∃ found, lookup (.obj f) path = .ok found := by
  obtain nowhere | entry | ⟨first, rest, eq, -, along⟩ := lookup_cases path
  · exact ⟨none, nowhere f⟩
  · exact ⟨_, entry f⟩
  · rw [along]
    obtain ⟨last, -, found⟩ | ⟨-, found⟩ := follow_cases (.obj f) (eq ▸ short)
    · exact ⟨some last, found⟩
    · exact ⟨none, found⟩

/-! ## cards and their contents -/

/-- A path is shown alike in the context of an accepted card and in its content, if it starts from
no entry that is rewritten, and from one with a default only where the content has it. If its
indexes can be read, it is shown. -/
theorem display_lookup_context (accepted : Card.ofContent (.obj fields) = .ok card)
    (distinct : (fields.map (·.1)).Nodup) (kept : rootOf path ∉ Card.rewrittenKeys)
    (given : rootOf path ∈ Card.defaultedKeys →
      ∃ value, Fields.get? (rootOf path) fields = some value) :
    (lookup (.obj card.context) path).map display = (lookup (.obj fields) path).map display ∧
      ((∀ step ∈ steps (Text.strip path), step.isShort = true) →
        ∃ shown, (lookup (.obj card.context) path).map display = .ok shown ∧
          (lookup (.obj fields) path).map display = .ok shown) := by
  have read : Card.ofFields fields = .ok card := Card.ofFields_of_ofJson accepted
  have same := display_lookup_congr (Card.get?_context_of_accepted read distinct kept given)
  refine ⟨same, fun short => ?_⟩
  obtain ⟨found, leads⟩ := exists_lookup (f := fields) short
  have shown : (lookup (.obj fields) path).map display = .ok (display found) := by
    rw [leads]
    rfl
  exact ⟨display found, same.trans shown, shown⟩

/-- Null entries of the content at all depths, and numbers for texts. -/
def nestedFields : Fields := [("gone".toList, .null), ("app".toList, .int 5),
  ("meta".toList, .obj [("rows".toList, .arr [.null, .obj [("n".toList, .int 2),
    ("m".toList, .null)]])]), ("config".toList, .null)]

/-- What is null deeper down stays in the card, and is shown. -/
theorem display_lookup_context_nested :
    ∃ card, Card.ofContent (.obj nestedFields) = .ok card ∧
      (lookup (.obj card.context) "meta.rows[1]".toList).map display =
        .ok "\x7b\"n\":2,\"m\":null\x7d".toList := by
  have accepted : Card.ofContent (.obj nestedFields) = .ok _ := rfl
  have kept : rootOf "meta.rows[1]".toList ∉ Card.rewrittenKeys := by decide
  have root : rootOf "meta.rows[1]".toList = "meta".toList := by decide
  obtain ⟨same, -⟩ := display_lookup_context accepted (by decide) kept
    (fun _ => ⟨_, by rw [root]; rfl⟩)
  exact ⟨_, accepted, same.trans rfl⟩

end Template

end ChatTranscript

import ChatTranscript.Proofs.Json.Fields
import ChatTranscript.Proofs.Template.Source

/-!
# Walking along a path

The steps of a path lead from value to value. A walk comes to its end or strays, and it is found
out without a fault which of the two, as long as the indexes can be read.

## Main definitions

* `Template.Leads`: what a single step leads to.
* `Template.Reaches`, `Template.Strays`: a walk that comes to its end, and one that does not.
* `Template.rootOf`: the key of the context that a path starts from.

## Main statements

* `Template.follow_cases`: following a path finds what the walk reaches, and nothing if it strays.
* `Template.lookup_cases`: what looking up a path comes to.
* `Template.Reaches.plain`: a walk through a plain value stays among plain values.
-/

namespace ChatTranscript

namespace Template

/-! ## walks -/

/-- A key leads to the entry of an object that has it. An indexed key leads to an element of the
list that an object has there, if the list is longer than the index. -/
inductive Leads : Json → Step → Json → Prop
  | key {fields : Fields} {name : Text} {value : Json}
      (found : Fields.get? name fields = some value) : Leads (.obj fields) (.key name) value
  | item {fields : Fields} {name digits : Text} {items : List Json}
      (found : Fields.get? name fields = some (.arr items))
      (within : Text.natOfDigits digits < items.length) :
      Leads (.obj fields) (.item name digits) items[Text.natOfDigits digits]

/-- The value that is reached when all steps are walked. -/
inductive Reaches : Json → List Step → Json → Prop
  | here (value : Json) : Reaches value [] value
  | step {value next last : Json} {first : Step} {rest : List Step} (leads : Leads value first next)
      (onward : Reaches next rest last) : Reaches value (first :: rest) last

/-- Some step leads nowhere from where the steps before it have led. -/
inductive Strays : Json → List Step → Prop
  | here {value : Json} {first : Step} {rest : List Step}
      (nowhere : ∀ next, ¬ Leads value first next) : Strays value (first :: rest)
  | later {value next : Json} {first : Step} {rest : List Step} (leads : Leads value first next)
      (onward : Strays next rest) : Strays value (first :: rest)

variable {value next last : Json} {fields : Fields} {first : Step} {path : List Step}

theorem reaches_or_strays (value : Json) (path : List Step) :
    (∃ last, Reaches value path last) ∨ Strays value path := by
  induction path generalizing value with
  | nil => exact .inl ⟨value, .here value⟩
  | cons first path ih =>
    by_cases leads : ∃ next, Leads value first next
    · obtain ⟨next, leads⟩ := leads
      obtain ⟨last, onward⟩ | onward := ih next
      · exact .inl ⟨last, .step leads onward⟩
      · exact .inr (.later leads onward)
    · exact .inr (.here (not_exists.1 leads))

/-! ## following -/

theorem follow_of_leads (leads : Leads value first next) (short : first.isShort = true)
    (rest : List Step) : follow value (first :: rest) = follow next rest := by
  cases leads with
  | key found => rw [follow, found]
  | item found within =>
    rw [follow, if_neg (Nat.not_lt.2 (of_decide_eq_true short)), found]
    simp only [List.getElem?_eq_getElem within]

theorem follow_of_nowhere (nowhere : ∀ next, ¬ Leads value first next)
    (short : first.isShort = true) (rest : List Step) :
    follow value (first :: rest) = .ok none := by
  cases value with
  | null | bool | int | float | str | arr => simp [follow]
  | obj fields =>
    cases first with
    | key name =>
      rw [follow]
      cases found : Fields.get? name fields with
      | none => rfl
      | some value => exact absurd (.key found) (nowhere value)
    | item name digits =>
      rw [follow, if_neg (Nat.not_lt.2 (of_decide_eq_true short))]
      split
      · rename_i items found
        have outside : items.length ≤ Text.natOfDigits digits :=
          Nat.not_lt.1 fun within => nowhere _ (.item found within)
        simp only [List.getElem?_eq_none outside]
      · rfl

theorem follow_of_reaches (reaches : Reaches value path last)
    (short : ∀ step ∈ path, step.isShort = true) : follow value path = .ok (some last) := by
  induction reaches with
  | here value => rw [follow]
  | step leads _ ih =>
    obtain ⟨own, later⟩ := List.forall_mem_cons.1 short
    rw [follow_of_leads leads own, ih later]

theorem follow_of_strays (strays : Strays value path)
    (short : ∀ step ∈ path, step.isShort = true) : follow value path = .ok none := by
  induction strays with
  | here nowhere => exact follow_of_nowhere nowhere (short _ (by simp)) _
  | later leads _ ih =>
    obtain ⟨own, later⟩ := List.forall_mem_cons.1 short
    rw [follow_of_leads leads own, ih later]

/-- What following a path comes to is told by the walk along it. -/
theorem follow_cases (value : Json) (short : ∀ step ∈ path, step.isShort = true) :
    (∃ last, Reaches value path last ∧ follow value path = .ok (some last)) ∨
      Strays value path ∧ follow value path = .ok none := by
  obtain ⟨last, reaches⟩ | strays := reaches_or_strays value path
  · exact .inl ⟨last, reaches, follow_of_reaches reaches short⟩
  · exact .inr ⟨strays, follow_of_strays strays short⟩

/-! ## looking up -/

/-- The key that a step looks up; an index is no part of it. -/
def Step.name : Step → Text
  | .key name => name
  | .item name _ => name

/-- The key of the context that a path starts from. -/
def rootOf (path : Text) : Text := ((steps (Text.strip path)).head?.map Step.name).getD []

theorem rootOf_wholeKey : ∀ key ∈ wholeKeys, ((steps key).head?.map Step.name).getD [] = key := by
  decide

/-- A path leads nowhere, to the entry that it starts from, or along the steps behind that entry,
whatever the context. -/
theorem lookup_cases (path : Text) :
    (∀ f, lookup (.obj f) path = .ok none) ∨
    (∀ f, lookup (.obj f) path = .ok (Fields.get? (rootOf path) f)) ∨
    ∃ first rest, steps (Text.strip path) = first :: rest ∧ rootOf path = first.name ∧
      ∀ f, lookup (.obj f) path = follow (.obj f) (first :: rest) := by
  unfold rootOf lookup
  dsimp only
  generalize Text.strip path = path
  by_cases empty : path.isEmpty = true
  · exact .inl fun f => if_pos empty
  · by_cases whole : wholeKeys.contains path = true
    · refine .inr (.inl fun f => ?_)
      rw [if_neg empty, if_pos whole, rootOf_wholeKey path (by simpa using whole)]
    · cases eq : steps path with
      | nil => simp [steps, List.splitOn_ne_nil] at eq
      | cons first rest =>
        refine .inr (.inr ⟨first, rest, rfl, rfl, fun f => ?_⟩)
        rw [if_neg empty, if_neg whole]

/-! ## plain values -/

theorem Leads.plain_of_entries (leads : Leads (.obj fields) first next)
    (values : ∀ entry ∈ fields, isPlain entry.2 = true) : isPlain next = true := by
  cases leads with
  | key found => exact values _ (Fields.mem_of_get? found)
  | item found within =>
    exact isPlain_arr.1 (values _ (Fields.mem_of_get? found)) _ (List.getElem_mem within)

theorem Leads.plain (leads : Leads value first next) (plain : isPlain value = true) :
    isPlain next = true := by
  obtain ⟨fields, rfl⟩ : ∃ fields, value = .obj fields := by
    cases leads <;> exact ⟨_, rfl⟩
  exact leads.plain_of_entries fun entry member => (isPlain_obj.1 plain entry member).2.2

theorem Reaches.plain (reaches : Reaches value path last) (plain : isPlain value = true) :
    isPlain last = true := by
  induction reaches with
  | here => exact plain
  | step leads _ ih => exact ih (leads.plain plain)

end Template

end ChatTranscript

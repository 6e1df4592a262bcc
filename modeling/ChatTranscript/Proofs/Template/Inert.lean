import ChatTranscript.Proofs.Text.Scan
import ChatTranscript.Template.Render

/-!
# Text that opens no tag

A tag opens with two braces in a row. Text in which another character follows each opening brace
opens no tag, and it opens none together with the text on either side. Shown values are of this
kind if no text within them holds an opening brace, even where they are shown as JSON.

## Main definitions

* `Template.Inert`: texts that open no tag, whatever stands around them.
* `Json.everyText`: a condition on all texts within a value.
* `Template.isPlain`: values that are shown as inert text.
-/

namespace ChatTranscript

namespace Template

/-! ## inert text -/

/-- Within the text, each opening brace is followed by something else. -/
def Inert : Text → Prop
  | [] => True
  | c :: rest => (c = '{' → ∃ d ∈ rest.head?, d ≠ '{') ∧ Inert rest

namespace Inert

variable {text other : Text} {c : Char}

@[simp] theorem nil : Inert [] := trivial

theorem cons (h : c ≠ '{') (rest : Inert text) : Inert (c :: text) :=
  ⟨fun same => absurd same h, rest⟩

theorem of_not_mem (h : '{' ∉ text) : Inert text := by
  induction text with
  | nil => trivial
  | cons c rest ih =>
    obtain ⟨first, later⟩ := not_or.1 (mt List.mem_cons.2 h)
    exact cons (Ne.symm first) (ih later)

theorem append (h : Inert text) (g : Inert other) : Inert (text ++ other) := by
  induction text with
  | nil => exact g
  | cons c rest ih =>
    refine ⟨fun opens => ?_, ih h.2⟩
    obtain ⟨d, next, differs⟩ := h.1 opens
    exact ⟨d, by simpa [List.head?_append] using Or.inl next, differs⟩

theorem of_literal (opening : ¬ openBraces <:+: text) (last : text.getLast? ≠ some '{') :
    Inert text := by
  induction text with
  | nil => trivial
  | cons c rest ih =>
    have later : ¬ openBraces <:+: rest := fun h =>
      opening (h.trans (List.suffix_cons c rest).isInfix)
    cases rest with
    | nil => exact cons (by simpa using last) trivial
    | cons d rest =>
      refine ⟨?_, ih later (by simpa using last)⟩
      rintro rfl
      refine ⟨d, rfl, ?_⟩
      rintro rfl
      exact opening ⟨[], rest, rfl⟩

/-- A rule that needs two braces in a row finds nothing in inert text. -/
theorem skips {α : Type} {rule : Text → Option α}
    (opens : ∀ text, ¬ openBraces <+: text → rule text = none) (h : Inert text) :
    Text.Skips rule text := by
  induction text with
  | nil => trivial
  | cons c rest ih =>
    refine ⟨fun following => opens _ ?_, ih h.2⟩
    -- the second brace would have to stand within the text, not in what follows it
    rintro ⟨after, split⟩
    simp only [openBraces, List.cons_append, List.nil_append, List.cons.injEq] at split
    obtain ⟨d, next, differs⟩ := h.1 split.1.symm
    cases rest with
    | nil => cases next
    | cons e rest =>
      cases next
      exact differs (List.cons.inj split.2).1.symm

end Inert

/-! ## escaping -/

/-- Replacing each character by some text of its own, but not opening braces, opens no tag. -/
theorem Inert.flatMap {text : Text} {f : Char → Text} (kept : f '{' = ['{'])
    (others : ∀ c, c ≠ '{' → f c ≠ [] ∧ '{' ∉ f c) (h : Inert text) : Inert (text.flatMap f) := by
  induction text with
  | nil => trivial
  | cons c rest ih =>
    rw [List.flatMap_cons]
    by_cases opens : c = '{'
    · obtain ⟨d, next, differs⟩ := h.1 opens
      obtain ⟨notEmpty, noBrace⟩ := others d differs
      obtain ⟨later, rfl⟩ : ∃ later, rest = d :: later := List.head?_eq_some_iff.1 next
      obtain ⟨e, shown, eq⟩ := List.exists_cons_of_ne_nil notEmpty
      rw [opens, kept]
      refine ⟨fun _ => ⟨e, by simp [eq], ?_⟩, ih h.2⟩
      rintro rfl
      exact noBrace (by simp [eq])
    · exact (of_not_mem (others c opens).2).append (ih h.2)

theorem inert_escapeAttribute {text : Text} (h : Inert text) :
    Inert (Html.escapeAttribute text) := by
  refine h.flatMap (by decide) fun c other => ?_
  fun_cases Html.escapeChar Html.inFragments c
  -- the entities are fixed texts, and any other character stays
  all_goals first
    | decide
    | simpa using Ne.symm other

end Template

/-! ## texts within a value -/

namespace Json

mutual

/-- Every key and every other text within the value meets its condition. -/
def everyText (key text : Text → Bool) : Json → Bool
  | .str value => text value
  | .arr items => everyTextItems key text items
  | .obj fields => everyTextFields key text fields
  | _ => true

def everyTextItems (key text : Text → Bool) : List Json → Bool
  | [] => true
  | item :: rest => everyText key text item && everyTextItems key text rest

def everyTextFields (key text : Text → Bool) : List (Text × Json) → Bool
  | [] => true
  | (name, value) :: rest =>
    key name && everyText key text value && everyTextFields key text rest

end

variable {key text : Text → Bool} {items : List Json} {fields : Fields}

@[simp] theorem everyText_arr : everyText key text (.arr items) = true ↔
    ∀ item ∈ items, everyText key text item = true := by
  rw [everyText]
  induction items with
  | nil => simp [everyTextItems]
  | cons item rest ih => simp [everyTextItems, ih]

@[simp] theorem everyText_obj : everyText key text (.obj fields) = true ↔
    ∀ entry ∈ fields, key entry.1 = true ∧ everyText key text entry.2 = true := by
  rw [everyText]
  induction fields with
  | nil => simp [everyTextFields]
  | cons entry rest ih => simp [everyTextFields, ih]

end Json

namespace Template

def hasBrace (text : Text) : Bool := text.contains '{'

/-- No text in the value holds an opening brace, and none of its objects has a key that contexts
have of their own. -/
def isPlain (value : Json) : Bool :=
  value.everyText (fun key => !hasBrace key && key != handlerKey && key != overwriteKey)
    fun text => !hasBrace text

@[simp, grind =] theorem isPlain_str {text : Text} : isPlain (.str text) = true ↔ '{' ∉ text := by
  simp [isPlain, Json.everyText, hasBrace]

@[simp, grind =] theorem isPlain_arr {items : List Json} :
    isPlain (.arr items) = true ↔ ∀ item ∈ items, isPlain item = true := Json.everyText_arr

theorem isPlain_obj {fields : Fields} : isPlain (.obj fields) = true ↔
    ∀ entry ∈ fields, '{' ∉ entry.1 ∧
      (entry.1 ≠ handlerKey ∧ entry.1 ≠ overwriteKey) ∧ isPlain entry.2 = true := by
  rw [isPlain, Json.everyText_obj]
  simp [hasBrace, isPlain, and_assoc]

/-! ## shown values -/

@[simp] theorem brace_not_mem_lowerDigits (width n : Nat) : '{' ∉ Hex.lowerDigits width n := by
  have digit : ∀ d < 16, '{' ≠ Hex.lowerDigit d := by decide
  induction width generalizing n with
  | zero => simp [Hex.lowerDigits]
  | succ width ih => simp [Hex.lowerDigits, ih, digit (n % 16) (Nat.mod_lt n (by decide))]

theorem brace_not_mem_writeString {text : Text} (h : '{' ∉ text) :
    '{' ∉ Json.writeString text := by
  have char {c : Char} (other : '{' ≠ c) : '{' ∉ Json.writeChar c := by
    fun_cases Json.writeChar c
    all_goals simp [other]
  simp only [Json.writeString, List.cons_append, List.mem_cons, List.mem_append, List.mem_flatMap,
    List.not_mem_nil, or_false, not_or, not_exists, not_and]
  refine ⟨by decide, fun c member => char ?_, by decide⟩
  rintro rfl
  exact h member

@[simp] theorem brace_not_mem_ofNat (n : Nat) : '{' ∉ Text.ofNat n := by
  intro member
  have digit := Nat.isDigit_of_mem_toDigits (by decide) (by decide) member
  exact absurd digit (by decide)

@[simp] theorem brace_not_mem_ofInt (n : Int) : '{' ∉ Text.ofInt n := by
  cases n with
  | ofNat n => exact brace_not_mem_ofNat n
  | negSucc n => simp [Text.ofInt]

@[simp] theorem brace_not_mem_ofNatPadded (width n : Nat) : '{' ∉ Text.ofNatPadded width n := by
  simp [Text.ofNatPadded]

@[simp] theorem brace_not_mem_decimal (d : Decimal) : '{' ∉ d.text := by
  have front {text : Text} (n : Nat) (h : '{' ∉ text) : '{' ∉ text.take n :=
    mt List.mem_of_mem_take h
  have back {text : Text} (n : Nat) (h : '{' ∉ text) : '{' ∉ text.drop n :=
    mt List.mem_of_mem_drop h
  unfold Decimal.text
  dsimp only
  split
  · unfold Decimal.positional
    split
    · simp
    · simp [front, back]
  · unfold Decimal.scientific
    dsimp only
    split <;> split <;> simp [front, back, -List.drop_one]

theorem brace_not_mem_signed {text : Text} (negative : Bool) (h : '{' ∉ text) :
    '{' ∉ Binary64.signed negative text := by
  cases negative <;> simp [Binary64.signed, h]

@[simp] theorem brace_not_mem_text (x : Binary64) : '{' ∉ x.text := by
  cases x with
  | nan => decide
  | infinity negative => exact brace_not_mem_signed negative (by decide)
  | finite negative magnitude =>
    exact brace_not_mem_signed negative (brace_not_mem_decimal magnitude.shortest)

@[simp] theorem brace_not_mem_writeFloat (x : Binary64) : '{' ∉ Json.writeFloat x := by
  cases x with
  | nan => decide
  | infinity negative => exact brace_not_mem_signed negative (by decide)
  | finite negative magnitude => exact brace_not_mem_text (.finite negative magnitude)

variable {s : Json.Separators}

/-- In JSON text an opening brace is followed by a key in quotes or by the closing brace. -/
theorem head?_writeFields (fields : Fields) :
    ∃ d ∈ (Json.writeFields s fields ++ ['}']).head?, d ≠ '{' := by
  fun_cases Json.writeFields s fields
  · exact ⟨'}', rfl, by decide⟩
  · exact ⟨'"', rfl, by decide⟩
  · exact ⟨'"', rfl, by decide⟩

mutual

/-- Opening braces in the JSON text of a plain value come from its objects alone. -/
theorem inert_write (bare : '{' ∉ s.comma ∧ '{' ∉ s.colon) :
    ∀ value : Json, isPlain value = true → Inert (value.write s)
  | .null, _ => .of_not_mem (by decide : '{' ∉ "null".toList)
  | .bool true, _ => .of_not_mem (by decide : '{' ∉ "true".toList)
  | .bool false, _ => .of_not_mem (by decide : '{' ∉ "false".toList)
  | .int n, _ => .of_not_mem (brace_not_mem_ofInt n)
  | .float x, _ => .of_not_mem (brace_not_mem_writeFloat x)
  | .str text, plain => .of_not_mem (brace_not_mem_writeString (isPlain_str.1 plain))
  | .arr items, plain => by
    have inner := inert_writeItems bare items (isPlain_arr.1 plain)
    exact .cons (by decide) (inner.append (.of_not_mem (by decide)))
  | .obj fields, plain => by
    have inner := inert_writeFields bare fields (isPlain_obj.1 plain)
    exact ⟨fun _ => head?_writeFields fields, inner.append (.of_not_mem (by decide))⟩

theorem inert_writeItems (bare : '{' ∉ s.comma ∧ '{' ∉ s.colon) : ∀ items : List Json,
    (∀ item ∈ items, isPlain item = true) → Inert (Json.writeItems s items)
  | [], _ => .nil
  | [item], plain => inert_write bare item (plain item (by simp))
  | item :: next :: rest, plain => by
    have first := inert_write bare item (plain item (by simp))
    have later := inert_writeItems bare (next :: rest) fun other member =>
      plain other (.tail _ member)
    exact (first.append (.of_not_mem bare.1)).append later

theorem inert_writeFields (bare : '{' ∉ s.comma ∧ '{' ∉ s.colon) : ∀ fields : Fields,
    (∀ entry ∈ fields, '{' ∉ entry.1 ∧ (entry.1 ≠ handlerKey ∧ entry.1 ≠ overwriteKey) ∧
      isPlain entry.2 = true) → Inert (Json.writeFields s fields)
  | [], _ => .nil
  | [(key, value)], plain => by
    obtain ⟨noBrace, -, value⟩ := plain (key, value) (by simp)
    have name := Inert.of_not_mem (brace_not_mem_writeString noBrace)
    exact (name.append (.of_not_mem bare.2)).append (inert_write bare _ value)
  | (key, value) :: next :: rest, plain => by
    obtain ⟨noBrace, -, value⟩ := plain (key, value) (by simp)
    have name := Inert.of_not_mem (brace_not_mem_writeString noBrace)
    have first := (name.append (.of_not_mem bare.2)).append (inert_write bare _ value)
    have later := inert_writeFields bare (next :: rest) fun other member =>
      plain other (.tail _ member)
    exact (first.append (.of_not_mem bare.1)).append later

end

theorem inert_display {value : Option Json} (plain : ∀ shown ∈ value, isPlain shown = true) :
    Inert (display value) := by
  have bare : '{' ∉ Json.compact.comma ∧ '{' ∉ Json.compact.colon := by decide
  cases value with
  | none => exact .nil
  | some value =>
    have inner := inert_write bare value (plain value rfl)
    cases value with
    | null => exact .nil
    | bool b => cases b <;> exact .of_not_mem (by decide)
    | int n => exact .of_not_mem (brace_not_mem_ofInt n)
    | float x =>
      unfold display
      dsimp only
      split
      · exact .of_not_mem (brace_not_mem_ofInt _)
      · exact .of_not_mem (brace_not_mem_text x)
    | str text => exact .of_not_mem (isPlain_str.1 (plain _ rfl))
    | arr items | obj fields => exact inner

end Template

end ChatTranscript

import ChatTranscript.Proofs.Binary64.Layout
import ChatTranscript.Proofs.Text.Strip
import ChatTranscript.Transcript.Document

/-!
# Which documents are transcripts

A document is a transcript if it is an array of objects that name their senders and avatars by
strings or whole numbers, or not at all. There is one record for each of them. If there is none for
some, then the first of those is reported, and nothing of the transcript is kept.

## Main definitions

* `Record.IsLabel`: the entries that can name a sender or an avatar.
* `Record.Accepts`: the objects that are records.
* `Record.Describes`: the record that an object describes.
* `LoadFailure.Reports`: a failure that names the index of an element.

## Main statements

* `Transcript.recordOf_cases`: what comes of one element.
* `Transcript.recordsFrom_cases`: what comes of the elements of an array.
* `Transcript.ofJson_records`: which documents give records, and what is reported of the others.
-/

namespace ChatTranscript

namespace Record

variable {fields : Fields} {entry : Option Json} {record : Record}

/-! ## names and hints -/

/-- The entry for the sender: under the first spelling of its key, or else under the second. -/
def nameEntry (fields : Fields) : Option Json :=
  (Fields.get? "name".toList fields).or (Fields.get? "sender_name".toList fields)

/-- The entry for the avatar. -/
def avatarEntry (fields : Fields) : Option Json :=
  (Fields.get? "avatar".toList fields).or (Fields.get? "avatar_hint".toList fields)

/-- No entry, null, a string or a whole number; a Boolean is no number. -/
def IsLabel : Option Json → Prop
  | none | some .null | some (.str _) | some (.int _) => True
  | some (.bool _) | some (.float _) | some (.arr _) | some (.obj _) => False

/-- The text of a name without blanks at the ends. -/
def nameText : Option Json → Text
  | none | some .null => []
  | some value => Text.strip value.asText

/-- The text of a hint without blanks at the ends. The empty string is no hint, but one of blanks
is. -/
def hintText : Option Json → Option Text
  | none | some .null | some (.str []) => none
  | some value => some (Text.strip value.asText)

theorem strip_ofInt (n : Int) : Text.strip (Text.ofInt n) = Text.ofInt n := by
  have digits (n : Nat) : ∀ c ∈ Text.ofNat n, Text.isBlank c = false := fun c member =>
    Text.isBlank_of_isDigit (Text.isDigits_ofNat n c member)
  refine Text.strip_eq_self ?_
  cases n with
  | ofNat n => exact digits n
  | negSucc n => exact List.forall_mem_cons.2 ⟨by decide, digits (n + 1)⟩

theorem readEntry_snd {α : Type} {first second : Text} {absent : α}
    {read : Json → Except Problem α} :
    (readEntry [first, second] absent read fields).2 =
      (((Fields.get? first fields).or (Fields.get? second fields)).map read).getD (.ok absent) := by
  unfold readEntry
  simp only [Fields.firstOf?, List.findSome?_cons, List.findSome?_nil]
  cases Fields.get? first fields with
  | some value => rfl
  | none => cases Fields.get? second fields <;> rfl

/-- A name is read exactly if it is a label, and then as its text. -/
theorem readName_cases (entry : Option Json) :
    IsLabel entry ∧ (entry.map readName).getD (.ok []) = .ok (nameText entry) ∨
    ¬ IsLabel entry ∧ ∃ problem, (entry.map readName).getD (.ok []) = .error problem := by
  cases entry with
  | none => exact .inl ⟨trivial, rfl⟩
  | some value =>
    cases value with
    | null => exact .inl ⟨trivial, rfl⟩
    | str text => exact .inl ⟨trivial, rfl⟩
    | int n => exact .inl ⟨trivial, congrArg Except.ok (strip_ofInt n).symm⟩
    | bool | float | arr | obj => exact .inr ⟨id, _, rfl⟩

theorem readHint_cases (entry : Option Json) :
    IsLabel entry ∧ (entry.map readHint).getD (.ok none) = .ok (hintText entry) ∨
    ¬ IsLabel entry ∧ ∃ problem, (entry.map readHint).getD (.ok none) = .error problem := by
  cases entry with
  | none => exact .inl ⟨trivial, rfl⟩
  | some value =>
    cases value with
    | null => exact .inl ⟨trivial, rfl⟩
    | str text => cases text <;> exact .inl ⟨trivial, rfl⟩
    | int n => exact .inl ⟨trivial, congrArg (Except.ok ∘ some) (strip_ofInt n).symm⟩
    | bool | float | arr | obj => exact .inr ⟨id, _, rfl⟩

/-! ## records -/

/-- The object is a record: its names, if it has any, are labels. -/
structure Accepts (fields : Fields) : Prop where
  name : IsLabel (nameEntry fields)
  avatar : IsLabel (avatarEntry fields)

/-- A card is marked by one of two words, in any case and with any blanks around. -/
def MarksCard (entry : Option Json) : Prop :=
  ∃ text, entry = some (.str text) ∧
    (Text.lower (Text.strip text) = "card".toList ∨ Text.lower (Text.strip text) = "ark".toList)

/-- The record that an object describes. Its content is kept as it is. -/
structure Describes (fields : Fields) (record : Record) : Prop where
  sender : record.sender = nameText (nameEntry fields)
  avatarHint : record.avatarHint = hintText (avatarEntry fields)
  element : record.element = .card ↔ MarksCard (Fields.get? "element".toList fields)
  content : record.content = (Fields.get? "content".toList fields).getD .null

theorem readElement_eq_card_iff : readElement entry = .card ↔ MarksCard entry := by
  unfold MarksCard
  cases entry with
  | none => simp [readElement]
  | some value => cases value <;> simp [readElement, or_iff_not_imp_left]

/-- An object is a record, and gives the one that it describes, or it is none and is refused. -/
theorem ofFields_cases (fields : Fields) :
    Accepts fields ∧ (∃ record, ofFields fields = .ok record ∧ Describes fields record) ∨
    ¬ Accepts fields ∧ ∃ rejection, ofFields fields = .error rejection := by
  have name : (readEntry nameKeys [] readName fields).2 = _ := readEntry_snd
  have hint : (readEntry avatarKeys none readHint fields).2 = _ := readEntry_snd
  unfold ofFields
  generalize readEntry nameKeys [] readName fields = sender at name ⊢
  generalize readEntry avatarKeys none readHint fields = avatar at hint ⊢
  dsimp only
  obtain ⟨named, read⟩ | ⟨unnamed, problem, refused⟩ := readName_cases (nameEntry fields)
  · rw [name.trans read]
    obtain ⟨hinted, read⟩ | ⟨unhinted, problem, refused⟩ := readHint_cases (avatarEntry fields)
    · rw [hint.trans read]
      exact .inl ⟨⟨named, hinted⟩, _, rfl, rfl, rfl, readElement_eq_card_iff, rfl⟩
    · rw [hint.trans refused]
      exact .inr ⟨fun accepts => unhinted accepts.avatar, _, rfl⟩
  · rw [name.trans refused]
    exact .inr ⟨fun accepts => unnamed accepts.name, _, rfl⟩

end Record

/-! ## failures -/

/-- The message starts with what is wrong with the element at the index. -/
def LoadFailure.Reports (index : Nat) (failure : LoadFailure) : Prop :=
  "Transcript record ".toList ++ Text.ofNat index ++ " must be an object, got ".toList <+:
      failure.message ∨
    "Invalid transcript record ".toList ++ Text.ofNat index ++ ": ".toList <+: failure.message

namespace Transcript

variable {items : List Json} {index : Nat}

/-! ## elements -/

/-- The element is an object that is a record. -/
def IsRecord (item : Json) : Prop := ∃ fields, item = .obj fields ∧ Record.Accepts fields

/-- The element is an object that describes the record. -/
def Describes (item : Json) (record : Record) : Prop :=
  ∃ fields, item = .obj fields ∧ Record.Describes fields record

/-- An element is a record and read as what it describes, or it is none and its index reported. -/
theorem recordOf_cases (index : Nat) (item : Json) :
    IsRecord item ∧ (∃ record, recordOf index item = .ok record ∧ Describes item record) ∨
    ¬ IsRecord item ∧
      ∃ failure, recordOf index item = .error failure ∧ failure.Reports index := by
  cases item with
  | obj fields =>
    rw [recordOf]
    obtain ⟨accepts, record, read, describes⟩ | ⟨refuses, rejection, read⟩ :=
      Record.ofFields_cases fields
    · rw [read]
      exact .inl ⟨⟨fields, rfl, accepts⟩, record, rfl, fields, rfl, describes⟩
    · rw [read]
      refine .inr ⟨?_, _, rfl, .inr ⟨rejection.message, rfl⟩⟩
      rintro ⟨_, ⟨⟩, accepts⟩
      exact refuses accepts
  | null | bool | int | float | str | arr =>
    refine .inr ⟨?_, _, rfl, .inl ⟨_, rfl⟩⟩
    rintro ⟨_, ⟨⟩, -⟩

/-- Elements that are all records are read as such; else the first one that is none is reported. -/
theorem recordsFrom_cases (index : Nat) (items : List Json) :
    (∀ item ∈ items, IsRecord item) ∧
      (∃ records, recordsFrom index items = .ok records ∧ List.Forall₂ Describes items records) ∨
    ∃ before item after, items = before ++ item :: after ∧ (∀ other ∈ before, IsRecord other) ∧
      ¬ IsRecord item ∧
      ∃ failure, recordsFrom index items = .error failure ∧
        failure.Reports (index + before.length) := by
  induction items generalizing index with
  | nil => exact .inl ⟨by simp, [], rfl, .nil⟩
  | cons first items ih =>
    rw [recordsFrom]
    obtain ⟨isRecord, record, read, describes⟩ | ⟨isNone, failure, read, reports⟩ :=
      recordOf_cases index first
    · rw [read]
      obtain ⟨all, records, later, rest⟩ | ⟨before, item, after, rfl, all, isNone, failure, later,
        reports⟩ := ih (index + 1)
      · refine .inl ⟨List.forall_mem_cons.2 ⟨isRecord, all⟩, record :: records, ?_,
          .cons describes rest⟩
        rw [later]
        rfl
      · refine .inr ⟨first :: before, item, after, rfl, List.forall_mem_cons.2 ⟨isRecord, all⟩,
          isNone, failure, ?_, ?_⟩
        · rw [later]
          rfl
        · rwa [List.length_cons, Nat.add_comm before.length, ← Nat.add_assoc]
    · rw [read]
      exact .inr ⟨[], first, items, rfl, by simp, isNone, failure, rfl, reports⟩

/-! ## documents -/

/-- A document gives records exactly if it is an array of records, one for each element and in
order. Else a failure names the first element that is none, or says that there is no array. -/
theorem ofJson_records (document : Json) :
    ((∃ records, ofJson document = .ok records) ↔
      ∃ items, document = .arr items ∧ ∀ item ∈ items, IsRecord item) ∧
    (∀ records, ofJson document = .ok records →
      ∃ items, document = .arr items ∧ List.Forall₂ Describes items records) ∧
    ∀ failure, ofJson document = .error failure →
      ((∀ items, document ≠ .arr items) ∧ failure = .notArray document.kind) ∨
      ∃ before item after, document = .arr (before ++ item :: after) ∧
        (∀ other ∈ before, IsRecord other) ∧ ¬ IsRecord item ∧ failure.Reports before.length := by
  cases document with
  | arr items =>
    rw [ofJson]
    obtain ⟨all, records, read, describes⟩ | ⟨before, item, after, rfl, all, isNone, failure, read,
      reports⟩ := recordsFrom_cases 0 items
    · rw [read]
      refine ⟨⟨fun _ => ⟨items, rfl, all⟩, fun _ => ⟨records, rfl⟩⟩, ?_, nofun⟩
      rintro _ ⟨⟩
      exact ⟨items, rfl, describes⟩
    · rw [read]
      refine ⟨⟨nofun, ?_⟩, nofun, ?_⟩
      · rintro ⟨_, ⟨⟩, all⟩
        exact absurd (all item (by simp)) isNone
      · rintro _ ⟨⟩
        exact .inr ⟨before, item, after, rfl, all, isNone, Nat.zero_add before.length ▸ reports⟩
  | null | bool | int | float | str | obj =>
    refine ⟨⟨nofun, ?_⟩, nofun, ?_⟩
    · rintro ⟨_, ⟨⟩, -⟩
    · rintro _ ⟨⟩
      exact .inl ⟨nofun, rfl⟩

/-- A Boolean is no whole number, and of several faulty elements the first is reported. -/
example : ∃ rejection, ofJson (.arr [.obj [("name".toList, .int 7)],
    .obj [("avatar".toList, .bool true)], .null]) = .error (.invalidRecord 1 rejection) :=
  ⟨_, rfl⟩

end Transcript

end ChatTranscript

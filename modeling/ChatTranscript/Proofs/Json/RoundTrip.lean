import ChatTranscript.Proofs.Json.DistinctKeys
import ChatTranscript.Proofs.Json.LongIntegers
import ChatTranscript.Proofs.Json.Numerals

/-!
# Values are read back from their text

The text of a value is read as that value, at every depth, with the keys of its objects in their
order. The value must be one that can be read: no object has a key twice, and no integer has too
many digits. There is no condition on strings or floating-point values.

## Main definitions

* `Json.withinDigits`: no integer has too many digits.
* `Json.Separators.Readable`: separators that are a comma, a colon, and layout behind them.

## Main statements

* `Json.read_write`: a value is read back from its text.
-/

namespace ChatTranscript

/-! ## objects -/

namespace Fields

variable {fields : Fields} {key : Text} {value : Json}

theorem set_eq_append (new : key ∉ fields.map (·.1)) :
    set key value fields = fields ++ [(key, value)] := by
  induction fields with
  | nil => rfl
  | cons first fields ih =>
    obtain ⟨name, old⟩ := first
    rw [List.map_cons, List.mem_cons, not_or] at new
    rw [set, if_neg (by simpa using Ne.symm new.1), ih new.2]
    rfl

theorem update_eq_append (pairs : Fields) (distinct : ((fields ++ pairs).map (·.1)).Nodup) :
    update fields pairs = fields ++ pairs := by
  induction pairs generalizing fields with
  | nil => exact (List.append_nil fields).symm
  | cons pair pairs ih =>
    obtain ⟨key, value⟩ := pair
    have new : key ∉ fields.map (·.1) := by
      rw [List.map_append, List.nodup_append] at distinct
      exact fun member => distinct.2.2 key member key (by simp) rfl
    have step : fields ++ (key, value) :: pairs = fields ++ [(key, value)] ++ pairs := by simp
    rw [step] at distinct ⊢
    refine Eq.trans ?_ (ih distinct)
    rw [← set_eq_append new]
    rfl

/-- Pairs with distinct keys are the entries of their object. -/
theorem ofPairs_eq (distinct : (fields.map (·.1)).Nodup) : ofPairs fields = fields :=
  update_eq_append fields distinct

end Fields

namespace Json

/-! ## what can be read -/

mutual

/-- No integer in the value has too many digits. -/
def withinDigits : Json → Bool
  | .int n => (Text.ofNat n.natAbs).length ≤ maxDigits
  | .arr items => withinDigitsItems items
  | .obj fields => withinDigitsFields fields
  | _ => true

def withinDigitsItems : List Json → Bool
  | [] => true
  | item :: items => withinDigits item && withinDigitsItems items

def withinDigitsFields : Fields → Bool
  | [] => true
  | (_, value) :: fields => withinDigits value && withinDigitsFields fields

end

theorem withinDigitsItems_iff {items : List Json} :
    withinDigitsItems items = true ↔ ∀ item ∈ items, withinDigits item = true := by
  induction items with
  | nil => exact ⟨fun _ => nofun, fun _ => rfl⟩
  | cons item items ih => rw [withinDigitsItems, Bool.and_eq_true, ih, List.forall_mem_cons]

theorem withinDigitsFields_iff {fields : Fields} :
    withinDigitsFields fields = true ↔ ∀ entry ∈ fields, withinDigits entry.2 = true := by
  induction fields with
  | nil => exact ⟨fun _ => nofun, fun _ => rfl⟩
  | cons entry fields ih =>
    obtain ⟨key, value⟩ := entry
    rw [withinDigitsFields, Bool.and_eq_true, ih, List.forall_mem_cons]

theorem withinDigits_number {text rest : Text} {token : NumberToken} {value : Json}
    (read : readNumber? text = some (token, rest)) (number : token.value = .ok value) :
    withinDigits value = true := by
  have digits : token.whole.IsDigits := fun c member =>
    isAsciiDigit_eq c ▸ (readNumber?_eq read).2.2 c member
  unfold NumberToken.value at number
  split at number
  · split at number
    · cases number
    · rename_i few
      have short := Text.length_ofNat_le digits (by decide : 0 < maxDigits) (Nat.le_of_not_lt few)
      cases number
      cases token.negative <;> simpa [withinDigits] using short
  · cases number
    rfl

theorem inherited_withinDigits : Inherited fun value => withinDigits value = true where
  word := by decide
  number := withinDigits_number
  str _ := rfl
  arr h := by rw [withinDigits, withinDigitsItems_iff]; exact h
  obj h := withinDigitsFields_iff.2 fun entry member => h entry (Fields.mem_ofPairs member)

/-- No integer in a value that a text is read as has too many digits. -/
theorem withinDigits_read {text : Text} {value : Json} (h : read text = .ok value) :
    withinDigits value = true := inherited_withinDigits.read h

/-- A mark, and layout behind it. -/
def IsMark (mark : Char) (text : Text) : Prop :=
  ∃ blanks, text = mark :: blanks ∧ ∀ c ∈ blanks, isLayout c = true

/-- The separators of JSON, with layout behind them or not. -/
structure Separators.Readable (s : Separators) : Prop where
  comma : IsMark ',' s.comma
  colon : IsMark ':' s.colon

theorem readable_spaced : spaced.Readable :=
  ⟨⟨[' '], rfl, by simp [isLayout]⟩, ⟨[' '], rfl, by simp [isLayout]⟩⟩

variable {s : Separators} {rest : Text}

theorem Separators.Readable.hasComma (readable : s.Readable) : s.HasComma := by
  obtain ⟨blanks, eq, -⟩ := readable.comma
  exact ⟨blanks, eq⟩

/-! ## layout -/

theorem skipLayout_cons {c : Char} (h : isLayout c = false) : skipLayout (c :: rest) = c :: rest :=
  List.dropWhile_cons_of_neg (by simp [h])

theorem isLayout_eq_false {c : Char} (value : Json)
    (opens : value.opening = if isWord c then none else some c) : isLayout c = false := by
  by_contra layout
  simp only [isLayout, Bool.not_eq_false, Bool.or_eq_true, decide_eq_true_eq] at layout
  obtain ((rfl | rfl) | rfl) | rfl := layout <;> cases value <;> cases opens

theorem skipLayout_write (value : Json) :
    skipLayout (write s value ++ rest) = write s value ++ rest := by
  obtain ⟨c, text, eq, opens⟩ := exists_write_eq (s := s) value
  rw [eq, List.cons_append, skipLayout_cons (isLayout_eq_false value opens)]

theorem skipLayout_writeItems {items : List Json} (notEmpty : items ≠ []) :
    skipLayout (writeItems s items ++ rest) = writeItems s items ++ rest := by
  obtain ⟨item, items, rfl⟩ := List.exists_cons_of_ne_nil notEmpty
  rw [writeItems_cons, List.append_assoc, skipLayout_write]

theorem skipLayout_writeFields {fields : Fields} (notEmpty : fields ≠ []) :
    skipLayout (writeFields s fields ++ rest) = writeFields s fields ++ rest := by
  obtain ⟨⟨key, value⟩, fields, rfl⟩ := List.exists_cons_of_ne_nil notEmpty
  rw [writeFields_cons]
  exact skipLayout_cons (by decide)

/-- Behind a mark the reader skips its layout. -/
theorem skipLayout_blanks {blanks : Text} (layout : ∀ c ∈ blanks, isLayout c = true)
    (next : skipLayout rest = rest) : skipLayout (blanks ++ rest) = rest := by
  rw [skipLayout, List.dropWhile_append_of_pos layout]
  exact next

/-! ## words and strings -/

theorem readAtom_word {word : Text} {value : Json} (known : (word, value) ∈ words) :
    readAtom (word ++ rest) = .ok (value, rest) := by
  simp only [words, List.mem_cons, Prod.mk.injEq, List.not_mem_nil, or_false] at known
  obtain ⟨rfl, rfl⟩ | ⟨rfl, rfl⟩ | ⟨rfl, rfl⟩ | ⟨rfl, rfl⟩ | ⟨rfl, rfl⟩ | ⟨rfl, rfl⟩ := known <;>
    simp [readAtom, words, List.isPrefixOf?]

/-- A value that is one word or number is read back from its text. -/
theorem readAtom_write {value : Json} (atom : value.opening = none)
    (within : withinDigits value = true) (ends : Ends rest) :
    readAtom (write s value ++ rest) = .ok (value, rest) := by
  cases value with
  | null => exact readAtom_word (by simp [words, write])
  | bool b => cases b <;> exact readAtom_word (by simp [words, write])
  | int n => exact readAtom_ofInt (by simpa [withinDigits] using within) ends
  | float x => exact readAtom_writeFloat x ends
  | str text => cases atom
  | arr items => cases atom
  | obj fields => cases atom

theorem readValue_atom {fuel : ℕ} {value : Json} (atom : value.opening = none) :
    readValue (fuel + 1) (write s value ++ rest) = readAtom (write s value ++ rest) := by
  obtain ⟨c, text, eq, opens⟩ := exists_write_eq (s := s) value
  rw [atom] at opens
  have word : isWord c = true := by
    by_contra other
    rw [if_neg other] at opens
    cases opens
  rw [eq, List.cons_append, readValue]
  all_goals
    rintro _ same
    rw [(List.cons.inj same).1] at word
    exact absurd word (by decide)

/-! ## arrays and objects -/

theorem readValue_items {fuel : ℕ} {text : Text} (first : skipLayout text = text)
    (some : ∀ after, text ≠ ']' :: after) :
    readValue (fuel + 1) ('[' :: text) =
      (readItems fuel text).map fun (items, after) => (.arr items, after) := by
  rw [readValue, first]
  split
  · rename_i after
    exact (some after rfl).elim
  · rfl

theorem readValue_pairs {fuel : ℕ} {text : Text} (first : skipLayout text = text)
    (some : ∀ after, text ≠ '}' :: after) :
    readValue (fuel + 1) ('{' :: text) =
      (readPairs fuel text).map fun (pairs, after) => (.obj (Fields.ofPairs pairs), after) := by
  rw [readValue, first]
  split
  · rename_i after
    exact (some after rfl).elim
  · rfl

theorem writeMore_append {blanks : Text} (comma : s.comma = ',' :: blanks) (item : Json)
    (items : List Json) : writeMore s (item :: items) ++ rest =
      ',' :: (blanks ++ (writeItems s (item :: items) ++ rest)) := by
  simp [writeMore, comma]

theorem writeMoreFields_append {blanks : Text} (comma : s.comma = ',' :: blanks)
    (field : Text × Json) (fields : Fields) : writeMoreFields s (field :: fields) ++ rest =
      ',' :: (blanks ++ (writeFields s (field :: fields) ++ rest)) := by
  simp [writeMoreFields, comma]

/-- A key is read up to the value behind its colon. -/
theorem readKey_write (readable : s.Readable) (key : Text) (value : Json) (rest : Text) :
    readKey (writeString key ++ (s.colon ++ (write s value ++ rest))) =
        .ok (key, s.colon ++ (write s value ++ rest)) ∧
      readColon (skipLayout (s.colon ++ (write s value ++ rest))) =
        .ok (write s value ++ rest) := by
  obtain ⟨blanks, colon, layout⟩ := readable.colon
  constructor
  · rw [writeString]
    simp only [List.cons_append, List.append_assoc, List.nil_append]
    rw [readKey, readString_write]
  · rw [colon, List.cons_append, skipLayout_cons (by decide), readColon,
      skipLayout_blanks layout (skipLayout_write value)]

/-! ## values -/

mutual

/-- A value is read back from its text. The calls are no more than its characters. -/
theorem readValue_write (readable : s.Readable) (value : Json) {fuel : ℕ} {rest : Text}
    (distinct : distinctKeys value = true) (within : withinDigits value = true)
    (enough : (write s value).length ≤ fuel) (ends : Ends rest) :
    readValue fuel (write s value ++ rest) = .ok (value, rest) := by
  have some : 0 < (write s value).length := List.length_pos_of_ne_nil (write_ne_nil value)
  obtain ⟨fuel, rfl⟩ : ∃ less, fuel = less + 1 := ⟨fuel - 1, by omega⟩
  cases value with
  | str text =>
    rw [write, writeString]
    simp only [List.cons_append, List.append_assoc, List.nil_append]
    rw [readValue, readString_write]
    rfl
  | arr items =>
    rw [write, List.length_append, List.length_cons, List.length_singleton] at enough
    rw [write]
    simp only [List.cons_append, List.append_assoc, List.nil_append]
    cases items with
    | nil => rfl
    | cons item items =>
      rw [readValue_items (skipLayout_writeItems (by simp)),
        readItems_write readable (item :: items) (by simp) distinct within (by omega)]
      · rfl
      · intro after same
        rw [writeItems_cons, List.append_assoc] at same
        exact write_append_ne item same
  | obj fields =>
    obtain ⟨keys, values⟩ := distinctKeys_obj_iff.1 distinct
    rw [write, List.length_append, List.length_cons, List.length_singleton] at enough
    rw [write]
    simp only [List.cons_append, List.append_assoc, List.nil_append]
    cases fields with
    | nil => rfl
    | cons field fields =>
      rw [readValue_pairs (skipLayout_writeFields (by simp)),
        readPairs_write readable (field :: fields) (by simp) (distinctKeysFields_iff.2 values)
          within (by omega)]
      · exact congrArg (fun fields => Except.ok (obj fields, rest)) (Fields.ofPairs_eq keys)
      · intro after same
        rw [writeFields_cons] at same
        cases (List.cons.inj same).1
  | _ => exact (readValue_atom rfl).trans (readAtom_write rfl within ends)

theorem readItems_write (readable : s.Readable) (items : List Json) {fuel : ℕ} {rest : Text}
    (notEmpty : items ≠ []) (distinct : distinctKeysItems items = true)
    (within : withinDigitsItems items = true) (enough : (writeItems s items).length < fuel) :
    readItems fuel (writeItems s items ++ ']' :: rest) = .ok (items, rest) := by
  obtain ⟨fuel, rfl⟩ : ∃ less, fuel = less + 1 := ⟨fuel - 1, by omega⟩
  match items with
  | item :: items =>
    rw [distinctKeysItems, Bool.and_eq_true] at distinct
    rw [withinDigitsItems, Bool.and_eq_true] at within
    rw [writeItems_cons, List.length_append] at enough
    have first : readValue fuel (write s item ++ (writeMore s items ++ ']' :: rest)) =
        .ok (item, writeMore s items ++ ']' :: rest) :=
      readValue_write readable item distinct.1 within.1 (by omega)
        (ends_writeMore readable.hasComma items)
    rw [writeItems_cons, List.append_assoc, readItems, first]
    cases items with
    | nil => rfl
    | cons next items =>
      obtain ⟨blanks, comma, layout⟩ := readable.comma
      have fewer : (writeItems s (next :: items)).length < fuel := by
        simp only [writeMore, comma, List.length_append, List.length_cons] at enough
        omega
      have more : readItems fuel (writeItems s (next :: items) ++ ']' :: rest) =
          .ok (next :: items, rest) :=
        readItems_write readable (next :: items) (by simp) distinct.2 within.2 fewer
      rw [writeMore_append comma]
      simp only [bind, Except.bind, skipLayout_cons (show isLayout ',' = false by decide),
        skipLayout_blanks layout (skipLayout_writeItems (List.cons_ne_nil next items)), more]
      rfl

theorem readPairs_write (readable : s.Readable) (fields : Fields) {fuel : ℕ} {rest : Text}
    (notEmpty : fields ≠ []) (distinct : distinctKeysFields fields = true)
    (within : withinDigitsFields fields = true) (enough : (writeFields s fields).length < fuel) :
    readPairs fuel (writeFields s fields ++ '}' :: rest) = .ok (fields, rest) := by
  obtain ⟨fuel, rfl⟩ : ∃ less, fuel = less + 1 := ⟨fuel - 1, by omega⟩
  match fields with
  | (key, value) :: fields =>
    rw [distinctKeysFields, Bool.and_eq_true] at distinct
    rw [withinDigitsFields, Bool.and_eq_true] at within
    rw [writeFields_cons, List.length_append, List.length_append, List.length_append] at enough
    have first : readValue fuel (write s value ++ (writeMoreFields s fields ++ '}' :: rest)) =
        .ok (value, writeMoreFields s fields ++ '}' :: rest) :=
      readValue_write readable value distinct.1 within.1 (by omega)
        (ends_writeMoreFields readable.hasComma fields)
    obtain ⟨name, colon⟩ :=
      readKey_write readable key value (writeMoreFields s fields ++ '}' :: rest)
    rw [writeFields_cons]
    simp only [List.append_assoc]
    rw [readPairs, name]
    simp only [bind, Except.bind, colon, first]
    cases fields with
    | nil => rfl
    | cons next fields =>
      obtain ⟨blanks, comma, layout⟩ := readable.comma
      have fewer : (writeFields s (next :: fields)).length < fuel := by
        simp only [writeMoreFields, comma, List.length_append, List.length_cons] at enough
        omega
      have more : readPairs fuel (writeFields s (next :: fields) ++ '}' :: rest) =
          .ok (next :: fields, rest) :=
        readPairs_write readable (next :: fields) (by simp) distinct.2 within.2 fewer
      rw [writeMoreFields_append comma]
      simp only [skipLayout_cons (show isLayout ',' = false by decide),
        skipLayout_blanks layout (skipLayout_writeFields (List.cons_ne_nil next fields)), more]
      rfl

end

/-- A value that can be read is read back from its text. -/
theorem read_write (readable : s.Readable) {value : Json} (distinct : distinctKeys value = true)
    (within : withinDigits value = true) : read (write s value) = .ok value := by
  have first : skipLayout (write s value ++ []) = write s value ++ [] := skipLayout_write value
  have all : readValue (2 * (write s value).length + 2) (write s value ++ []) = .ok (value, []) :=
    readValue_write readable value distinct within (by omega) ends_nil
  rw [List.append_nil] at first all
  have bare : (write s value).head? ≠ some '\ufeff' := by
    obtain ⟨c, text, eq, opens⟩ := exists_write_eq (s := s) value
    rw [eq]
    rintro ⟨⟩
    cases value <;> cases opens
  simp only [read, readAll, if_neg bare, first, bind, Except.bind, all]
  rfl

end Json

end ChatTranscript

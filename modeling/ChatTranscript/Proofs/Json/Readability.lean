import ChatTranscript.Json.Reader
import ChatTranscript.Json.Writer
import ChatTranscript.Proofs.Binary64.Layout

/-!
# JSON text is uniquely readable

A value's text says where it ends: a string at its closing quote, an array or object at its closing
bracket, and any other value in front of the first character that no word or number contains. So
two values with one text are equal, also when more text follows.

## Main definitions

* `Json.isWord`: the characters of words and numbers.
* `Json.Ends`: no word or number goes on in the text.

## Main statements

* `Json.readString_write`: a string is read back from its text.
* `Json.writeFloat_injective`: a floating-point value is determined by its text.
* `Json.write_append_inj`: a value and what follows are determined by the text.
-/

namespace ChatTranscript

namespace Json

variable {s : Separators} {rest rest' : Text}

/-- A comma comes first in what stands between two items. -/
def Separators.HasComma (s : Separators) : Prop := ∃ blanks, s.comma = ',' :: blanks

/-! ## strings -/

theorem readString_plain {c : Char} (start : ℕ) (quote : c ≠ '"') (backslash : c ≠ '\\')
    (control : ¬c.toNat < 0x20) :
    readString start (c :: rest) =
      (readString start rest).map fun (text, after) => (c :: text, after) := by
  rw [readString, if_neg control]
  · exact quote
  · exact backslash

theorem readString_escape {c image : Char} (start : ℕ) (short : simpleEscape? c = some image)
    (other : c ≠ 'u') :
    readString start ('\\' :: c :: rest) =
      (readString start rest).map fun (text, after) => (image :: text, after) := by
  rw [readString]
  · simp only [short]
  · rintro a b d e next more rfl
    exact (other rfl).elim
  · rintro rfl
    exact (other rfl).elim

theorem readString_unicode {a b c d next : Char} {unit : ℕ} (start : ℕ)
    (hex : hexUnit? a b c d = some unit) (alone : isHighSurrogate unit = false) :
    readString start ('\\' :: 'u' :: a :: b :: c :: d :: next :: rest) =
      (readString start (next :: rest)).map fun (text, after) =>
        (unitChar unit :: text, after) := by
  rw [readString]
  simp [hex, alone]

theorem hexUnit?_lowerDigits : ∀ n < 0x20,
    hexUnit? (Hex.lowerDigit (n / 16 / 16 / 16 % 16)) (Hex.lowerDigit (n / 16 / 16 % 16))
      (Hex.lowerDigit (n / 16 % 16)) (Hex.lowerDigit (n % 16)) = some n ∧
    isHighSurrogate n = false ∧ unitChar n = Char.ofNat n := by
  decide +kernel

/-- Each character is read back from its image. -/
theorem readString_writeChar (start : ℕ) (c next : Char) :
    readString start (writeChar c ++ next :: rest) =
      (readString start (next :: rest)).map fun (text, after) => (c :: text, after) := by
  unfold writeChar
  -- the characters with a letter of their own behind the backslash
  iterate 7
    split
    · subst c
      exact readString_escape start rfl (by decide)
  rename_i quote backslash _ _ _ _ _
  split
  · rename_i control
    obtain ⟨hex, alone, image⟩ := hexUnit?_lowerDigits c.toNat control
    refine (readString_unicode start hex alone).trans ?_
    rw [image, Char.ofNat_toNat]
  · rename_i control
    exact readString_plain start quote backslash control

/-- A string is read back from its text, with what follows it. -/
theorem readString_write (start : ℕ) (text rest : Text) :
    readString start (text.flatMap writeChar ++ '"' :: rest) = .ok (text, rest) := by
  induction text with
  | nil => simp [readString]
  | cons c text ih =>
    rw [List.flatMap_cons, List.append_assoc]
    obtain ⟨next, more, eq⟩ :
        ∃ next more, text.flatMap writeChar ++ '"' :: rest = next :: more := by
      cases text.flatMap writeChar <;> simp
    rw [eq, readString_writeChar, ← eq, ih]
    rfl

theorem writeString_append_inj {text text' : Text}
    (same : writeString text ++ rest = writeString text' ++ rest') :
    text = text' ∧ rest = rest' := by
  simp only [writeString, List.cons_append, List.append_assoc, List.nil_append] at same
  have read := readString_write 0 text rest
  rw [(List.cons.inj same).2, readString_write] at read
  cases read
  exact ⟨rfl, rfl⟩

/-! ## words and numbers -/

/-- The characters of words and numbers. -/
def isWord (c : Char) : Bool := c.isAlphanum || c = '.' || c = '+' || c = '-'

theorem isWord_of_isDigit {c : Char} (h : c.isDigit = true) : isWord c = true := by
  simp [isWord, Char.isAlphanum, h]

theorem isWord_of_isNumeral {c : Char} (h : Decimal.isNumeral c = true) : isWord c = true := by
  simp only [Decimal.isNumeral, Bool.or_eq_true, decide_eq_true_eq] at h
  obtain (((digit | rfl) | rfl) | rfl) | rfl := h
  · exact isWord_of_isDigit digit
  all_goals decide

theorem isWord_signed {negative : Bool} {text : Text} (h : ∀ c ∈ text, isWord c = true) :
    ∀ c ∈ Binary64.signed negative text, isWord c = true := by
  cases negative with
  | false => exact h
  | true => exact List.forall_mem_cons.2 ⟨by decide, h⟩

theorem isWord_ofInt (n : ℤ) : ∀ c ∈ Text.ofInt n, isWord c = true := by
  have digits (n : ℕ) : ∀ c ∈ Text.ofNat n, isWord c = true :=
    fun c member => isWord_of_isDigit (Text.isDigits_ofNat n c member)
  cases n with
  | ofNat n => exact digits n
  | negSucc n => exact List.forall_mem_cons.2 ⟨by decide, digits (n + 1)⟩

theorem isWord_writeFloat (x : Binary64) : ∀ c ∈ writeFloat x, isWord c = true := by
  cases x with
  | nan => exact List.all_eq_true.1 (by decide)
  | infinity negative => exact isWord_signed (List.all_eq_true.1 (by decide))
  | finite negative magnitude =>
    exact isWord_signed fun c member =>
      isWord_of_isNumeral ((Decimal.isNumeral_text _).plain c member)

theorem signed_inj {a b : Bool} {text text' : Text} (bare : text.head? ≠ some '-')
    (bare' : text'.head? ≠ some '-')
    (same : Binary64.signed a text = Binary64.signed b text') : a = b ∧ text = text' := by
  cases a <;> cases b
  · exact ⟨rfl, same⟩
  · exact (bare (congrArg List.head? same)).elim
  · exact (bare' (congrArg List.head? same).symm).elim
  · exact ⟨rfl, (List.cons.inj same).2⟩

theorem head?_text_ne {c : Char} (h : c.isDigit = false) (d : Decimal) :
    d.text.head? ≠ some c := by
  obtain ⟨first, rest, eq, digit⟩ := (Decimal.isNumeral_text d).first
  rw [eq]
  rintro ⟨⟩
  rw [h] at digit
  cases digit

def isNegative : Binary64 → Bool
  | .nan => false
  | .infinity negative => negative
  | .finite negative _ => negative

/-- The text of a floating-point value without its sign. -/
def writeSize : Binary64 → Text
  | .nan => "NaN".toList
  | .infinity _ => "Infinity".toList
  | .finite _ magnitude => magnitude.shortest.text

theorem writeFloat_eq (x : Binary64) :
    writeFloat x = Binary64.signed (isNegative x) (writeSize x) := by
  cases x <;> rfl

theorem head?_writeSize (x : Binary64) : (writeSize x).head? ≠ some '-' := by
  cases x with
  | nan => decide
  | infinity negative => exact (by decide : "Infinity".toList.head? ≠ some '-')
  | finite negative magnitude => exact head?_text_ne (by decide) _

/-- A floating-point value is determined by its text. -/
theorem writeFloat_injective : Function.Injective writeFloat := by
  have other : "NaN".toList.head? ≠ "Infinity".toList.head? := by decide
  intro x y same
  rw [writeFloat_eq, writeFloat_eq] at same
  obtain ⟨sign, size⟩ := signed_inj (head?_writeSize x) (head?_writeSize y) same
  have first := congrArg List.head? size
  cases x with
  | nan =>
    cases y with
    | nan => rfl
    | infinity b => exact (other first).elim
    | finite b y => exact absurd first.symm (head?_text_ne (by decide) _)
  | infinity a =>
    cases y with
    | nan => exact (other first.symm).elim
    | infinity b => exact congrArg Binary64.infinity sign
    | finite b y => exact absurd first.symm (head?_text_ne (by decide) _)
  | finite a x =>
    cases y with
    | nan => exact absurd first (head?_text_ne (by decide) _)
    | infinity b => exact absurd first (head?_text_ne (by decide) _)
    | finite b y =>
      obtain rfl := Magnitude.shortest_text_injective size
      exact congrArg (Binary64.finite · x) sign

/-! ## values that are one word or number -/

/-- The first character of a value that closes with a mark of its own. -/
def opening : Json → Option Char
  | .str _ => some '"'
  | .arr _ => some '['
  | .obj _ => some '{'
  | _ => none

/-- The characters of integers. -/
def isIntegral (c : Char) : Bool := c.isDigit || c = '-'

/-- The kind of value that a word or number stands for. -/
def wordKind (text : Text) : Kind :=
  if text.all isIntegral then .int
  else if text = "null".toList then .null
  else if text = "true".toList ∨ text = "false".toList then .bool
  else .float

theorem wordKind_ofInt (n : ℤ) : wordKind (Text.ofInt n) = .int := by
  have digits (n : ℕ) : (Text.ofNat n).all isIntegral = true :=
    List.all_eq_true.2 fun c member => by simp [isIntegral, Text.isDigits_ofNat n c member]
  refine if_pos ?_
  cases n with
  | ofNat n => exact digits n
  | negSucc n => exact digits (n + 1)

theorem wordKind_finite (negative : Bool) (magnitude : Magnitude) :
    wordKind (writeFloat (.finite negative magnitude)) = .float := by
  have numeral := Decimal.isNumeral_text magnitude.shortest
  have marked : ¬(writeFloat (.finite negative magnitude)).all isIntegral = true := by
    intro all
    have mem {c : Char} (h : c ∈ magnitude.shortest.text) : isIntegral c = true := by
      refine List.all_eq_true.1 all c ?_
      cases negative with
      | false => exact h
      | true => exact List.mem_cons_of_mem _ h
    obtain point | exponent := numeral.marked
    · exact absurd (mem point) (by decide)
    · exact absurd (mem exponent) (by decide)
  have integral : ∃ c, (writeFloat (.finite negative magnitude)).head? = some c ∧
      isIntegral c = true := by
    cases negative with
    | true => exact ⟨'-', rfl, by decide⟩
    | false =>
      obtain ⟨c, rest, eq, digit⟩ := numeral.first
      exact ⟨c, congrArg List.head? eq, by simp [isIntegral, digit]⟩
  have other {word : Text} (letter : word.head?.all isIntegral = false) :
      writeFloat (.finite negative magnitude) ≠ word := by
    rintro rfl
    obtain ⟨c, head, digit⟩ := integral
    rw [head, Option.all_some, digit] at letter
    cases letter
  rw [wordKind, if_neg marked, if_neg (other (by decide)), if_neg]
  exact not_or.2 ⟨other (by decide), other (by decide)⟩

/-- The text of a word or number tells its kind. -/
theorem wordKind_write {value : Json} (h : value.opening = none) :
    wordKind (write s value) = value.kind := by
  cases value with
  | null => simp only [write]; decide
  | bool b => cases b <;> simp only [write] <;> decide
  | int n => exact wordKind_ofInt n
  | float x =>
    cases x with
    | nan => simp only [write]; decide
    | infinity negative => cases negative <;> simp only [write] <;> decide
    | finite negative magnitude => exact wordKind_finite negative magnitude
  | str text => cases h
  | arr items => cases h
  | obj fields => cases h

theorem isWord_write {value : Json} (h : value.opening = none) :
    ∀ c ∈ write s value, isWord c = true := by
  cases value with
  | null => exact List.all_eq_true.1 (by decide : "null".toList.all isWord = true)
  | bool b =>
    cases b with
    | false => exact List.all_eq_true.1 (by decide : "false".toList.all isWord = true)
    | true => exact List.all_eq_true.1 (by decide : "true".toList.all isWord = true)
  | int n => exact isWord_ofInt n
  | float x => exact isWord_writeFloat x
  | str text => cases h
  | arr items => cases h
  | obj fields => cases h

theorem write_word_inj {a b : Json} (ha : a.opening = none) (hb : b.opening = none)
    (same : write s a = write s b) : a = b := by
  have other : "true".toList ≠ "false".toList := by decide
  have kind : a.kind = b.kind := by rw [← wordKind_write ha, same, wordKind_write hb]
  cases a with
  | null => cases b <;> first | rfl | cases kind
  | bool x =>
    cases b with
    | bool y =>
      cases x <;> cases y
      · rfl
      · exact (other same.symm).elim
      · exact (other same).elim
      · rfl
    | _ => cases kind
  | int m =>
    cases b with
    | int n => exact congrArg int (Text.ofInt_injective same)
    | _ => cases kind
  | float x =>
    cases b with
    | float y => exact congrArg float (writeFloat_injective same)
    | _ => cases kind
  | _ => cases ha

/-! ## all values -/

/-- No word or number goes on in the text. -/
def Ends (text : Text) : Prop := ∀ c, text.head? = some c → isWord c = false

@[simp] theorem ends_nil : Ends [] := nofun

theorem ends_cons {c : Char} {text : Text} (h : isWord c = false) : Ends (c :: text) := by
  rintro _ ⟨⟩
  exact h

theorem word_append_inj {word word' : Text} (inside : ∀ c ∈ word, isWord c = true)
    (inside' : ∀ c ∈ word', isWord c = true) (ends : Ends rest) (ends' : Ends rest')
    (same : word ++ rest = word' ++ rest') : word = word' ∧ rest = rest' := by
  have taken {word rest : Text} (inside : ∀ c ∈ word, isWord c = true) (ends : Ends rest) :
      (word ++ rest).takeWhile isWord = word := by
    rw [List.takeWhile_append_of_pos inside]
    cases rest with
    | nil => simp
    | cons c rest => simp [ends c rfl]
  have words : word = word' := by rw [← taken inside ends, same, taken inside' ends']
  subst words
  exact ⟨rfl, List.append_cancel_left same⟩

@[simp] theorem writeFloat_ne_nil (x : Binary64) : writeFloat x ≠ [] := by
  cases x with
  | nan => decide
  | infinity negative => cases negative <;> decide
  | finite negative magnitude =>
    obtain ⟨c, rest, eq, -⟩ := (Decimal.isNumeral_text magnitude.shortest).first
    cases negative with
    | false => exact fun none => List.cons_ne_nil c rest (eq.symm.trans none)
    | true => exact List.cons_ne_nil _ _

@[simp] theorem write_ne_nil (value : Json) : write s value ≠ [] := by
  cases value with
  | null => simp only [write]; decide
  | bool b => cases b <;> simp only [write] <;> decide
  | int n =>
    cases n with
    | ofNat n => exact Text.ofNat_ne_nil n
    | negSucc n => exact List.cons_ne_nil _ _
  | float x => exact writeFloat_ne_nil x
  | str text => exact List.cons_ne_nil _ _
  | arr items => exact List.cons_ne_nil _ _
  | obj fields => exact List.cons_ne_nil _ _

/-- The first character tells how a value opens. -/
theorem exists_write_eq (value : Json) :
    ∃ c text, write s value = c :: text ∧
      value.opening = if isWord c then none else some c := by
  cases h : value.opening with
  | none =>
    obtain ⟨c, text, eq⟩ := List.exists_cons_of_ne_nil (write_ne_nil (s := s) value)
    have inside := isWord_write (s := s) h c (by simp [eq])
    exact ⟨c, text, eq, by rw [if_pos inside]⟩
  | some mark =>
    cases value with
    | str text => exact ⟨'"', _, rfl, h.symm⟩
    | arr items => exact ⟨'[', _, rfl, h.symm⟩
    | obj fields => exact ⟨'{', _, rfl, h.symm⟩
    | _ => cases h

theorem opening_eq {a b : Json} (same : write s a ++ rest = write s b ++ rest') :
    a.opening = b.opening := by
  obtain ⟨c, text, eq, opens⟩ := exists_write_eq (s := s) a
  obtain ⟨d, other, eq', opens'⟩ := exists_write_eq (s := s) b
  rw [eq, eq'] at same
  rw [opens, opens', (List.cons.inj same).1]

/-- No value starts with what ends an array. -/
theorem write_append_ne (value : Json) : write s value ++ rest ≠ ']' :: rest' := by
  obtain ⟨c, text, eq, opens⟩ := exists_write_eq (s := s) value
  rw [eq]
  rintro same
  obtain rfl := (List.cons.inj same).1
  cases value <;> cases opens

/-! ## arrays and objects -/

/-- What stands between an item and the end of its array. -/
def writeMore (s : Separators) : List Json → Text
  | [] => []
  | items => s.comma ++ writeItems s items

theorem writeItems_cons (item : Json) (items : List Json) :
    writeItems s (item :: items) = write s item ++ writeMore s items := by
  cases items with
  | nil => simp [writeItems, writeMore]
  | cons next items => simp [writeItems, writeMore]

def writeMoreFields (s : Separators) : Fields → Text
  | [] => []
  | fields => s.comma ++ writeFields s fields

theorem writeFields_cons (key : Text) (value : Json) (fields : Fields) :
    writeFields s ((key, value) :: fields) =
      writeString key ++ (s.colon ++ (write s value ++ writeMoreFields s fields)) := by
  cases fields with
  | nil => simp [writeFields, writeMoreFields]
  | cons field fields => simp [writeFields, writeMoreFields]

theorem ends_writeMore (comma : s.HasComma) (items : List Json) :
    Ends (writeMore s items ++ ']' :: rest) := by
  obtain ⟨blanks, eq⟩ := comma
  cases items with
  | nil => exact ends_cons (by decide)
  | cons item items =>
    rw [writeMore, eq]
    · exact ends_cons (by decide)
    · exact List.cons_ne_nil _ _

theorem writeItems_of_writeMore (comma : s.HasComma) {as bs : List Json}
    (same : writeMore s as ++ ']' :: rest = writeMore s bs ++ ']' :: rest') :
    writeItems s as ++ ']' :: rest = writeItems s bs ++ ']' :: rest' := by
  obtain ⟨blanks, eq⟩ := comma
  cases as with
  | nil =>
    cases bs with
    | nil => exact same
    | cons b bs => simp [writeMore, eq] at same
  | cons a as =>
    cases bs with
    | nil => simp [writeMore, eq] at same
    | cons b bs => simpa only [writeMore, List.append_assoc, List.append_cancel_left_eq] using same

theorem ends_writeMoreFields (comma : s.HasComma) (fields : Fields) :
    Ends (writeMoreFields s fields ++ '}' :: rest) := by
  obtain ⟨blanks, eq⟩ := comma
  cases fields with
  | nil => exact ends_cons (by decide)
  | cons field fields =>
    rw [writeMoreFields, eq]
    · exact ends_cons (by decide)
    · exact List.cons_ne_nil _ _

theorem writeFields_of_writeMoreFields (comma : s.HasComma) {as bs : Fields}
    (same : writeMoreFields s as ++ '}' :: rest = writeMoreFields s bs ++ '}' :: rest') :
    writeFields s as ++ '}' :: rest = writeFields s bs ++ '}' :: rest' := by
  obtain ⟨blanks, eq⟩ := comma
  cases as with
  | nil =>
    cases bs with
    | nil => exact same
    | cons b bs => simp [writeMoreFields, eq] at same
  | cons a as =>
    cases bs with
    | nil => simp [writeMoreFields, eq] at same
    | cons b bs =>
      simpa only [writeMoreFields, List.append_assoc, List.append_cancel_left_eq] using same

mutual

/-- A value and what follows are determined by the text. -/
theorem write_append_inj (comma : s.HasComma) (a b : Json) {rest rest' : Text}
    (ends : Ends rest) (ends' : Ends rest') (same : write s a ++ rest = write s b ++ rest') :
    a = b ∧ rest = rest' := by
  have opens := opening_eq same
  cases a with
  | str text =>
    cases b with
    | str text' =>
      obtain ⟨rfl, follows⟩ := writeString_append_inj same
      exact ⟨rfl, follows⟩
    | _ => cases opens
  | arr items =>
    cases b with
    | arr items' =>
      simp only [write, List.cons_append, List.append_assoc, List.nil_append] at same
      obtain ⟨rfl, follows⟩ := writeItems_append_inj comma items items' (List.cons.inj same).2
      exact ⟨rfl, follows⟩
    | _ => cases opens
  | obj fields =>
    cases b with
    | obj fields' =>
      simp only [write, List.cons_append, List.append_assoc, List.nil_append] at same
      obtain ⟨rfl, follows⟩ := writeFields_append_inj comma fields fields' (List.cons.inj same).2
      exact ⟨rfl, follows⟩
    | _ => cases opens
  | _ =>
    obtain ⟨texts, follows⟩ :=
      word_append_inj (isWord_write rfl) (isWord_write opens.symm) ends ends' same
    exact ⟨write_word_inj rfl opens.symm texts, follows⟩

theorem writeItems_append_inj (comma : s.HasComma) (as bs : List Json) {rest rest' : Text}
    (same : writeItems s as ++ ']' :: rest = writeItems s bs ++ ']' :: rest') :
    as = bs ∧ rest = rest' := by
  match as, bs with
  | [], [] => exact ⟨rfl, (List.cons.inj same).2⟩
  | [], b :: bs =>
    rw [writeItems_cons, List.append_assoc] at same
    exact (write_append_ne b same.symm).elim
  | a :: as, [] =>
    rw [writeItems_cons, List.append_assoc] at same
    exact (write_append_ne a same).elim
  | a :: as, b :: bs =>
    rw [writeItems_cons, writeItems_cons, List.append_assoc, List.append_assoc] at same
    obtain ⟨rfl, more⟩ :=
      write_append_inj comma a b (ends_writeMore comma as) (ends_writeMore comma bs) same
    obtain ⟨rfl, follows⟩ := writeItems_append_inj comma as bs (writeItems_of_writeMore comma more)
    exact ⟨rfl, follows⟩

theorem writeFields_append_inj (comma : s.HasComma) (as bs : Fields) {rest rest' : Text}
    (same : writeFields s as ++ '}' :: rest = writeFields s bs ++ '}' :: rest') :
    as = bs ∧ rest = rest' := by
  match as, bs with
  | [], [] => exact ⟨rfl, (List.cons.inj same).2⟩
  | [], (key, b) :: bs =>
    rw [writeFields_cons] at same
    cases (List.cons.inj same).1
  | (key, a) :: as, [] =>
    rw [writeFields_cons] at same
    cases (List.cons.inj same).1
  | (key, a) :: as, (key', b) :: bs =>
    rw [writeFields_cons, writeFields_cons] at same
    simp only [List.append_assoc] at same
    obtain ⟨rfl, colon⟩ := writeString_append_inj same
    obtain ⟨rfl, more⟩ := write_append_inj comma a b (ends_writeMoreFields comma as)
      (ends_writeMoreFields comma bs) (List.append_cancel_left colon)
    obtain ⟨rfl, follows⟩ :=
      writeFields_append_inj comma as bs (writeFields_of_writeMoreFields comma more)
    exact ⟨rfl, follows⟩

end

/-- A value is determined by its text. -/
theorem write_injective (comma : s.HasComma) : Function.Injective (write s) := by
  intro a b same
  have same : write s a ++ [] = write s b ++ [] := by rw [same]
  exact (write_append_inj comma a b ends_nil ends_nil same).1

end Json

end ChatTranscript

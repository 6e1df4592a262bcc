import ChatTranscript.Proofs.Binary64.Reading
import ChatTranscript.Proofs.Json.Readability
import ChatTranscript.Proofs.Text.Places

/-!
# Numbers are read back from their text

A numeral has digits, digits behind a point, and an exponent. The reader takes it apart again
wherever no word or number goes on behind it. The texts of integers and of floating-point values are
numerals, and the number that such a text is read as is the one that it was written for.

## Main definitions

* `Json.Numeral`: the parts of a numeral, and its text.

## Main statements

* `Json.Numeral.readUnsigned_text`: a numeral is taken apart into its parts.
* `Json.readAtom_ofInt`, `Json.readAtom_writeFloat`: integers and floating-point values are read
  back from their text.
-/

namespace ChatTranscript

/-! ## digits -/

namespace Text

theorem head?_ofNat_ne {n : ℕ} (nonzero : n ≠ 0) : (ofNat n).head? ≠ some '0' := by
  induction n using Nat.strong_induction_on with
  | _ n ih =>
    rw [ofNat, Nat.toDigits_eq_if (by decide)]
    split
    · rename_i small
      have digit : ∀ d < 10, d ≠ 0 → d.digitChar ≠ '0' := by decide
      simpa using digit n small nonzero
    · rw [← ofNat, List.head?_append_of_ne_nil _ (ofNat_ne_nil (n / 10))]
      exact ih (n / 10) (by omega) (by omega)

/-- Only zero has the digit zero in front, and no other digit. -/
theorem eq_zero_of_head?_ofNat {n : ℕ} (zero : (ofNat n).head? = some '0') : ofNat n = ['0'] := by
  obtain rfl : n = 0 := by
    by_contra nonzero
    exact head?_ofNat_ne nonzero zero
  rfl

/-- The number that some digits spell has no more digits than these. -/
theorem length_ofNat_le {digits : Text} {count : ℕ} (isDigits : digits.IsDigits)
    (positive : 0 < count) (few : digits.length ≤ count) :
    (ofNat (Nat.ofDigitChars 10 digits 0)).length ≤ count := by
  refine (Nat.length_toDigits_le_iff (by decide) positive).2 ?_
  refine Nat.lt_of_lt_of_le ?_ (Nat.pow_le_pow_right (by decide) few)
  clear few
  induction digits with
  | nil => simp
  | cons c digits ih =>
    obtain ⟨digit, later⟩ := List.forall_mem_cons.1 isDigits
    have small : c.toNat - '0'.toNat ≤ 9 := by
      have high : c.val.toNat ≤ 57 := (Char.isDigit_iff_toNat.1 digit).2
      change c.val.toNat - 48 ≤ 9
      omega
    have most := Nat.mul_le_mul_left (10 ^ digits.length) small
    have less := ih later
    rw [Nat.ofDigitChars_cons, Nat.ofDigitChars_eq_ofDigitChars_zero, List.length_cons,
      Nat.pow_succ, Nat.mul_zero, Nat.zero_add]
    omega

end Text

theorem Decimal.spelledExponent_plus (digits : Text) :
    spelledExponent ('+' :: digits) = Nat.ofDigitChars 10 digits 0 := by
  simp [spelledExponent]

namespace Json

variable {rest : Text} {negative : Bool}

theorem isAsciiDigit_eq (c : Char) : isAsciiDigit c = c.isDigit := by
  simp only [isAsciiDigit, Char.isDigit]
  rfl

/-- No digit goes on in the text. -/
def EndsDigits (text : Text) : Prop := ∀ c, text.head? = some c → c.isDigit = false

theorem Ends.endsDigits (ends : Ends rest) : EndsDigits rest := by
  intro c first
  by_contra digit
  have := ends c first
  rw [isWord_of_isDigit (by simpa using digit)] at this
  cases this

theorem spanWhile_digits {digits : Text} (isDigits : digits.IsDigits) (ends : EndsDigits rest) :
    Text.spanWhile isAsciiDigit (digits ++ rest) = (digits, rest) := by
  have inside : ∀ c ∈ digits, isAsciiDigit c = true := fun c member => by
    rw [isAsciiDigit_eq, isDigits c member]
  exact Text.spanWhile_append inside fun c first => by rw [isAsciiDigit_eq, ends c first]

theorem readWhole_append {digits : Text} (notEmpty : digits ≠ []) (isDigits : digits.IsDigits)
    (leading : digits.head? = some '0' → digits = ['0']) (ends : EndsDigits rest) :
    readWhole (digits ++ rest) = some (digits, rest) := by
  obtain ⟨c, more, rfl⟩ := List.exists_cons_of_ne_nil notEmpty
  by_cases zero : c = '0'
  · rw [leading (by simp [zero])]
    rfl
  · rw [readWhole, spanWhile_digits isDigits ends]
    rintro _ same
    exact zero (List.cons.inj same).1

theorem readFraction_append {fraction : Text} (notEmpty : fraction ≠ [])
    (isDigits : fraction.IsDigits) (ends : EndsDigits rest) :
    readFraction ('.' :: (fraction ++ rest)) = (fraction, rest) := by
  obtain ⟨c, more, rfl⟩ := List.exists_cons_of_ne_nil notEmpty
  rw [readFraction, spanWhile_digits isDigits ends]

theorem readFraction_of_ne (h : rest.head? ≠ some '.') : readFraction rest = ([], rest) := by
  rw [readFraction]
  rintro more rfl
  exact h rfl

/-- The number that the digits of an exponent stand for. -/
def power (negative : Bool) (digits : Text) : ℤ :=
  if negative then -(Nat.ofDigitChars 10 digits 0 : ℤ) else Nat.ofDigitChars 10 digits 0

theorem readExponentDigits_append {digits : Text} (notEmpty : digits ≠ [])
    (isDigits : digits.IsDigits) (ends : EndsDigits rest) :
    readExponentDigits negative (digits ++ rest) = some (power negative digits, rest) := by
  obtain ⟨c, more, rfl⟩ := List.exists_cons_of_ne_nil notEmpty
  rw [readExponentDigits, spanWhile_digits isDigits ends]
  rfl

theorem readExponent_of_ne (small : rest.head? ≠ some 'e') (large : rest.head? ≠ some 'E') :
    readExponent rest = none := by
  fun_cases readExponent rest <;> simp_all

/-! ## numerals -/

/-- The exponent of a numeral, with its sign. -/
def powerText : Option (Bool × Text) → Text
  | none => []
  | some (negative, digits) => 'e' :: (if negative then '-' else '+') :: digits

def pointText : Text → Text
  | [] => []
  | fraction => '.' :: fraction

theorem pointText_eq (fraction : Text) :
    pointText fraction = if fraction.isEmpty then [] else '.' :: fraction := by
  cases fraction <;> rfl

/-- The digits before the point, those behind it, and those of the exponent. -/
structure Numeral where
  whole : Text
  fraction : Text
  exponent : Option (Bool × Text)
  notEmpty : whole ≠ []
  wholeDigits : whole.IsDigits
  leading : whole.head? = some '0' → whole = ['0']
  fractionDigits : fraction.IsDigits
  exponentDigits : ∀ part ∈ exponent, part.2 ≠ [] ∧ Text.IsDigits part.2

namespace Numeral

variable (numeral : Numeral)

def text : Text := numeral.whole ++ pointText numeral.fraction ++ powerText numeral.exponent

def power? : Option ℤ := numeral.exponent.map fun (negative, digits) => power negative digits

def token (negative : Bool) : NumberToken :=
  ⟨negative, numeral.whole, numeral.fraction, numeral.power?⟩

/-- The number that the numeral spells. -/
def decimal : Decimal :=
  ⟨Nat.ofDigitChars 10 (numeral.whole ++ numeral.fraction) 0,
    numeral.power?.getD 0 - numeral.fraction.length⟩

/-- What stands behind the point belongs to no fraction. -/
theorem ends_powerText (ends : Ends rest) :
    EndsDigits (powerText numeral.exponent ++ rest) ∧
      (powerText numeral.exponent ++ rest).head? ≠ some '.' := by
  cases numeral.exponent with
  | none =>
    refine ⟨ends.endsDigits, fun point => ?_⟩
    exact absurd (ends _ point) (by decide)
  | some part =>
    refine ⟨?_, by simp [powerText]⟩
    rintro _ ⟨⟩
    decide

theorem readFraction_text (ends : Ends rest) :
    readFraction (pointText numeral.fraction ++ (powerText numeral.exponent ++ rest)) =
      (numeral.fraction, powerText numeral.exponent ++ rest) := by
  obtain ⟨digits, point⟩ := numeral.ends_powerText ends
  have isDigits := numeral.fractionDigits
  cases fraction : numeral.fraction with
  | nil => exact readFraction_of_ne point
  | cons c more => exact readFraction_append (by simp) (fraction ▸ isDigits) digits

theorem readExponent_text (ends : Ends rest) :
    readExponent (powerText numeral.exponent ++ rest) =
      numeral.exponent.map fun (negative, digits) => (power negative digits, rest) := by
  have parts := numeral.exponentDigits
  cases exponent : numeral.exponent with
  | none =>
    have other {c : Char} (word : isWord c = true) : rest.head? ≠ some c := by
      intro first
      rw [ends c first] at word
      cases word
    exact readExponent_of_ne (other (by decide)) (other (by decide))
  | some part =>
    obtain ⟨negative, digits⟩ := part
    obtain ⟨notEmpty, isDigits⟩ := parts _ exponent
    cases negative <;> exact readExponentDigits_append notEmpty isDigits ends.endsDigits

/-- A numeral is taken apart into its parts. -/
theorem readUnsigned_text (negative : Bool) (ends : Ends rest) :
    readUnsigned negative (numeral.text ++ rest) = some (numeral.token negative, rest) := by
  have point : EndsDigits (pointText numeral.fraction ++ (powerText numeral.exponent ++ rest)) := by
    cases numeral.fraction with
    | nil => exact (numeral.ends_powerText ends).1
    | cons c more =>
      rintro _ ⟨⟩
      decide
  rw [text, List.append_assoc, List.append_assoc, readUnsigned,
    readWhole_append numeral.notEmpty numeral.wholeDigits numeral.leading point, Option.map_some]
  dsimp only
  rw [numeral.readFraction_text ends, numeral.readExponent_text ends, token, power?]
  cases numeral.exponent <;> rfl

theorem exists_text_eq : ∃ c more, numeral.text = c :: more ∧ c.isDigit = true := by
  obtain ⟨c, more, eq⟩ := List.exists_cons_of_ne_nil numeral.notEmpty
  refine ⟨c, more ++ pointText numeral.fraction ++ powerText numeral.exponent,
    by simp [text, eq], ?_⟩
  exact numeral.wholeDigits c (by simp [eq])

theorem readNumber?_text (negative : Bool) (ends : Ends rest) :
    readNumber? (Binary64.signed negative numeral.text ++ rest) =
      some (numeral.token negative, rest) := by
  cases negative with
  | true => exact numeral.readUnsigned_text true ends
  | false =>
    have read := numeral.readUnsigned_text false ends
    obtain ⟨c, more, eq, digit⟩ := numeral.exists_text_eq
    rw [eq] at read
    rw [Binary64.signed, if_neg (by decide), eq, List.cons_append, readNumber?]
    · exact read
    · rintro _ same
      rw [(List.cons.inj same).1] at digit
      cases digit

/-- No word starts like a numeral. -/
theorem findSome?_words (negative : Bool) :
    (words.findSome? fun (word, value) =>
      (word.isPrefixOf? (Binary64.signed negative numeral.text ++ rest)).map (value, ·)) =
        none := by
  obtain ⟨c, more, eq, digit⟩ := numeral.exists_text_eq
  have other (letter : Char) (noDigit : letter.isDigit = false) : (letter == c) = false := by
    rw [beq_eq_false_iff_ne]
    rintro rfl
    rw [noDigit] at digit
    cases digit
  rw [eq]
  cases negative <;>
    simp [words, List.isPrefixOf?, Binary64.signed, other 'n' rfl, other 't' rfl, other 'f' rfl,
      other 'N' rfl, other 'I' rfl, other '-' rfl]

theorem readAtom_text (negative : Bool) (ends : Ends rest) :
    readAtom (Binary64.signed negative numeral.text ++ rest) =
      (numeral.token negative).value.map (·, rest) := by
  rw [readAtom, numeral.findSome?_words negative, numeral.readNumber?_text negative ends]

theorem spelled_text : Decimal.spelled numeral.text = numeral.decimal.value := by
  have pointed : Decimal.IsPointed (pointText numeral.fraction) numeral.fraction := by
    cases numeral.fraction with
    | nil => exact .inr ⟨rfl, rfl⟩
    | cons c more => exact .inl rfl
  have marked :
      powerText numeral.exponent = [] ∨ (powerText numeral.exponent).head? = some 'e' := by
    cases numeral.exponent with
    | none => exact .inl rfl
    | some part => exact .inr rfl
  have spelled : Decimal.spelledExponent ((powerText numeral.exponent).drop 1) =
      numeral.power?.getD 0 := by
    rw [power?]
    match numeral.exponent with
    | none | some (true, digits) => rfl
    | some (false, digits) => exact Decimal.spelledExponent_plus digits
  rw [text, Decimal.spelled_append _ numeral.wholeDigits numeral.fractionDigits pointed marked,
    spelled]
  rfl

/-- What a numeral with a point or an exponent is read as. -/
theorem value_token {x : Magnitude} (negative : Bool)
    (marked : numeral.fraction ≠ [] ∨ numeral.exponent ≠ none)
    (accepts : x.Accepts (4 * Decimal.spelled numeral.text * Magnitude.unitsPerOne)) :
    (numeral.token negative).value = .ok (.float (.finite negative x)) := by
  rw [spelled_text] at accepts
  rw [NumberToken.value, if_neg]
  · exact congrArg (Except.ok ∘ Json.float) (Binary64.ofDecimal_of_accepts negative accepts)
  · simp only [token, power?, Bool.and_eq_true, List.isEmpty_iff, Option.isNone_map,
      Option.isNone_iff_eq_none]
    tauto

end Numeral

/-! ## integers and decimals -/

/-- An integer is a numeral without a point and an exponent. -/
def Numeral.ofNat (n : ℕ) : Numeral where
  whole := Text.ofNat n
  fraction := []
  exponent := none
  notEmpty := Text.ofNat_ne_nil n
  wholeDigits := Text.isDigits_ofNat n
  leading := Text.eq_zero_of_head?_ofNat
  fractionDigits := by simp [Text.IsDigits]
  exponentDigits := by simp

theorem value_ofNat (n : ℕ) (negative : Bool) (short : (Text.ofNat n).length ≤ maxDigits) :
    ((Numeral.ofNat n).token negative).value = .ok (.int (if negative then -n else n)) := by
  simp [NumberToken.value, Numeral.token, Numeral.power?, Numeral.ofNat, Nat.not_lt.2 short,
    Text.ofDigitChars_ofNat]

/-- An integer that is not too long is read back from its text. -/
theorem readAtom_ofInt {n : ℤ} (short : (Text.ofNat n.natAbs).length ≤ maxDigits)
    (ends : Ends rest) : readAtom (Text.ofInt n ++ rest) = .ok (.int n, rest) := by
  have text (n : ℕ) : (Numeral.ofNat n).text = Text.ofNat n := by
    simp [Numeral.text, Numeral.ofNat, pointText, powerText]
  cases n with
  | ofNat n =>
    have read := (Numeral.ofNat n).readAtom_text false ends
    rw [value_ofNat n false short, text] at read
    exact read
  | negSucc n =>
    have read := (Numeral.ofNat (n + 1)).readAtom_text true ends
    rw [value_ofNat (n + 1) true short, text] at read
    exact read

theorem take_one_leading {text : Text} (zero : (text.take 1).head? = some '0') :
    text.take 1 = ['0'] := by
  cases text with
  | nil => cases zero
  | cons c more => simpa using zero

/-- Before a point, a padded number has one zero in front or none. -/
theorem take_ofNatPadded_leading {places n count : ℕ} (behind : 0 < places)
    (before : count + places = (Text.ofNatPadded (places + 1) n).length)
    (zero : ((Text.ofNatPadded (places + 1) n).take count).head? = some '0') :
    (Text.ofNatPadded (places + 1) n).take count = ['0'] := by
  have length : (Text.ofNatPadded (places + 1) n).length =
      places + 1 - (Text.ofNat n).length + (Text.ofNat n).length := by
    simp [Text.ofNatPadded]
  obtain rfl | more : count = 1 ∨ 2 ≤ count := by omega
  · exact take_one_leading zero
  · have unpadded : Text.ofNatPadded (places + 1) n = Text.ofNat n := by
      rw [Text.ofNatPadded, show places + 1 - (Text.ofNat n).length = 0 by omega]
      rfl
    rw [unpadded, List.head?_take, if_neg (by omega)] at zero
    have short := congrArg List.length (Text.eq_zero_of_head?_ofNat zero)
    rw [List.length_singleton] at short
    omega

theorem exists_numeral_positional (d : Decimal) :
    ∃ numeral : Numeral, numeral.text = d.positional ∧ numeral.fraction ≠ [] := by
  obtain ⟨digits, exponent⟩ := d
  cases exponent with
  | ofNat e =>
    refine ⟨⟨Text.ofNat (digits * Nat.pow 10 e), ['0'], none, Text.ofNat_ne_nil _,
      Text.isDigits_ofNat _, Text.eq_zero_of_head?_ofNat, by simp [Text.IsDigits], by simp⟩,
      ?_, by simp⟩
    simp [Numeral.text, pointText, powerText, Decimal.positional]
  | negSucc e =>
    have isDigits := Text.isDigits_ofNatPadded (e + 1 + 1) digits
    have long := Text.le_length_ofNatPadded (e + 1 + 1) digits
    obtain ⟨count, before⟩ :
        ∃ count, count + (e + 1) = (Text.ofNatPadded (e + 1 + 1) digits).length :=
      ⟨(Text.ofNatPadded (e + 1 + 1) digits).length - (e + 1), by omega⟩
    have leading := take_ofNatPadded_leading (Nat.succ_pos e) before
    rw [Decimal.positional]
    dsimp only
    rw [← before, Nat.add_sub_cancel]
    generalize Text.ofNatPadded (e + 1 + 1) digits = text at *
    have behind : text.drop count ≠ [] := by
      rw [ne_eq, List.drop_eq_nil_iff]
      omega
    refine ⟨⟨text.take count, text.drop count, none, ?_, isDigits.take _, leading,
      isDigits.drop _, by simp⟩, ?_, behind⟩
    · rw [ne_eq, List.take_eq_nil_iff, not_or, ← List.length_eq_zero_iff]
      omega
    · rw [Numeral.text, pointText_eq, powerText, if_neg (by simpa using behind)]
      simp

theorem exists_numeral_scientific (d : Decimal) :
    ∃ numeral : Numeral, numeral.text = d.scientific ∧ numeral.exponent ≠ none := by
  have isDigits := Text.isDigits_ofNat d.digits
  have notEmpty := Text.ofNat_ne_nil d.digits
  rw [Decimal.scientific]
  generalize Text.ofNat d.digits = text at isDigits notEmpty ⊢
  generalize d.exponent + text.length - 1 = power
  have exponent : Text.ofNatPadded 2 power.natAbs ≠ [] := by
    have long := Text.le_length_ofNatPadded 2 power.natAbs
    rw [ne_eq, ← List.length_eq_zero_iff]
    omega
  refine ⟨⟨text.take 1, text.drop 1, some (power < 0, Text.ofNatPadded 2 power.natAbs),
    by simpa using notEmpty, isDigits.take 1, take_one_leading, isDigits.drop 1, ?_⟩, ?_, by simp⟩
  · rintro _ ⟨⟩
    exact ⟨exponent, Text.isDigits_ofNatPadded 2 _⟩
  · rw [Numeral.text, pointText_eq, powerText]
    simp

/-- The text of a decimal is a numeral with a point or an exponent. -/
theorem exists_numeral (d : Decimal) :
    ∃ numeral : Numeral, numeral.text = d.text ∧
      (numeral.fraction ≠ [] ∨ numeral.exponent ≠ none) := by
  unfold Decimal.text
  dsimp only
  split
  · obtain ⟨numeral, text, marked⟩ := exists_numeral_positional d
    exact ⟨numeral, text, .inl marked⟩
  · obtain ⟨numeral, text, marked⟩ := exists_numeral_scientific d
    exact ⟨numeral, text, .inr marked⟩

theorem readAtom_writeFloat (x : Binary64) (ends : Ends rest) :
    readAtom (writeFloat x ++ rest) = .ok (.float x, rest) := by
  cases x with
  | nan => simp [readAtom, words, writeFloat, List.isPrefixOf?]
  | infinity negative =>
    cases negative <;> simp [readAtom, words, writeFloat, Binary64.signed, List.isPrefixOf?]
  | finite negative magnitude =>
    obtain ⟨numeral, text, marked⟩ := exists_numeral magnitude.shortest
    have accepts := Magnitude.rounds_iff.1 magnitude.rounds_shortest
    rw [← Decimal.spelled_text, ← text] at accepts
    have read := numeral.readAtom_text negative ends
    rw [numeral.value_token negative marked accepts, text] at read
    exact read

end Json

end ChatTranscript

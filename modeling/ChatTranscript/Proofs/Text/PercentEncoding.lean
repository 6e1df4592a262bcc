import ChatTranscript.Proofs.Text.Utf8
import ChatTranscript.Text.PercentEncoding

/-!
# Components of a URL

An encoded component is made of unreserved characters and escapes alone, so it holds no mark that
separates one part of a URL from the next. Decoding it gives back the text that was encoded.

## Main definitions

* `PercentEncoding.IsComponent`: texts of unreserved characters and escapes.
* `PercentEncoding.encodeExcept`: an encoding that leaves the characters of a kind as they are.

## Main statements

* `PercentEncoding.isComponent_encodeComponent`: what an encoded component is made of.
* `PercentEncoding.decode_encodeExcept`: every text is found again behind its encoding.
-/

namespace ChatTranscript

/-! ## hexadecimal digits -/

namespace Hex

def IsUpperDigit (c : Char) : Prop := ('0' ≤ c ∧ c ≤ '9') ∨ ('A' ≤ c ∧ c ≤ 'F')

instance (c : Char) : Decidable (IsUpperDigit c) :=
  inferInstanceAs (Decidable (('0' ≤ c ∧ c ≤ '9') ∨ ('A' ≤ c ∧ c ≤ 'F')))

theorem isUpperDigit_upperDigit : ∀ d < 16, IsUpperDigit (upperDigit d) := by decide

theorem value?_upperDigit : ∀ d < 16, value? (upperDigit d) = some d := by decide

end Hex

namespace PercentEncoding

open Hex (IsUpperDigit)

/-! ## what a component is made of -/

/-- Unreserved characters, and escapes of two upper-case digits. -/
inductive IsComponent : Text → Prop where
  | nil : IsComponent []
  | plain {c : Char} {rest : Text} :
      isUnreserved c = true → IsComponent rest → IsComponent (c :: rest)
  | escape {high low : Char} {rest : Text} :
      IsUpperDigit high → IsUpperDigit low → IsComponent rest →
      IsComponent ('%' :: high :: low :: rest)

variable {c : Char} {text rest : Text} {pending : List UInt8}

namespace IsComponent

theorem append (h : IsComponent text) (g : IsComponent rest) : IsComponent (text ++ rest) := by
  induction h with
  | nil => exact g
  | plain unreserved _ ih => exact .plain unreserved ih
  | escape first second _ ih => exact .escape first second ih

theorem isUnreserved_of_isUpperDigit (digit : IsUpperDigit c) : isUnreserved c = true := by
  rcases digit with ⟨low, high⟩ | ⟨low, high⟩
  · simp [isUnreserved, low, high]
  · have capital : c ≤ 'Z' := Char.le_trans high (by decide)
    simp [isUnreserved, low, capital]

/-- A mark that is neither unreserved nor the sign of an escape does not occur. -/
theorem not_mem (h : IsComponent text) (reserved : isUnreserved c = false) (noSign : c ≠ '%') :
    c ∉ text := by
  have other {d : Char} (unreserved : isUnreserved d = true) : c ≠ d := by
    rintro rfl
    simp [unreserved] at reserved
  induction h with
  | nil => simp
  | plain unreserved _ ih => simp [other unreserved, ih]
  | escape first second _ ih =>
    simp [noSign, other (isUnreserved_of_isUpperDigit first),
      other (isUnreserved_of_isUpperDigit second), ih]

end IsComponent

theorem isComponent_escapeByte (byte : UInt8) : IsComponent (escapeByte byte) := by
  have small := byte.toNat_lt
  have first := Hex.isUpperDigit_upperDigit (byte.toNat / 16) (by omega)
  have second := Hex.isUpperDigit_upperDigit (byte.toNat % 16) (by omega)
  exact .escape first second .nil

theorem isComponent_encodeChar (c : Char) : IsComponent (encodeChar c) := by
  fun_cases encodeChar c with
  | case1 unreserved => exact .plain unreserved .nil
  | case2 =>
    induction String.utf8EncodeChar c with
    | nil => exact .nil
    | cons byte bytes ih => exact (isComponent_escapeByte byte).append ih

/-- An encoded text is made of unreserved characters and escapes. -/
theorem isComponent_encodeComponent (text : Text) : IsComponent (encodeComponent text) := by
  induction text with
  | nil => exact .nil
  | cons c text ih => exact (isComponent_encodeChar c).append ih

/-- A mark that is unreserved, and no digit of an escape, gets into a component with the text. -/
theorem mem_encodeComponent (unreserved : isUnreserved c = true) (noDigit : ¬ IsUpperDigit c) :
    c ∈ encodeComponent text ↔ c ∈ text := by
  have own {d : Char} : c ∈ encodeChar d ↔ c = d := by
    fun_cases encodeChar d with
    | case1 => exact List.mem_singleton
    | case2 reserved =>
      have other : c ≠ d := by
        rintro rfl
        exact reserved unreserved
      refine iff_of_false ?_ other
      rw [List.mem_flatMap]
      rintro ⟨byte, -, member⟩
      have small := byte.toNat_lt
      have noSign : c ≠ '%' := by
        rintro rfl
        cases unreserved
      have first := Hex.isUpperDigit_upperDigit (byte.toNat / 16) (by omega)
      have second := Hex.isUpperDigit_upperDigit (byte.toNat % 16) (by omega)
      grind [escapeByte]
  simp only [encodeComponent, List.mem_flatMap, own]
  grind

theorem length_le_encodeComponent (text : Text) : text.length ≤ (encodeComponent text).length := by
  induction text with
  | nil => simp
  | cons c text ih =>
    have positive : 0 < (encodeChar c).length := by
      fun_cases encodeChar c
      · simp
      · simp only [List.length_flatMap, escapeByte]
        simp [Char.utf8Size_pos]
    rw [encodeComponent] at ih ⊢
    rw [List.flatMap_cons, List.length_append, List.length_cons]
    omega

/-! ## decoding -/

theorem decodeFrom_escapeByte (byte : UInt8) (rest : Text) :
    decodeFrom pending (escapeByte byte ++ rest) = decodeFrom (byte :: pending) rest := by
  have small := byte.toNat_lt
  have digits : 16 * (byte.toNat / 16) + byte.toNat % 16 = byte.toNat := by omega
  have read : byte? (Hex.upperDigit (byte.toNat / 16)) (Hex.upperDigit (byte.toNat % 16)) =
      some byte := by
    rw [byte?, Hex.value?_upperDigit _ (by omega), Hex.value?_upperDigit _ (by omega)]
    simp [digits]
  simp only [escapeByte, List.cons_append, List.nil_append, decodeFrom, read]

theorem decodeFrom_escapeBytes (bytes : List UInt8) (rest : Text) :
    decodeFrom pending (bytes.flatMap escapeByte ++ rest) =
      decodeFrom (bytes.reverse ++ pending) rest := by
  induction bytes generalizing pending with
  | nil => rfl
  | cons byte bytes ih =>
    rw [List.flatMap_cons, List.append_assoc, decodeFrom_escapeByte, ih, List.reverse_cons,
      List.append_assoc, List.cons_append, List.nil_append]

/-- Unreserved characters are ASCII, and none is layout. -/
theorem toNat_of_isUnreserved (unreserved : isUnreserved c = true) :
    0x20 < c.toNat ∧ c.toNat < 128 := by
  have between {low high : Char} (range : low ≤ c ∧ c ≤ high) (visible : 0x20 < low.toNat)
      (ascii : high.toNat < 128) : 0x20 < c.toNat ∧ c.toNat < 128 :=
    ⟨Nat.lt_of_lt_of_le visible range.1, Nat.lt_of_le_of_lt range.2 ascii⟩
  simp only [isUnreserved, Bool.or_eq_true, Bool.and_eq_true, decide_eq_true_eq] at unreserved
  rcases unreserved with ((small | capital) | digit) | mark
  · exact between small (by decide) (by decide)
  · exact between capital (by decide) (by decide)
  · exact between digit (by decide) (by decide)
  · have marks : ∀ d ∈ "-_.!~*'()".toList, 0x20 < d.toNat ∧ d.toNat < 128 := by simp
    exact marks c (List.contains_iff_mem.1 mark)

/-- An ASCII character that opens no escape stands for its own byte. -/
theorem decodeFrom_ascii (ascii : c.toNat < 128) (noSign : c ≠ '%') (rest : Text) :
    decodeFrom pending (c :: rest) =
      decodeFrom ((String.utf8EncodeChar c).reverse ++ pending) rest := by
  have bytes : String.utf8EncodeChar c = [UInt8.ofNat c.toNat] := by
    unfold String.utf8EncodeChar
    exact if_pos (Nat.le_of_lt_succ ascii)
  rw [decodeFrom, if_pos ascii, bytes]
  · rfl
  · rintro _ _ _ rfl
    exact (noSign rfl).elim

/-- A text in which the characters of a kind stand for themselves, and the bytes of all others are
escaped. -/
def encodeExcept (plain : Char → Bool) (text : Text) : Text :=
  text.flatMap fun c => if plain c then [c] else (String.utf8EncodeChar c).flatMap escapeByte

/-- The characters of a kind can stand for themselves. -/
def Safe (plain : Char → Bool) : Prop := ∀ c, plain c = true → c.toNat < 128 ∧ c ≠ '%'

theorem safe_isUnreserved : Safe isUnreserved := by
  refine fun c unreserved => ⟨(toNat_of_isUnreserved unreserved).2, ?_⟩
  rintro rfl
  cases unreserved

variable {plain : Char → Bool}

theorem decodeFrom_encodeExcept (safe : Safe plain) (text : Text) :
    decodeFrom pending (encodeExcept plain text) =
      Utf8.decodeLossy (pending.reverse ++ Utf8.encode text) := by
  induction text generalizing pending with
  | nil => simp [encodeExcept, decodeFrom, Utf8.encode]
  | cons c text ih =>
    have first (rest : Text) : decodeFrom pending
        ((if plain c then [c] else (String.utf8EncodeChar c).flatMap escapeByte) ++ rest) =
          decodeFrom ((String.utf8EncodeChar c).reverse ++ pending) rest := by
      split
      · obtain ⟨ascii, noSign⟩ := safe c ‹_›
        exact decodeFrom_ascii ascii noSign rest
      · exact decodeFrom_escapeBytes _ rest
    rw [encodeExcept, List.flatMap_cons, first, ← encodeExcept, ih, Utf8.encode, Utf8.encode,
      List.flatMap_cons]
    simp

/-- Every text is found again behind its encoding. -/
theorem decode_encodeExcept (safe : Safe plain) (text : Text) :
    decode (encodeExcept plain text) = text := by
  rw [decode, decodeFrom_encodeExcept safe, List.reverse_nil, List.nil_append,
    Utf8.decodeLossy_encode]

@[simp] theorem decode_encodeComponent (text : Text) : decode (encodeComponent text) = text :=
  decode_encodeExcept safe_isUnreserved text

theorem encodeComponent_injective : Function.Injective encodeComponent :=
  Function.LeftInverse.injective decode_encodeComponent

/-- Nothing gets into an encoded text but plain characters and escapes. -/
theorem mem_encodeExcept (member : c ∈ encodeExcept plain text) :
    plain c = true ∨ c = '%' ∨ IsUpperDigit c := by
  obtain ⟨d, -, member⟩ := List.mem_flatMap.1 member
  split at member
  · obtain rfl := List.mem_singleton.1 member
    exact .inl ‹_›
  · obtain ⟨byte, -, member⟩ := List.mem_flatMap.1 member
    have small := byte.toNat_lt
    have first := Hex.isUpperDigit_upperDigit (byte.toNat / 16) (by omega)
    have second := Hex.isUpperDigit_upperDigit (byte.toNat % 16) (by omega)
    simp only [escapeByte, List.mem_cons, List.not_mem_nil, or_false] at member
    obtain rfl | rfl | rfl := member
    · exact .inr (.inl rfl)
    · exact .inr (.inr first)
    · exact .inr (.inr second)

end PercentEncoding

end ChatTranscript

import ChatTranscript.Text.Utf8
import Mathlib.Data.List.Basic

/-!
# UTF-8 is read back

The bytes of a text are read back as that text, without a fault. A first byte promises as many
bytes as its character has, and the two ranges that are narrower than the others leave out exactly
what no character is written as.

## Main statements

* `Utf8.step_utf8EncodeChar`: the bytes of a character are read as that character.
* `Utf8.decodeLossy_encode`: the bytes of a text are read as that text.
-/

namespace ChatTranscript

namespace Utf8

variable {low high bits width following a b : Nat} {bytes : List UInt8}

/-! ## first bytes -/

theorem lead?_one (small : a < 0x80) : lead? a = some ⟨0, a, 0x80, 0xBF⟩ := by
  unfold lead?
  rw [if_pos small]

theorem lead?_two (long : 2 ≤ a) (small : a < 0x20) :
    lead? (a + 0xC0) = some ⟨1, a, 0x80, 0xBF⟩ := by
  have own : (a + 0xC0) % 0x20 = a := by omega
  unfold lead?
  rw [if_neg (by omega), if_neg (by omega), if_pos (by omega), own]

/-- Of three bytes, the second has a narrower range where the text would be shorter, and where
surrogates are. -/
theorem lead?_three (small : a < 0x10) (second : b < 0x40) (long : a = 0 → 0x20 ≤ b)
    (noSurrogate : a = 0xD → b < 0x20) :
    ∃ low high, lead? (a + 0xE0) = some ⟨2, a, low, high⟩ ∧ low ≤ b + 0x80 ∧ b + 0x80 ≤ high := by
  have own : (a + 0xE0) % 0x10 = a := by omega
  unfold lead?
  rw [if_neg (by omega), if_neg (by omega), if_neg (by omega), own]
  split
  · exact ⟨_, _, rfl, by omega, by omega⟩
  · split
    · exact ⟨_, _, rfl, by omega, by omega⟩
    · rw [if_pos (by omega)]
      exact ⟨_, _, rfl, by omega, by omega⟩

/-- Of four bytes, the second has a narrower range where the text would be shorter, and at the end
of the code points. -/
theorem lead?_four (small : a < 5) (second : b < 0x40) (long : a = 0 → 0x10 ≤ b)
    (ends : a = 4 → b < 0x10) :
    ∃ low high, lead? (a + 0xF0) = some ⟨3, a, low, high⟩ ∧ low ≤ b + 0x80 ∧ b + 0x80 ≤ high := by
  have own : (a + 0xF0) % 0x08 = a := by omega
  unfold lead?
  rw [if_neg (by omega), if_neg (by omega), if_neg (by omega), if_neg (by omega),
    if_neg (by omega), if_neg (by omega), own]
  split
  · exact ⟨_, _, rfl, by omega, by omega⟩
  · split
    · exact ⟨_, _, rfl, by omega, by omega⟩
    · rw [if_pos (by omega)]
      exact ⟨_, _, rfl, by omega, by omega⟩

/-! ## later bytes -/

/-- A later byte in the range adds its six bits. -/
theorem continueWith_byte (small : b < 0x40) (inside : low ≤ b + 0x80 ∧ b + 0x80 ≤ high) :
    continueWith low high bits width (following + 1) (UInt8.ofNat (b + 0x80) :: bytes) =
      continueWith 0x80 0xBF (bits * 0x40 + b) (width + 1) following bytes := by
  have value : (UInt8.ofNat (b + 0x80)).toNat = b + 0x80 :=
    UInt8.toNat_ofNat_of_lt' (show b + 0x80 < 256 by omega)
  have own : (b + 0x80) % 0x40 = b := by omega
  rw [continueWith, value, if_pos inside, own]

/-! ## characters -/

theorem step_of_lead (small : a < 0x100) (promised : lead? a = some ⟨following, bits, low, high⟩)
    (bytes : List UInt8) :
    step (UInt8.ofNat a) bytes = continueWith low high bits 1 following bytes := by
  rw [step, UInt8.toNat_ofNat_of_lt' small, promised]

/-- The step over the bytes of a character reads that character. -/
theorem step_utf8EncodeChar (c : Char) (rest : List UInt8) :
    ∃ byte bytes, String.utf8EncodeChar c = byte :: bytes ∧
      step byte (bytes ++ rest) = ⟨.ok c, bytes.length + 1⟩ := by
  have shown : Char.ofNat c.val.toNat = c := Char.ofNat_toNat c
  have valid : c.val.toNat < 0xD800 ∨ 0xDFFF < c.val.toNat ∧ c.val.toNat < 0x110000 := c.valid
  fun_cases String.utf8EncodeChar c with
  | case1 v one =>
    refine ⟨_, _, rfl, ?_⟩
    rw [step_of_lead (by omega) (lead?_one (by omega)), continueWith, shown]
    rfl
  | case2 v one two =>
    refine ⟨_, _, rfl, ?_⟩
    have whole : v / 64 % 0x20 * 0x40 + v % 0x40 = v := by omega
    rw [step_of_lead (by omega) (lead?_two (by omega) (by omega)), List.cons_append,
      continueWith_byte (by omega) (by omega), continueWith, whole, shown]
    rfl
  | case3 v one two three =>
    refine ⟨_, _, rfl, ?_⟩
    have whole : (v / 4096 % 0x10 * 0x40 + v / 64 % 0x40) * 0x40 + v % 0x40 = v := by omega
    obtain ⟨low, high, promised, inside⟩ :=
      @lead?_three (v / 4096 % 0x10) (v / 64 % 0x40) (by omega) (by omega) (by omega) (by omega)
    rw [step_of_lead (by omega) promised, List.cons_append, List.cons_append,
      continueWith_byte (by omega) inside, continueWith_byte (by omega) (by omega), continueWith,
      whole, shown]
    rfl
  | case4 v one two three =>
    refine ⟨_, _, rfl, ?_⟩
    have whole : ((v / 262144 % 0x08 * 0x40 + v / 4096 % 0x40) * 0x40 + v / 64 % 0x40) * 0x40 +
        v % 0x40 = v := by omega
    obtain ⟨low, high, promised, inside⟩ :=
      @lead?_four (v / 262144 % 0x08) (v / 4096 % 0x40) (by omega) (by omega) (by omega) (by omega)
    rw [step_of_lead (by omega) promised, List.cons_append, List.cons_append, List.cons_append,
      continueWith_byte (by omega) inside, continueWith_byte (by omega) (by omega),
      continueWith_byte (by omega) (by omega), continueWith, whole, shown]
    rfl

/-! ## texts -/

theorem stepsFrom_append (skipped rest : List UInt8) :
    stepsFrom skipped.length (skipped ++ rest) = stepsFrom 0 rest := by
  induction skipped with
  | nil => rfl
  | cons byte skipped ih => exact ih

theorem stepsFrom_utf8EncodeChar (c : Char) (rest : List UInt8) :
    stepsFrom 0 (String.utf8EncodeChar c ++ rest) =
      ⟨.ok c, (String.utf8EncodeChar c).length⟩ :: stepsFrom 0 rest := by
  obtain ⟨byte, bytes, eq, read⟩ := step_utf8EncodeChar c rest
  rw [eq, List.cons_append, stepsFrom, read]
  simp [stepsFrom_append]

/-- The steps over the bytes of a text read its characters, one after the other. -/
theorem stepsFrom_encode (text : Text) :
    stepsFrom 0 (encode text) =
      text.map fun c => ⟨.ok c, (String.utf8EncodeChar c).length⟩ := by
  induction text with
  | nil => rfl
  | cons c text ih =>
    rw [encode, List.flatMap_cons, stepsFrom_utf8EncodeChar, List.map_cons, ← ih, encode]

theorem decodeFrom_ok (all : List UInt8) (position : ℕ) (width : Char → ℕ) (text : Text) :
    decodeFrom all position (text.map fun c => ⟨.ok c, width c⟩) = .ok text := by
  induction text generalizing position with
  | nil => rfl
  | cons c text ih => rw [List.map_cons, decodeFrom, ih, Except.map]

/-- The bytes of a text are read as that text. -/
@[simp, grind =] theorem decode_encode (text : Text) : decode (encode text) = .ok text := by
  rw [decode, stepsFrom_encode]
  exact decodeFrom_ok _ _ _ text

/-- They are read so with nothing replaced. -/
@[simp] theorem decodeLossy_encode (text : Text) : decodeLossy (encode text) = text := by
  rw [decodeLossy, stepsFrom_encode, List.map_map]
  exact List.map_id text

end Utf8

end ChatTranscript

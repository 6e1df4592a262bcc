import ChatTranscript.Binary64.Layout
import ChatTranscript.Proofs.Binary64.Rounding

/-!
# Numbers read back from their text

The text of a decimal spells its value, and the text of a magnitude spells a number that rounds to
it. So a text belongs to one magnitude at most.

## Main definitions

* `Text.IsDigits`: a text of decimal digits only.
* `Decimal.spelled`: the number that digits, a point and an exponent spell.

## Main statements

* `Text.ofInt_injective`: an integer is determined by its text.
* `Decimal.spelled_text`: the text of a decimal spells its value.
* `Magnitude.shortest_text_injective`: a magnitude is determined by its shortest text.
-/

namespace ChatTranscript

namespace Text

/-! ## digits -/

/-- Nothing but decimal digits. -/
def IsDigits (text : Text) : Prop := ∀ c ∈ text, c.isDigit = true

theorem IsDigits.ne {text : Text} {mark : Char} (h : text.IsDigits) (other : mark.isDigit = false) :
    ∀ c ∈ text, (c != mark) = true := by
  intro c member
  rw [bne_iff_ne]
  rintro rfl
  rw [h c member] at other
  cases other

theorem IsDigits.take {text : Text} (h : text.IsDigits) (count : ℕ) :
    IsDigits (text.take count) :=
  fun c member => h c (List.mem_of_mem_take member)

theorem IsDigits.drop {text : Text} (h : text.IsDigits) (count : ℕ) :
    IsDigits (text.drop count) :=
  fun c member => h c (List.mem_of_mem_drop member)

theorem isDigits_ofNat (n : ℕ) : (ofNat n).IsDigits :=
  fun _ member => Nat.isDigit_of_mem_toDigits (by decide) (by decide) member

@[simp] theorem ofDigitChars_ofNat (n : ℕ) : Nat.ofDigitChars 10 (ofNat n) 0 = n :=
  Nat.ofDigitChars_toDigits (by decide) (by decide)

@[simp] theorem ofNat_ne_nil (n : ℕ) : ofNat n ≠ [] := Nat.toDigits_ne_nil

theorem isDigits_ofNatPadded (width n : ℕ) : (ofNatPadded width n).IsDigits := by
  intro c member
  obtain zero | digit := List.mem_append.1 member
  · rw [List.eq_of_mem_replicate zero]
    decide
  · exact isDigits_ofNat n c digit

@[simp] theorem ofDigitChars_ofNatPadded (width n : ℕ) :
    Nat.ofDigitChars 10 (ofNatPadded width n) 0 = n := by
  rw [ofNatPadded, Nat.ofDigitChars_append, Nat.ofDigitChars_replicate_zero, Nat.mul_zero,
    ofDigitChars_ofNat]

theorem le_length_ofNatPadded (width n : ℕ) : width ≤ (ofNatPadded width n).length := by
  rw [ofNatPadded, List.length_append, List.length_replicate]
  omega

theorem ofNat_injective : Function.Injective ofNat := by
  intro m n same
  rw [← ofDigitChars_ofNat m, same, ofDigitChars_ofNat]

/-- An integer is determined by its text. -/
theorem ofInt_injective : Function.Injective ofInt := by
  have signless (m n : ℕ) : ofNat m ≠ '-' :: ofNat (n + 1) := by
    intro same
    have sign : '-' ∈ ofNat m := same ▸ List.mem_cons_self
    exact absurd (isDigits_ofNat m _ sign) (by decide)
  intro m n same
  cases m with
  | ofNat m =>
    cases n with
    | ofNat n => rw [ofNat_injective same]
    | negSucc n => exact (signless m n same).elim
  | negSucc m =>
    cases n with
    | ofNat n => exact (signless n m same.symm).elim
    | negSucc n =>
      have := ofNat_injective (List.cons.inj same).2
      rw [Nat.succ.inj this]

end Text

namespace Decimal

/-! ## numerals -/

def spelledExponent : Text → ℤ
  | [] => 0
  | '-' :: digits => -Nat.ofDigitChars 10 digits 0
  | _ :: digits => Nat.ofDigitChars 10 digits 0

/-- The number that digits, a point with digits and an exponent spell; the last two may miss. -/
def spelled (text : Text) : ℚ :=
  let mantissa := text.takeWhile (· != 'e')
  let whole := mantissa.takeWhile (· != '.')
  let fraction := (mantissa.dropWhile (· != '.')).drop 1
  let power := spelledExponent ((text.dropWhile (· != 'e')).drop 1)
  Nat.ofDigitChars 10 (whole ++ fraction) 0 * 10 ^ (power - fraction.length)

/-- How the point and the digits after it stand in a text. -/
def IsPointed (point fraction : Text) : Prop :=
  point = '.' :: fraction ∨ point = [] ∧ fraction = []

theorem spelled_append {whole point fraction : Text} (tail : Text)
    (wholeDigits : whole.IsDigits) (fractionDigits : fraction.IsDigits)
    (pointed : IsPointed point fraction) (exponent : tail = [] ∨ tail.head? = some 'e') :
    spelled (whole ++ point ++ tail) =
      Nat.ofDigitChars 10 (whole ++ fraction) 0 *
        10 ^ (spelledExponent (tail.drop 1) - fraction.length) := by
  have inside : ∀ c ∈ whole ++ point, (c != 'e') = true := by
    obtain rfl | ⟨rfl, -⟩ := pointed
    · simpa [or_imp, forall_and] using
        And.intro (wholeDigits.ne (by decide)) (fractionDigits.ne (by decide))
    · simpa using wholeDigits.ne (by decide)
  have ends : tail.takeWhile (· != 'e') = [] ∧ tail.dropWhile (· != 'e') = tail := by
    obtain rfl | head := exponent
    · exact ⟨rfl, rfl⟩
    · cases tail <;> simp_all
  have cut : (whole ++ point).takeWhile (· != '.') = whole ∧
      ((whole ++ point).dropWhile (· != '.')).drop 1 = fraction := by
    have before := wholeDigits.ne (by decide : '.'.isDigit = false)
    rw [List.takeWhile_append_of_pos before, List.dropWhile_append_of_pos before]
    obtain rfl | ⟨rfl, rfl⟩ := pointed <;> simp
  unfold spelled
  dsimp only
  rw [List.takeWhile_append_of_pos inside, List.dropWhile_append_of_pos inside, ends.1, ends.2,
    List.append_nil, cut.1, cut.2]

theorem spelled_positional (d : Decimal) : spelled d.positional = d.value := by
  obtain ⟨digits, exponent⟩ := d
  cases exponent with
  | ofNat e =>
    have zero : Text.IsDigits ['0'] := by simp [Text.IsDigits]
    have parts := spelled_append [] (Text.isDigits_ofNat (digits * Nat.pow 10 e)) zero
      (.inl rfl) (.inl rfl)
    rw [List.append_nil, Nat.ofDigitChars_append, Text.ofDigitChars_ofNat] at parts
    refine parts.trans ?_
    simp [Nat.ofDigitChars_cons, spelledExponent, value]
    ring
  | negSucc e =>
    have isDigits := Text.isDigits_ofNatPadded (e + 1 + 1) digits
    have spells := Text.ofDigitChars_ofNatPadded (e + 1 + 1) digits
    have long := Text.le_length_ofNatPadded (e + 1 + 1) digits
    unfold positional
    dsimp only
    generalize Text.ofNatPadded (e + 1 + 1) digits = text at isDigits spells long ⊢
    have places : text.length - (text.length - (e + 1)) = e + 1 := by omega
    have parts := spelled_append [] (isDigits.take (text.length - (e + 1)))
      (isDigits.drop (text.length - (e + 1))) (.inl rfl) (.inl rfl)
    rw [List.append_nil, List.take_append_drop, spells, List.length_drop, places] at parts
    refine parts.trans ?_
    rw [value, Int.negSucc_eq]
    simp [spelledExponent]

theorem spelledExponent_cons (power : ℤ) (width : ℕ) :
    spelledExponent ((if power < 0 then '-' else '+') :: Text.ofNatPadded width power.natAbs) =
      power := by
  split
  · rw [spelledExponent, Text.ofDigitChars_ofNatPadded]
    omega
  · rw [spelledExponent, Text.ofDigitChars_ofNatPadded]
    · omega
    · decide

theorem spelled_scientific (d : Decimal) : spelled d.scientific = d.value := by
  have isDigits := Text.isDigits_ofNat d.digits
  have spells := Text.ofDigitChars_ofNat d.digits
  have some : 0 < (Text.ofNat d.digits).length := List.length_pos_of_ne_nil (Text.ofNat_ne_nil _)
  unfold scientific
  dsimp only
  generalize Text.ofNat d.digits = text at isDigits spells some ⊢
  have pointed : IsPointed (if (text.drop 1).isEmpty then [] else '.' :: text.drop 1)
      (text.drop 1) := by
    split
    · rename_i none
      exact .inr ⟨rfl, List.isEmpty_iff.1 none⟩
    · exact .inl rfl
  rw [spelled_append _ (isDigits.take 1) (isDigits.drop 1) pointed (.inr rfl),
    List.take_append_drop, spells, List.drop_one, List.tail_cons, spelledExponent_cons,
    List.length_drop, value]
  congr 2
  omega

/-- The text of a decimal spells its value. -/
theorem spelled_text (d : Decimal) : spelled d.text = d.value := by
  unfold text
  dsimp only
  split
  · exact spelled_positional d
  · exact spelled_scientific d

/-! ## the characters of numerals -/

/-- A digit, a point, an exponent mark or a sign. -/
def isNumeral (c : Char) : Bool := c.isDigit || c = '.' || c = 'e' || c = '+' || c = '-'

theorem isNumeral_of_isDigits {text : Text} (h : text.IsDigits) : ∀ c ∈ text, isNumeral c = true :=
  fun c member => by simp [isNumeral, h c member]

/-- A numeral starts with a digit and has a point or an exponent, which no integer has. -/
structure IsNumeral (text : Text) : Prop where
  plain : ∀ c ∈ text, isNumeral c = true
  first : ∃ c rest, text = c :: rest ∧ c.isDigit = true
  marked : '.' ∈ text ∨ 'e' ∈ text

theorem isNumeral_append {whole tail : Text} {mark : Char} (notEmpty : whole ≠ [])
    (wholeDigits : whole.IsDigits) (marked : mark = '.' ∨ mark = 'e')
    (plain : ∀ c ∈ tail, isNumeral c = true) : IsNumeral (whole ++ mark :: tail) where
  plain := by
    have ofMark : isNumeral mark = true := by obtain rfl | rfl := marked <;> decide
    intro c member
    obtain digit | later := List.mem_append.1 member
    · exact isNumeral_of_isDigits wholeDigits c digit
    · obtain rfl | later := List.mem_cons.1 later
      · exact ofMark
      · exact plain c later
  first := by
    obtain ⟨c, rest, rfl⟩ := List.exists_cons_of_ne_nil notEmpty
    exact ⟨c, rest ++ mark :: tail, rfl, wholeDigits c List.mem_cons_self⟩
  marked := by obtain rfl | rfl := marked <;> simp

theorem isNumeral_positional (d : Decimal) : IsNumeral d.positional := by
  obtain ⟨digits, exponent⟩ := d
  cases exponent with
  | ofNat e =>
    exact isNumeral_append (Text.ofNat_ne_nil _) (Text.isDigits_ofNat _) (.inl rfl)
      (List.all_eq_true.1 (by decide))
  | negSucc e =>
    have isDigits := Text.isDigits_ofNatPadded (e + 1 + 1) digits
    have long := Text.le_length_ofNatPadded (e + 1 + 1) digits
    unfold positional
    dsimp only
    generalize Text.ofNatPadded (e + 1 + 1) digits = text at isDigits long ⊢
    refine isNumeral_append ?_ (isDigits.take _) (.inl rfl)
      (isNumeral_of_isDigits (isDigits.drop _))
    rw [ne_eq, List.take_eq_nil_iff, not_or, ← List.length_eq_zero_iff]
    omega

theorem isNumeral_scientific (d : Decimal) : IsNumeral d.scientific := by
  have isDigits := Text.isDigits_ofNat d.digits
  have notEmpty := Text.ofNat_ne_nil d.digits
  unfold scientific
  dsimp only
  generalize Text.ofNat d.digits = text at isDigits notEmpty ⊢
  generalize d.exponent + text.length - 1 = power
  have fraction := isNumeral_of_isDigits (isDigits.drop 1)
  have exponent : ∀ c ∈ (if power < 0 then '-' else '+') :: Text.ofNatPadded 2 power.natAbs,
      isNumeral c = true := by
    refine List.forall_mem_cons.2 ⟨?_, isNumeral_of_isDigits (Text.isDigits_ofNatPadded _ _)⟩
    split <;> decide
  have first : text.take 1 ≠ [] := by simpa using notEmpty
  split
  · rw [List.append_nil]
    exact isNumeral_append first (isDigits.take 1) (.inr rfl) exponent
  · rw [List.append_assoc, List.cons_append]
    refine isNumeral_append first (isDigits.take 1) (.inl rfl) fun c member => ?_
    obtain inside | later := List.mem_append.1 member
    · exact fraction c inside
    · exact (List.forall_mem_cons (p := (isNumeral · = true))).2 ⟨by decide, exponent⟩ c later

theorem isNumeral_text (d : Decimal) : IsNumeral d.text := by
  unfold text
  dsimp only
  split
  · exact isNumeral_positional d
  · exact isNumeral_scientific d

end Decimal

/-- A magnitude is determined by its shortest text. -/
theorem Magnitude.shortest_text_injective {x y : Magnitude}
    (same : x.shortest.text = y.shortest.text) : x = y := by
  have value : x.shortest.value = y.shortest.value := by
    rw [← Decimal.spelled_text, same, Decimal.spelled_text]
  have h := rounds_iff.1 x.rounds_shortest
  have g := rounds_iff.1 y.rounds_shortest
  rw [← value] at g
  exact accepts_unique h g

end ChatTranscript

import ChatTranscript.Proofs.Binary64.Rounding

/-!
# Reading numbers

The magnitude nearest to a quotient is the one that accepts it, if there is one. So a decimal is
read as the value that it rounds to.

## Main statements

* `Magnitude.nearest_of_accepts`: the nearest magnitude is the one that accepts the number.
* `Binary64.ofDecimal_of_accepts`: a decimal that a magnitude accepts is read as that magnitude.
-/

namespace ChatTranscript

/-! ## division -/

/-- A rounded quotient is off by at most a half, and by less if it is odd. -/
theorem roundDiv_near (num : ℕ) {den : ℕ} (positive : 0 < den) :
    2 * (roundDiv num den * den) ≤ 2 * num + den ∧ 2 * num ≤ 2 * (roundDiv num den * den) + den ∧
      (roundDiv num den % 2 = 1 → 2 * (roundDiv num den * den) < 2 * num + den ∧
        2 * num < 2 * (roundDiv num den * den) + den) := by
  have parts : num / den * den + num % den = num := Nat.div_add_mod' num den
  have small := Nat.mod_lt num positive
  have next : (num / den + 1) * den = num / den * den + den := Nat.succ_mul _ _
  unfold roundDiv
  dsimp only
  split
  · omega
  · split
    · omega
    · split <;> omega

namespace Magnitude

variable {x y : Magnitude} {q : ℚ} {num den : ℕ}

/-! ## the nearest magnitude -/

/-- The scale that leaves 53 bits of the quotient, or the least one if it has no more. -/
def scaleOf (num den : ℕ) : ℕ := (num / den).log2 - 52

theorem lt_scaleOf (num : ℕ) {den : ℕ} (positive : 0 < den) :
    num < 9007199254740992 * (den * Nat.pow 2 (scaleOf num den)) := by
  have quotient : num / den < 9007199254740992 * Nat.pow 2 (scaleOf num den) := by
    refine Nat.lt_log2_self.trans_le (?_ : _ ≤ 2 ^ 53 * 2 ^ scaleOf num den)
    rw [← Nat.pow_add]
    exact Nat.pow_le_pow_right (by decide) (by unfold scaleOf; omega)
  calc
    num < 9007199254740992 * Nat.pow 2 (scaleOf num den) * den :=
      (Nat.div_lt_iff_lt_mul positive).1 quotient
    _ = 9007199254740992 * (den * Nat.pow 2 (scaleOf num den)) := by ring

theorem scaleOf_le (positive : 0 < den) (scale : scaleOf num den ≠ 0) :
    4503599627370496 * (den * Nat.pow 2 (scaleOf num den)) ≤ num := by
  have nonzero : num / den ≠ 0 := by
    intro zero
    exact scale (by simp [scaleOf, zero])
  have quotient : 4503599627370496 * Nat.pow 2 (scaleOf num den) ≤ num / den := by
    refine le_trans (?_ : 2 ^ 52 * 2 ^ scaleOf num den ≤ _) (Nat.log2_self_le nonzero)
    rw [← Nat.pow_add]
    exact Nat.pow_le_pow_right (by decide) (by unfold scaleOf at scale ⊢; omega)
  calc
    4503599627370496 * (den * Nat.pow 2 (scaleOf num den)) =
        4503599627370496 * Nat.pow 2 (scaleOf num den) * den := by ring
    _ ≤ num := (Nat.le_div_iff_mul_le positive).1 quotient

theorem ofParts?_eq {significand scale : ℕ} (h : ofParts? significand scale = some y) :
    y.significand = significand ∧ y.scale = scale := by
  unfold ofParts? at h
  split at h
  · cases h
    exact ⟨rfl, rfl⟩
  · cases h

theorem accepts_div_iff (positive : 0 < den) :
    x.Accepts (4 * (num / den)) ↔
      if x.significand % 2 = 0 then x.bounds.1 * den ≤ 4 * num ∧ 4 * num ≤ x.bounds.2 * den
      else x.bounds.1 * den < 4 * num ∧ 4 * num < x.bounds.2 * den := by
  have positive : (0 : ℚ) < den := by exact_mod_cast positive
  have le (a : ℕ) : (a : ℚ) ≤ 4 * (num / den) ↔ a * den ≤ 4 * num := by
    rw [← mul_div_assoc, le_div_iff₀ positive]
    exact_mod_cast Iff.rfl
  have ge (a : ℕ) : 4 * (num / den) ≤ (a : ℚ) ↔ 4 * num ≤ a * den := by
    rw [← mul_div_assoc, div_le_iff₀ positive]
    exact_mod_cast Iff.rfl
  unfold Accepts
  split
  · rw [le, ge]
  · rw [← not_le, ← not_le, ge, le, not_le, not_le]

/-- The nearest magnitude has the rounded quotient for its significand, or it is the power of two
that the quotient is rounded up to. -/
theorem nearest_cases (h : nearest num den = some y) :
    (roundDiv num (den * Nat.pow 2 (scaleOf num den)) = 9007199254740992 ∧
      y.significand = 4503599627370496 ∧ y.scale = scaleOf num den + 1) ∨
    (y.significand = roundDiv num (den * Nat.pow 2 (scaleOf num den)) ∧
      y.scale = scaleOf num den) := by
  unfold nearest at h
  dsimp only at h
  split at h
  · rename_i full
    obtain ⟨significand, scale⟩ := ofParts?_eq h
    exact .inl ⟨full, significand, scale⟩
  · exact .inr (ofParts?_eq h)

theorem high_mul (x : Magnitude) (den : ℕ) :
    x.bounds.2 * den = 4 * (x.units * den) + 2 * (x.step * den) := by
  rw [bounds_eq]
  ring

theorem low_mul (nonzero : x.significand ≠ 0) (den : ℕ) :
    x.bounds.1 * den + x.below * den = 4 * (x.units * den) := by
  rw [← Nat.add_mul, low_add_below nonzero, Nat.mul_assoc]

/-- The nearest magnitude accepts the quotient. -/
theorem accepts_of_nearest (positive : 0 < den) (h : nearest num den = some y) :
    y.Accepts (4 * (num / den)) := by
  have above := lt_scaleOf num positive
  have below := @scaleOf_le num den positive
  have wide : 0 < den * Nat.pow 2 (scaleOf num den) :=
    Nat.mul_pos positive (Nat.pow_pos (by decide))
  obtain ⟨low, high, odd⟩ := roundDiv_near num wide
  have units : y.units * den = y.significand * (y.step * den) := Nat.mul_assoc _ _ _
  have greatest := y.high_mul den
  rw [accepts_div_iff positive]
  obtain ⟨full, significand, scale⟩ | ⟨significand, scale⟩ := nearest_cases h
  · -- the quotient is rounded up to the next power of two, from below it
    have least := low_mul (by rw [significand]; decide) den
    have half : y.below = y.step := if_pos ⟨significand, by omega⟩
    have step : y.step * den = 2 * (den * Nat.pow 2 (scaleOf num den)) := by
      rw [step, scale, Nat.pow_eq, Nat.pow_eq, Nat.pow_succ]
      ring
    rw [if_pos (by rw [significand])]
    rw [full] at low
    rw [significand] at units
    rw [half] at least
    omega
  · have step : y.step * den = den * Nat.pow 2 (scaleOf num den) := by
      rw [step, scale, Nat.mul_comm]
    generalize den * Nat.pow 2 (scaleOf num den) = unit at *
    rw [significand, step] at units
    by_cases zero : y.significand = 0
    · have : y.bounds.1 = 0 := by simp [bounds_eq, Magnitude.units, zero]
      rw [if_pos (by rw [zero]), this]
      omega
    · have least := low_mul zero den
      by_cases edge : y.significand = Nat.pow 2 52 ∧ y.scale ≠ 0
      · have half : y.below = y.step := if_pos edge
        have below := below (scale ▸ edge.2)
        have first : roundDiv num unit = 4503599627370496 := significand ▸ edge.1
        rw [if_pos (by rw [edge.1])]
        rw [half] at least
        rw [first] at units high
        omega
      · have whole : y.below * den = 2 * unit := by
          rw [Magnitude.below, if_neg edge, Nat.mul_assoc, step]
        split <;> omega

/-- What a magnitude accepts stays below the middle between the greatest magnitude of its scale and
the next power of two. -/
theorem Accepts.lt_top {top : ℕ} (h : x.Accepts q) (scale : x.scale ≤ top) :
    q < 36028797018963966 * Nat.pow 2 top := by
  have step : x.step ≤ Nat.pow 2 top := Nat.pow_le_pow_right (by decide) scale
  have positive := x.step_pos
  have digits : x.significand < 9007199254740992 := x.significand_lt
  have high : x.bounds.2 = (4 * x.significand + 2) * x.step := by
    rw [bounds_eq, show x.units = x.significand * x.step from rfl]
    ring
  -- the greatest significand is odd, so its upper bound is not accepted
  by_cases last : x.significand = 9007199254740991
  · have below := h.lt_high (by rw [last])
    have bound : x.bounds.2 ≤ 36028797018963966 * Nat.pow 2 top := by
      rw [high, last]
      omega
    exact below.trans_le (by exact_mod_cast bound)
  · have bound : x.bounds.2 < 36028797018963966 * Nat.pow 2 top := by
      rw [high]
      calc
        (4 * x.significand + 2) * x.step ≤ 36028797018963962 * x.step :=
          Nat.mul_le_mul_right _ (by omega)
        _ < 36028797018963966 * Nat.pow 2 top := by omega
    exact h.le_high.trans_lt (by exact_mod_cast bound)

theorem ofParts?_isSome {significand scale : ℕ} (digits : significand < Nat.pow 2 53)
    (leading : Nat.pow 2 52 ≤ significand ∨ scale = 0) (top : scale ≤ 2045) :
    ∃ y, ofParts? significand scale = some y :=
  ⟨_, dif_pos ⟨digits, leading, top⟩⟩

/-- A quotient that some magnitude accepts is not beyond the greatest. -/
theorem nearest_isSome (positive : 0 < den) (h : x.Accepts (4 * (num / den))) :
    ∃ y, nearest num den = some y := by
  have above := lt_scaleOf num positive
  have below := @scaleOf_le num den positive
  have wide : 0 < den * Nat.pow 2 (scaleOf num den) :=
    Nat.mul_pos positive (Nat.pow_pos (by decide))
  obtain ⟨low, high, -⟩ := roundDiv_near num wide
  obtain ⟨top, greatest⟩ : ∃ top, top = 2045 := ⟨_, rfl⟩
  have bound : 4 * num < 36028797018963966 * (den * Nat.pow 2 top) := by
    have bound := h.lt_top (greatest ▸ x.scale_le)
    rw [← mul_div_assoc, div_lt_iff₀ (by exact_mod_cast positive)] at bound
    have : 4 * num < 36028797018963966 * Nat.pow 2 top * den := by exact_mod_cast bound
    linarith
  have scale : scaleOf num den ≤ top := by
    by_contra more
    have wider : Nat.pow 2 (top + 1) ≤ Nat.pow 2 (scaleOf num den) :=
      Nat.pow_le_pow_right (by decide) (by omega)
    have wider : den * (2 * Nat.pow 2 top) ≤ den * Nat.pow 2 (scaleOf num den) := by
      refine Nat.mul_le_mul_left den (le_trans (le_of_eq ?_) wider)
      rw [Nat.pow_eq, Nat.pow_eq, Nat.pow_succ, Nat.mul_comm]
    rw [Nat.mul_left_comm] at wider
    have := below (by omega)
    omega
  unfold nearest
  dsimp only
  rw [show (num / den).log2 - 52 = scaleOf num den from rfl]
  split
  · rename_i full
    refine ofParts?_isSome (by decide) (.inl le_rfl) ?_
    by_contra more
    have full : roundDiv num (den * Nat.pow 2 (scaleOf num den)) = 9007199254740992 := full
    obtain same : scaleOf num den = top := by omega
    rw [full, same] at low
    omega
  · rename_i part
    have part : roundDiv num (den * Nat.pow 2 (scaleOf num den)) ≠ 9007199254740992 := part
    generalize den * Nat.pow 2 (scaleOf num den) = unit at *
    refine ofParts?_isSome ?_ ?_ (greatest ▸ scale)
    · have : roundDiv num unit * unit < 9007199254740993 * unit := by omega
      have := Nat.lt_of_mul_lt_mul_right this
      show _ < 9007199254740992
      omega
    · by_cases least : scaleOf num den = 0
      · exact .inr least
      · have := below least
        have : 4503599627370495 * unit < roundDiv num unit * unit := by omega
        have := Nat.lt_of_mul_lt_mul_right this
        exact .inl (show 4503599627370496 ≤ _ by omega)

theorem nearest_of_accepts (positive : 0 < den) (h : x.Accepts (4 * (num / den))) :
    nearest num den = some x := by
  obtain ⟨y, found⟩ := nearest_isSome positive h
  rw [found, accepts_unique h (accepts_of_nearest positive found)]

/-! ## decimals -/

theorem accepts_zero (nonneg : 0 ≤ q) (small : q ≤ 2) : zero.Accepts q := by
  refine (if_pos (by decide) : zero.Accepts q = _).mpr ⟨?_, ?_⟩
  · simpa [bounds_eq, units, zero] using nonneg
  · simpa [bounds_eq, units, step, zero] using small

theorem lt_pow_length (digits : ℕ) :
    (digits : ℚ) < 10 ^ ((Nat.toDigits 10 digits).length : ℤ) := by
  have lt : digits < 10 ^ (Nat.toDigits 10 digits).length :=
    (Nat.length_toDigits_le_iff (by decide) Nat.length_toDigits_pos).1 le_rfl
  exact_mod_cast lt

theorem zpow_neg_mul_le {places one a b : ℕ} (h : a * one ≤ b * Nat.pow 10 places) :
    a * ((10 : ℚ) ^ (-(places : ℤ)) * one) ≤ b := by
  have spacing : (0 : ℚ) < 10 ^ places := by positivity
  rw [zpow_neg, zpow_natCast, inv_mul_eq_div, ← mul_div_assoc, div_le_iff₀ spacing]
  exact_mod_cast h

/-- A decimal whose first digit is too far behind the point is accepted by zero. -/
theorem accepts_zero_of_reach {digits : ℕ} {exponent : ℤ}
    (reach : digits = 0 ∨ exponent + (Nat.toDigits 10 digits).length ≤ -324) :
    zero.Accepts (4 * (Decimal.mk digits exponent).value * unitsPerOne) := by
  have positive := unitsPerOne_pos
  -- the least value is more than `2 · 10 ^ -324`
  have least := zpow_neg_mul_le (show 4 * unitsPerOne ≤ 2 * Nat.pow 10 324 by decide +kernel)
  generalize (unitsPerOne : ℚ) = one at positive least ⊢
  generalize places : 324 = bound at least
  have spacing : (0 : ℚ) < 10 ^ exponent := by positivity
  refine accepts_zero (by unfold Decimal.value; positivity) ?_
  obtain rfl | reach := reach
  · simp [Decimal.value]
  · have value : (Decimal.mk digits exponent).value ≤ 10 ^ (-(bound : ℤ)) := by
      calc
        digits * (10 : ℚ) ^ exponent ≤
            10 ^ ((Nat.toDigits 10 digits).length : ℤ) * 10 ^ exponent :=
          mul_le_mul_of_nonneg_right (lt_pow_length digits).le spacing.le
        _ = 10 ^ (exponent + (Nat.toDigits 10 digits).length) := by
          rw [← zpow_add₀ (by norm_num), Int.add_comm]
        _ ≤ 10 ^ (-(bound : ℤ)) := zpow_le_zpow_right₀ (by norm_num) (by omega)
    have scaled := mul_le_mul_of_nonneg_right value positive.le
    push_cast at least
    linarith

/-- A decimal whose first digit is too far before the point is accepted by none. -/
theorem not_accepts_of_reach {digits : ℕ} {exponent : ℤ} (nonzero : digits ≠ 0)
    (reach : 310 ≤ exponent + (Nat.toDigits 10 digits).length) :
    ¬ x.Accepts (4 * (Decimal.mk digits exponent).value * unitsPerOne) := by
  intro accepts
  have positive := unitsPerOne_pos
  -- the greatest value is less than `10 ^ 309`
  obtain ⟨top, bound, scale, places, greatest⟩ : ∃ top bound : ℕ, top = 2045 ∧ bound = 309 ∧
      36028797018963966 * Nat.pow 2 top ≤ 4 * Nat.pow 10 bound * unitsPerOne :=
    ⟨_, _, rfl, rfl, by decide +kernel⟩
  have greatest :
      36028797018963966 * (Nat.pow 2 top : ℚ) ≤ 4 * 10 ^ (bound : ℤ) * unitsPerOne := by
    exact_mod_cast greatest
  have below := accepts.lt_top (scale ▸ x.scale_le)
  generalize (unitsPerOne : ℚ) = one at positive greatest below
  have spacing : (0 : ℚ) < 10 ^ exponent := by positivity
  have value : (10 : ℚ) ^ (bound : ℤ) ≤ (Decimal.mk digits exponent).value := by
    calc
      (10 : ℚ) ^ (bound : ℤ) ≤ 10 ^ (((Nat.toDigits 10 digits).length : ℤ) - 1 + exponent) :=
        zpow_le_zpow_right₀ (by norm_num) (by omega)
      _ = 10 ^ (((Nat.toDigits 10 digits).length : ℤ) - 1) * 10 ^ exponent :=
        zpow_add₀ (by norm_num) _ _
      _ ≤ digits * 10 ^ exponent :=
        mul_le_mul_of_nonneg_right (pow_length_le (Nat.pos_of_ne_zero nonzero)) spacing.le
  have := mul_le_mul_of_nonneg_right value positive.le
  linarith

end Magnitude

namespace Binary64

variable {x : Magnitude} {num den digits : ℕ} {exponent : ℤ}

theorem ofUnits_eq (negative : Bool) (h : Magnitude.nearest num den = some x) :
    ofUnits negative num den = .finite negative x := by
  unfold ofUnits
  rw [h]

/-- A decimal is read as the value that it rounds to. -/
theorem ofDecimal_of_accepts (negative : Bool)
    (h : x.Accepts (4 * (Decimal.mk digits exponent).value * Magnitude.unitsPerOne)) :
    ofDecimal negative digits exponent = .finite negative x := by
  unfold ofDecimal
  dsimp only
  split
  · rename_i reach
    rw [Magnitude.accepts_unique h (Magnitude.accepts_zero_of_reach reach)]
  · rename_i visible
    rw [not_or] at visible
    split
    · rename_i reach
      exact absurd h (Magnitude.not_accepts_of_reach visible.1 reach)
    · obtain ⟨positive, value⟩ := (Decimal.mk digits exponent).ratio_value
      have nonzero : ((Decimal.mk digits exponent).ratio.2 : ℚ) ≠ 0 :=
        Nat.cast_ne_zero.2 positive.ne'
      rw [eq_div_of_mul_eq nonzero value, mul_assoc, div_mul_eq_mul_div, ← Nat.cast_mul] at h
      have nearest := Magnitude.nearest_of_accepts positive h
      generalize Magnitude.unitsPerOne = one at nearest ⊢
      cases exponent <;> exact ofUnits_eq negative nearest

end Binary64

end ChatTranscript

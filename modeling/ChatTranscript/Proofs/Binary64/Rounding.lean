import ChatTranscript.Binary64.Shortest
import Mathlib.Algebra.Order.Field.Power
import Mathlib.Algebra.Order.Floor.Semifield
import Mathlib.Data.Nat.Cast.Order.Field
import Mathlib.Data.Rat.Floor
import Mathlib.Tactic.FieldSimp
import Mathlib.Tactic.Linarith
import Mathlib.Tactic.Positivity
import Mathlib.Tactic.Ring

/-!
# The numbers that round to a magnitude

A decimal is a rational number, and a magnitude accepts the numbers of an interval. The intervals of
two magnitudes have no number in common, and the shortest decimal of a magnitude lies in its own.

## Main definitions

* `Decimal.value`: a decimal as a rational number.
* `Magnitude.Accepts`: the numbers that round to a magnitude.

## Main statements

* `Magnitude.accepts_unique`: a number rounds to one magnitude at most.
* `Magnitude.rounds_shortest`: the shortest decimal of a magnitude rounds to it.
-/

namespace ChatTranscript

namespace Decimal

/-- The number `digits · 10 ^ exponent`. -/
def value (d : Decimal) : ℚ := d.digits * 10 ^ d.exponent

theorem ratio_value (d : Decimal) : 0 < d.ratio.2 ∧ d.value * d.ratio.2 = d.ratio.1 := by
  obtain ⟨digits, exponent⟩ := d
  cases exponent with
  | ofNat e => simp [ratio, value]
  | negSucc e =>
    refine ⟨Nat.pow_pos (by decide), ?_⟩
    simp [ratio, value, zpow_negSucc]

/-- Zeros at the end are taken into the exponent. -/
theorem value_dropZeros (count : Nat) (d : Decimal) : (dropZeros count d).value = d.value := by
  induction count generalizing d with
  | zero => rfl
  | succ count ih =>
    rw [dropZeros]
    split
    · rename_i ends
      have digits : d.digits = d.digits / 10 * 10 := by omega
      rw [ih, value, value, zpow_add_one₀ (by norm_num)]
      conv_rhs => rw [digits]
      push_cast
      ring
    · rfl

end Decimal

namespace Magnitude

variable {x y : Magnitude} {d : Decimal} {q : ℚ}

/-! ## intervals -/

/-- The number, in quarters of a unit, rounds to `x`. -/
def Accepts (x : Magnitude) (q : ℚ) : Prop :=
  if x.significand % 2 = 0 then x.bounds.1 ≤ q ∧ q ≤ x.bounds.2
  else x.bounds.1 < q ∧ q < x.bounds.2

theorem Accepts.low_le (h : x.Accepts q) : x.bounds.1 ≤ q := by
  unfold Accepts at h
  split at h
  · exact h.1
  · exact h.1.le

theorem Accepts.le_high (h : x.Accepts q) : q ≤ x.bounds.2 := by
  unfold Accepts at h
  split at h
  · exact h.2
  · exact h.2.le

theorem Accepts.low_lt (h : x.Accepts q) (odd : x.significand % 2 = 1) : x.bounds.1 < q := by
  rw [Accepts, if_neg (by omega)] at h
  exact h.1

theorem Accepts.lt_high (h : x.Accepts q) (odd : x.significand % 2 = 1) : q < x.bounds.2 := by
  rw [Accepts, if_neg (by omega)] at h
  exact h.2

theorem accepts_of_lt (low : x.bounds.1 < q) (high : q < x.bounds.2) : x.Accepts q := by
  unfold Accepts
  split
  · exact ⟨low.le, high.le⟩
  · exact ⟨low, high⟩

theorem rounds_iff : x.rounds d = true ↔ x.Accepts (4 * d.value * unitsPerOne) := by
  obtain ⟨positive, value⟩ := d.ratio_value
  have positive : (0 : ℚ) < d.ratio.2 := by exact_mod_cast positive
  have quarters : ((4 * d.ratio.1 * unitsPerOne : ℕ) : ℚ) =
      4 * d.value * unitsPerOne * d.ratio.2 := by
    push_cast
    rw [← value]
    ring
  have le (a : ℕ) : a * d.ratio.2 ≤ 4 * d.ratio.1 * unitsPerOne ↔
      (a : ℚ) ≤ 4 * d.value * unitsPerOne := by
    rw [← Nat.cast_le (α := ℚ), quarters, Nat.cast_mul, mul_le_mul_iff_left₀ positive]
  have ge (a : ℕ) : 4 * d.ratio.1 * unitsPerOne ≤ a * d.ratio.2 ↔
      4 * d.value * unitsPerOne ≤ (a : ℚ) := by
    rw [← Nat.cast_le (α := ℚ), quarters, Nat.cast_mul, mul_le_mul_iff_left₀ positive]
  unfold rounds Accepts
  dsimp only
  split
  · rw [Bool.and_eq_true, decide_eq_true_eq, decide_eq_true_eq, le, ge]
  · simp only [Bool.and_eq_true, decide_eq_true_eq, ← not_le, le, ge]

/-- Magnitudes in order: by their scale, and at one scale by their significand. -/
def Before (x y : Magnitude) : Prop :=
  x.scale < y.scale ∨ x.scale = y.scale ∧ x.significand < y.significand

theorem before_or_eq_or_before (x y : Magnitude) : x.Before y ∨ x = y ∨ y.Before x := by
  unfold Before
  rcases Nat.lt_trichotomy x.scale y.scale with scale | scale | scale
  · exact .inl (.inl scale)
  · rcases Nat.lt_trichotomy x.significand y.significand with digits | digits | digits
    · exact .inl (.inr ⟨scale, digits⟩)
    · refine .inr (.inl ?_)
      cases x
      cases y
      simp_all
    · exact .inr (.inr (.inr ⟨scale.symm, digits⟩))
  · exact .inr (.inr (.inl scale))

/-- The distance to the next magnitude, in units. -/
def step (x : Magnitude) : ℕ := Nat.pow 2 x.scale

/-- Half the distance to the magnitude before, in quarters of a unit. -/
def below (x : Magnitude) : ℕ :=
  if x.significand = Nat.pow 2 52 ∧ x.scale ≠ 0 then x.step else 2 * x.step

theorem bounds_eq (x : Magnitude) :
    x.bounds = (4 * x.units - x.below, 4 * x.units + 2 * x.step) := rfl

theorem step_pos (x : Magnitude) : 0 < x.step := Nat.pow_pos (by decide)

theorem below_le (x : Magnitude) : x.below ≤ 2 * x.step := by
  unfold below
  split <;> omega

theorem step_le_units (nonzero : x.significand ≠ 0) : x.step ≤ x.units :=
  Nat.le_mul_of_pos_left _ (Nat.pos_of_ne_zero nonzero)

theorem low_add_below (nonzero : x.significand ≠ 0) : x.bounds.1 + x.below = 4 * x.units := by
  have units := step_le_units nonzero
  have below := x.below_le
  rw [bounds_eq]
  dsimp only
  omega

/-- At the same scale, the intervals of two neighbours touch. -/
theorem high_le_of_significand_lt (scale : x.scale = y.scale)
    (digits : x.significand < y.significand) :
    x.bounds.2 + y.below ≤ 4 * y.units ∧
      (x.bounds.2 + y.below = 4 * y.units → y.significand = x.significand + 1) := by
  obtain ⟨t, next⟩ := Nat.exists_eq_add_of_lt digits
  have same : x.step = y.step := by rw [step, step, scale]
  have units : y.units = x.units + t * y.step + y.step := by
    rw [show y.units = y.significand * y.step from rfl, next, ← same,
      show x.units = x.significand * x.step from rfl]
    ring
  have below := y.below_le
  have positive := y.step_pos
  rw [bounds_eq, units, same]
  dsimp only
  refine ⟨by omega, fun ends => ?_⟩
  have none : t * y.step = 0 := by omega
  have : t = 0 := by simpa [positive.ne'] using none
  omega

/-- From one scale to another, the greatest interval of the one touches the least of the other. -/
theorem high_le_of_scale_lt (scale : x.scale < y.scale) :
    x.bounds.2 + y.below ≤ 4 * y.units ∧
      (x.bounds.2 + y.below = 4 * y.units → x.significand = 9007199254740991) := by
  -- the ends of the range of a significand are `2 ^ 53` and, above the least scale, `2 ^ 52`
  have room : x.significand < 9007199254740992 := x.significand_lt
  have leading : 4503599627370496 ≤ y.significand :=
    y.leading.resolve_right (Nat.ne_of_gt (Nat.zero_lt_of_lt scale))
  obtain ⟨v, full⟩ := Nat.exists_eq_add_of_lt room
  obtain ⟨u, further⟩ := Nat.exists_eq_add_of_le leading
  obtain ⟨j, far⟩ := Nat.exists_eq_add_of_lt scale
  have wider : y.step = 2 * (Nat.pow 2 j * x.step) := by
    rw [step, step, far]
    simp only [Nat.pow_eq]
    ring
  have positive := x.step_pos
  have least : x.step ≤ Nat.pow 2 j * x.step :=
    Nat.le_mul_of_pos_left _ (Nat.pow_pos (by decide))
  generalize Nat.pow 2 j * x.step = w at wider least
  -- the significands leave `v` and `u` to the ends of their ranges
  have short : x.units + v * x.step + x.step = 9007199254740992 * x.step := by
    rw [show x.units = x.significand * x.step from rfl, full]
    ring
  have long : y.units = 9007199254740992 * w + 2 * (u * w) := by
    rw [show y.units = y.significand * y.step from rfl, further, wider]
    ring
  have gap : y.below ≤ 2 * w + 8 * (u * w) := by
    unfold below
    split
    · omega
    · rename_i inner
      have some : u ≠ 0 := by
        rintro rfl
        exact inner ⟨further, Nat.ne_of_gt (Nat.zero_lt_of_lt scale)⟩
      have : w ≤ u * w := Nat.le_mul_of_pos_left w (Nat.pos_of_ne_zero some)
      omega
  rw [bounds_eq, long]
  dsimp only
  have unused : v * x.step = 0 → v = 0 := by simp [positive.ne']
  generalize v * x.step = left at short unused
  generalize u * w = more at gap
  refine ⟨by linarith, fun ends => ?_⟩
  have := unused (by linarith)
  omega

/-- What two intervals in order have in common is at most an end, and one of the two magnitudes
does not accept its ends. -/
theorem Before.bounds_le (before : x.Before y) : x.bounds.2 ≤ y.bounds.1 ∧
    (x.bounds.2 = y.bounds.1 → x.significand % 2 = 1 ∨ y.significand % 2 = 1) := by
  have nonzero : y.significand ≠ 0 := by
    obtain scale | ⟨-, digits⟩ := before
    · have leading : Nat.pow 2 52 ≤ y.significand :=
        y.leading.resolve_right (Nat.ne_of_gt (Nat.zero_lt_of_lt scale))
      exact Nat.ne_of_gt (Nat.lt_of_lt_of_le (by decide) leading)
    · exact Nat.ne_of_gt (Nat.zero_lt_of_lt digits)
  have low := low_add_below nonzero
  obtain scale | ⟨scale, digits⟩ := before
  · obtain ⟨le, ends⟩ := high_le_of_scale_lt scale
    refine ⟨by omega, fun eq => .inl ?_⟩
    rw [ends (by omega)]
  · obtain ⟨le, ends⟩ := high_le_of_significand_lt scale digits
    refine ⟨by omega, fun eq => ?_⟩
    have next := ends (by omega)
    omega

/-- A number rounds to one magnitude at most. -/
theorem accepts_unique (h : x.Accepts q) (g : y.Accepts q) : x = y := by
  have disjoint {x y : Magnitude} (before : x.Before y) (h : x.Accepts q) (g : y.Accepts q) :
      False := by
    obtain ⟨le, ends⟩ := before.bounds_le
    have le : (x.bounds.2 : ℚ) ≤ y.bounds.1 := by exact_mod_cast le
    have above := h.le_high
    have under := g.low_le
    have same : x.bounds.2 = y.bounds.1 := by
      exact_mod_cast le.antisymm (under.trans above)
    obtain odd | odd := ends same
    · exact absurd (h.lt_high odd) (by linarith)
    · exact absurd (g.low_lt odd) (by linarith)
  obtain before | rfl | before := x.before_or_eq_or_before y
  · exact (disjoint before h g).elim
  · rfl
  · exact (disjoint before g h).elim

/-! ## grids of decimals -/

/-- The number in ones. -/
def value (x : Magnitude) : ℚ := x.units / unitsPerOne

theorem unitsPerOne_pos : (0 : ℚ) < unitsPerOne := by
  have : 0 < unitsPerOne := by decide +kernel
  exact_mod_cast this

theorem value_mul_unitsPerOne (x : Magnitude) : x.value * unitsPerOne = x.units :=
  div_mul_cancel₀ _ unitsPerOne_pos.ne'

theorem floor_digits (x : Magnitude) (exponent : ℤ) :
    (x.floor exponent).digits = ⌊x.value / 10 ^ exponent⌋₊ := by
  cases exponent with
  | ofNat e =>
    rw [floor, value, div_div, ← Nat.floor_div_eq_div (K := ℚ)]
    generalize unitsPerOne = units
    simp
  | negSucc e =>
    rw [floor, value, ← Nat.floor_div_eq_div (K := ℚ), zpow_negSucc, div_inv_eq_mul,
      div_mul_eq_mul_div]
    generalize unitsPerOne = units
    simp

@[simp] theorem floor_exponent (x : Magnitude) (exponent : ℤ) :
    (x.floor exponent).exponent = exponent := by
  cases exponent <;> rfl

/-- The value lies between a grid point and the next. -/
theorem floor_le_value (x : Magnitude) (exponent : ℤ) : (x.floor exponent).value ≤ x.value := by
  have spacing : (0 : ℚ) < 10 ^ exponent := by positivity
  have below := Nat.floor_le (a := x.value / 10 ^ exponent)
    (div_nonneg (div_nonneg (Nat.cast_nonneg _) unitsPerOne_pos.le) spacing.le)
  rw [le_div_iff₀ spacing, ← floor_digits] at below
  rwa [Decimal.value, floor_exponent]

theorem value_lt_floor_add (x : Magnitude) (exponent : ℤ) :
    x.value < (Decimal.mk ((x.floor exponent).digits + 1) exponent).value := by
  have spacing : (0 : ℚ) < 10 ^ exponent := by positivity
  have above := Nat.lt_floor_add_one (x.value / 10 ^ exponent)
  rw [div_lt_iff₀ spacing, ← floor_digits] at above
  simpa [Decimal.value] using above

theorem onGrid?_rounds {exponent : ℤ} (h : x.onGrid? exponent = some d) : x.rounds d = true := by
  unfold onGrid? at h
  dsimp only at h
  split at h
  · rename_i low high
    obtain rfl := Option.some.inj h
    unfold nearer
    dsimp only
    rw [floor_exponent]
    split
    · exact low
    · split
      · exact high
      · split
        · exact low
        · exact high
  · rename_i low _
    exact Option.some.inj h ▸ low
  · rename_i _ high
    exact Option.some.inj h ▸ high
  · cases h

theorem not_rounds_of_onGrid?_eq_none {exponent : ℤ} (h : x.onGrid? exponent = none) :
    ¬x.rounds (x.floor exponent) = true ∧
      ¬x.rounds ⟨(x.floor exponent).digits + 1, exponent⟩ = true := by
  unfold onGrid? at h
  dsimp only at h
  split at h
  · cases h
  · cases h
  · cases h
  · rename_i low high
    simp [low, high]

/-- A grid finer than the interval has a point in it next to the value. -/
theorem onGrid?_isSome {exponent : ℤ} (nonzero : x.significand ≠ 0)
    (fine : 4 * 10 ^ exponent * unitsPerOne < (x.below + 2 * x.step : ℚ)) :
    ∃ d, x.onGrid? exponent = some d := by
  have low := x.floor_le_value exponent
  have high := x.value_lt_floor_add exponent
  have next : (Decimal.mk ((x.floor exponent).digits + 1) exponent).value =
      (x.floor exponent).value + 10 ^ exponent := by
    rw [Decimal.value, Decimal.value, floor_exponent]
    push_cast
    ring
  rw [← mul_lt_mul_iff_left₀ unitsPerOne_pos, value_mul_unitsPerOne] at high
  rw [← mul_le_mul_iff_left₀ unitsPerOne_pos, value_mul_unitsPerOne] at low
  have least : (x.bounds.1 : ℚ) + x.below = 4 * x.units := by exact_mod_cast low_add_below nonzero
  have greatest : (x.bounds.2 : ℚ) = 4 * x.units + 2 * x.step := by
    exact_mod_cast congrArg Prod.snd x.bounds_eq
  have step : (0 : ℚ) < x.step := by exact_mod_cast x.step_pos
  have below : (0 : ℚ) ≤ x.below := Nat.cast_nonneg _
  rcases found : x.onGrid? exponent with - | d
  · obtain ⟨lowFails, highFails⟩ := not_rounds_of_onGrid?_eq_none found
    -- neither neighbour is inside, so they are further apart than the bounds
    have under : 4 * (x.floor exponent).value * unitsPerOne ≤ x.bounds.1 := by
      by_contra inside
      exact lowFails (rounds_iff.2 (accepts_of_lt (by linarith) (by linarith)))
    have above : (x.bounds.2 : ℚ) ≤
        4 * (Decimal.mk ((x.floor exponent).digits + 1) exponent).value * unitsPerOne := by
      by_contra inside
      exact highFails (rounds_iff.2 (accepts_of_lt (by linarith) (by linarith)))
    rw [next] at above
    linarith
  · exact ⟨d, rfl⟩

theorem firstGrid_rounds {exponent : ℤ} {tries k : ℕ} (h : x.onGrid? (exponent - k) = some d)
    (enough : k < tries) : x.rounds (x.firstGrid exponent tries) = true := by
  induction tries generalizing exponent k with
  | zero => omega
  | succ tries ih =>
    rw [firstGrid]
    cases found : x.onGrid? exponent with
    | some first => exact onGrid?_rounds found
    | none =>
      cases k with
      | zero => simp [found] at h
      | succ k =>
        refine ih (k := k) ?_ (by omega)
        rwa [show exponent - 1 - k = exponent - (k + 1 : ℕ) by push_cast; ring]

theorem pow_length_le {n : ℕ} (positive : 0 < n) :
    (10 : ℚ) ^ (((Nat.toDigits 10 n).length : ℤ) - 1) ≤ n := by
  have some : 0 < (Nat.toDigits 10 n).length := Nat.length_toDigits_pos
  obtain ⟨k, length⟩ := Nat.exists_eq_add_of_lt some
  have least : 10 ^ k ≤ n := by
    by_contra lt
    cases k with
    | zero => omega
    | succ k =>
      have short := (Nat.length_toDigits_le_iff (by decide) (Nat.succ_pos k)).2 (not_le.1 lt)
      omega
  rw [length]
  push_cast
  simpa using (by exact_mod_cast least : (10 : ℚ) ^ k ≤ n)

theorem pow_length_sub_le {num den k : ℕ} (positive : 0 < num * Nat.pow 10 k / den) :
    (10 : ℚ) ^ (((Nat.toDigits 10 (num * Nat.pow 10 k / den)).length : ℤ) - (k + 1 : ℕ)) ≤
      num / den := by
  have shifted := (pow_length_le positive).trans Nat.cast_div_le
  generalize ((Nat.toDigits 10 (num * Nat.pow 10 k / den)).length : ℤ) = length at shifted ⊢
  rw [show length - 1 = length - (k + 1 : ℕ) + k by push_cast; ring, zpow_add₀ (by norm_num),
    zpow_natCast, Nat.cast_mul, Nat.pow_eq, Nat.cast_pow, mul_div_right_comm] at shifted
  exact le_of_mul_le_mul_right shifted (by positivity)

theorem unitsPerOne_le : unitsPerOne ≤ Nat.pow 10 400 := by
  have exponents : 1074 ≤ 3 * 400 := by decide
  unfold unitsPerOne
  -- the powers themselves are too large to be looked at
  generalize 1074 = m, 400 = n at exponents ⊢
  calc
    2 ^ m ≤ 2 ^ (3 * n) := Nat.pow_le_pow_right (by decide) exponents
    _ = (2 ^ 3) ^ n := pow_mul 2 3 n
    _ ≤ 10 ^ n := Nat.pow_le_pow_left (by decide) n

theorem pow_place_le (nonzero : x.significand ≠ 0) : 10 ^ x.place ≤ x.value := by
  have units : 0 < x.units := x.step_pos.trans_le (step_le_units nonzero)
  have one : 0 < unitsPerOne := by decide +kernel
  unfold place
  split
  · rename_i large
    exact (pow_length_le (Nat.div_pos large one)).trans Nat.cast_div_le
  · have enough := unitsPerOne_le
    have shift : (401 : ℤ) = (400 + 1 : ℕ) := rfl
    rw [shift]
    generalize 400 = k at enough ⊢
    exact pow_length_sub_le
      (Nat.div_pos (enough.trans (Nat.le_mul_of_pos_left _ units)) one)

/-- The seventeenth grid is finer than the interval: a significand has fewer than `2 ^ 53` steps,
and half of them at the edge of a scale. -/
theorem grid_fine (nonzero : x.significand ≠ 0) :
    4 * 10 ^ (x.place - 16) * unitsPerOne < (x.below + 2 * x.step : ℚ) := by
  have place := pow_place_le nonzero
  rw [← mul_le_mul_iff_left₀ unitsPerOne_pos, value_mul_unitsPerOne] at place
  have units : (x.units : ℚ) = x.significand * x.step := Nat.cast_mul _ _
  have step : (0 : ℚ) < x.step := by exact_mod_cast x.step_pos
  rw [zpow_sub₀ (by norm_num)]
  generalize (unitsPerOne : ℚ) = one at place ⊢
  by_cases edge : x.significand = Nat.pow 2 52 ∧ x.scale ≠ 0
  · rw [below, if_pos edge]
    have most : (x.significand : ℚ) = 4503599627370496 := by exact_mod_cast edge.1
    rw [units, most] at place
    norm_num
    linarith
  · rw [below, if_neg edge]
    have most : (x.significand : ℚ) * x.step ≤ 9007199254740992 * x.step :=
      mul_le_mul_of_nonneg_right (by exact_mod_cast x.significand_lt.le) step.le
    rw [units] at place
    push_cast
    linarith

/-- The shortest decimal of a magnitude rounds to it. -/
theorem rounds_shortest (x : Magnitude) : x.rounds x.shortest = true := by
  unfold shortest
  split
  · rename_i zero
    have units : x.units = 0 := by rw [Magnitude.units, zero, Nat.zero_mul]
    rw [rounds_iff, Accepts, if_pos (by rw [zero]), bounds_eq, units]
    generalize (unitsPerOne : ℚ) = one
    simp [Decimal.value]
  · rename_i nonzero
    rw [rounds_iff, Decimal.value_dropZeros, ← rounds_iff]
    obtain ⟨d, found⟩ := onGrid?_isSome nonzero (grid_fine nonzero)
    exact firstGrid_rounds (k := 16) found (by decide)

end Magnitude

end ChatTranscript

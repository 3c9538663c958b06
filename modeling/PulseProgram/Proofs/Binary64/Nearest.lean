import PulseProgram.Proofs.Binary64.Whole

/-!
# How far rounding moves a number

The nearest natural number lies within a half, so a rounded rational lies within half of
its last place. That is a fraction of the rational of at most two to the minus 53rd, or,
among the smallest places, a fixed distance. In the range the same holds of the results of
arithmetic.
-/

namespace PulseProgram

/-- The nearest natural number lies within a half of the fraction. In a tie it lies a half away on
either side, so the parity that decides it adds nothing or one and does no harm. -/
theorem nearestEven_near (numerator : Nat) {denominator : Nat} (positive : 0 < denominator) :
    |(nearestEven numerator denominator : ℚ) - (numerator : ℚ) / denominator| ≤ 1 / 2 := by
  have split := Nat.div_add_mod numerator denominator
  have rest := Nat.mod_lt numerator positive
  have distance : 2 * (nearestEven numerator denominator * denominator) ≤
        2 * numerator + denominator ∧
      2 * numerator ≤ 2 * (nearestEven numerator denominator * denominator) + denominator := by
    simp only [nearestEven]
    generalize numerator / denominator = whole at *
    generalize numerator % denominator = excess at *
    rw [Nat.mul_comm] at split
    split_ifs with low high
    · omega
    · rw [Nat.add_mul]
      omega
    · have parity : whole % 2 = 0 ∨ whole % 2 = 1 := Nat.mod_two_eq_zero_or_one whole
      rcases parity with even | odd
      · rw [even, Nat.add_zero]
        omega
      · rw [odd, Nat.add_mul]
        omega
  have size : (0 : ℚ) < denominator := by exact_mod_cast positive
  have above : (2 * (nearestEven numerator denominator * denominator) : ℚ) ≤
      2 * numerator + denominator := by exact_mod_cast distance.1
  have below : (2 * numerator : ℚ) ≤
      2 * (nearestEven numerator denominator * denominator) + denominator := by
    exact_mod_cast distance.2
  have scaled : ((nearestEven numerator denominator : ℚ) - (numerator : ℚ) / denominator) =
      (nearestEven numerator denominator * denominator - numerator) / denominator := by
    field_simp
  rw [scaled, abs_div, abs_of_pos size, div_le_iff₀ size, abs_le]
  constructor <;> linarith

/-- The natural number nearest to a rational lies within a half of it. -/
theorem roundEven_near {value : ℚ} (nonnegative : 0 ≤ value) :
    |(roundEven value : ℚ) - value| ≤ 1 / 2 := by
  have near := nearestEven_near value.num.natAbs (Rat.den_pos value)
  have terms : ((value.num.natAbs : ℕ) : ℚ) / value.den = value := by
    rw [Nat.cast_natAbs, abs_of_nonneg (Rat.num_nonneg.mpr nonnegative)]
    exact Rat.num_div_den value
  rwa [terms] at near

/-- A rounded magnitude lies within half of the last place, since the significand lies within a half
of the exact multiple of it. -/
theorem roundedMagnitude_near {value : ℚ} (nonnegative : 0 ≤ value) :
    |roundedMagnitude value - value| ≤ 2 ^ lastPlace value / 2 := by
  have place : (0 : ℚ) < 2 ^ lastPlace value := by positivity
  have near : |(roundEven (value / 2 ^ lastPlace value) : ℚ) - value / 2 ^ lastPlace value| ≤
      1 / 2 := roundEven_near (by positivity)
  have scaled : roundedMagnitude value - value =
      (roundEven (value / 2 ^ lastPlace value) - value / 2 ^ lastPlace value) *
        2 ^ lastPlace value := by
    rw [roundedMagnitude, sub_mul, div_mul_cancel₀ _ place.ne']
  rw [scaled, abs_mul, abs_of_pos place]
  calc |(roundEven (value / 2 ^ lastPlace value) : ℚ) - value / 2 ^ lastPlace value| *
        2 ^ lastPlace value
      ≤ 1 / 2 * 2 ^ lastPlace value := by gcongr
    _ = 2 ^ lastPlace value / 2 := by ring

/-- The most that rounding moves a magnitude: the relative error of 53 bits, or half of the
smallest place. -/
def roundingError (magnitude : ℚ) : ℚ := max (2 ^ (-1075 : ℤ)) (2 ^ (-53 : ℤ) * magnitude)

/-- The rounding error in terms of round figures. -/
theorem roundingError_le {magnitude : ℚ} (nonnegative : 0 ≤ magnitude) :
    roundingError magnitude ≤ 1 / 10 ^ 30 + magnitude / 2 ^ 53 := by
  have tiny : (2 : ℚ) ^ (-1075 : ℤ) ≤ 1 / 10 ^ 30 := by
    calc (2 : ℚ) ^ (-1075 : ℤ) ≤ 2 ^ (-100 : ℤ) := zpow_le_zpow_right₀ (by norm_num) (by norm_num)
      _ ≤ 1 / 10 ^ 30 := by norm_num
  have share : (2 : ℚ) ^ (-53 : ℤ) * magnitude = magnitude / 2 ^ 53 := by
    rw [zpow_neg, mul_comm, div_eq_mul_inv]
    rfl
  have part : 0 ≤ magnitude / 2 ^ 53 := by positivity
  rw [roundingError, share]
  apply max_le <;> linarith

/-- Half of the last place is a small part of the magnitude, unless it is the smallest place. Above
the smallest places the significand has its full length, so the place is a part of the value. -/
theorem half_lastPlace_le {value : ℚ} (positive : 0 < value) :
    2 ^ lastPlace value / 2 ≤ roundingError value := by
  by_cases normal : lastPlace value = -1074
  · apply le_max_of_le_left
    rw [normal, show (-1074 : ℤ) = -1075 + 1 by norm_num, zpow_add_one₀ two_ne_zero,
      mul_div_cancel_right₀ _ two_ne_zero]
  · apply le_max_of_le_right
    have full := le_of_lastPlace positive normal
    have shift : (2 : ℚ) ^ (-53 : ℤ) * (2 ^ 52 * 2 ^ lastPlace value) =
        2 ^ lastPlace value / 2 := by
      rw [← mul_assoc]
      norm_num
      ring
    rw [← shift]
    gcongr

/-- Rounding moves a rational by no more than the rounding error. Nothing is assumed of the
rational: the exponent range of `rounded` has no upper end. -/
theorem rounded_near (value : ℚ) : |rounded value - value| ≤ roundingError |value| := by
  have smallest : (0 : ℚ) ≤ 2 ^ (-1075 : ℤ) := by positivity
  rcases lt_trichotomy value 0 with negative | rfl | positive
  · have near := roundedMagnitude_near (neg_nonneg.mpr negative.le)
    have place := half_lastPlace_le (neg_pos.mpr negative)
    rw [rounded, if_pos negative, abs_of_neg negative, ← abs_neg, neg_sub]
    rw [sub_neg_eq_add] at near ⊢
    rw [add_comm value]
    exact near.trans place
  · rw [rounded_of_nonneg le_rfl, roundedMagnitude_zero, sub_zero, abs_zero]
    exact le_max_of_le_left smallest
  · rw [rounded_of_nonneg positive.le, abs_of_pos positive]
    exact (roundedMagnitude_near positive.le).trans (half_lastPlace_le positive)

/-- The rounded value of what is not negative is not negative. -/
theorem rounded_nonneg {value : ℚ} (nonnegative : 0 ≤ value) : 0 ≤ rounded value := by
  rw [rounded_of_nonneg nonnegative]
  exact roundedMagnitude_nonneg value

/-- Rounding keeps opposite numbers opposite, so it may come before or after taking the
magnitude. -/
theorem abs_rounded (value : ℚ) : |rounded value| = rounded |value| := by
  rcases le_total 0 value with right | left
  · rw [abs_of_nonneg right, abs_of_nonneg (rounded_nonneg right)]
  · have opposite := rounded_nonneg (neg_nonneg.mpr left)
    rw [rounded_neg] at opposite
    rw [abs_of_nonpos left, rounded_neg, abs_of_nonpos (neg_nonneg.mp opposite)]

/-- The nearest integer lies within a half. A tie is allowed to go either way here. -/
theorem Binary64.nearestAway_near (value : ℚ) : |(nearestAway value : ℚ) - value| ≤ 1 / 2 := by
  rw [nearestAway_eq, abs_le]
  split
  · have low := Int.floor_le (-value + 1 / 2)
    have high := Int.lt_floor_add_one (-value + 1 / 2)
    push_cast
    constructor <;> linarith
  · have low := Int.floor_le (value + 1 / 2)
    have high := Int.lt_floor_add_one (value + 1 / 2)
    constructor <;> linarith

/-- No integer lies nearer. Another integer is apart from the chosen one by one at least, and the
chosen one lies within a half, so the other one is a half away or more. -/
theorem Binary64.nearestAway_nearest (value : ℚ) (whole : ℤ) :
    |(nearestAway value : ℚ) - value| ≤ |(whole : ℚ) - value| := by
  have near := nearestAway_near value
  by_cases same : whole = nearestAway value
  · rw [same]
  · have apart : (1 : ℚ) ≤ |(whole : ℚ) - nearestAway value| := by
      exact_mod_cast Int.one_le_abs (sub_ne_zero.mpr same)
    have path := abs_sub_le (whole : ℚ) value (nearestAway value)
    rw [abs_sub_comm value] at path
    linarith

namespace Binary64

/-! ## Results in the range -/

/-- A number that is not finite, though defined, stands at an end of the range. So a bound on the
position excludes overflow. -/
theorem isFinite_of_abs_lt {value : Binary64} (defined : value ≠ nan)
    (inside : |value.position| < limit) : value.isFinite = true := by
  cases value with
  | nan => exact absurd rfl defined
  | finite => rfl
  | infinite negative =>
    cases negative with
    | false =>
      change |limit| < limit at inside
      exact absurd inside (not_lt.mpr (le_abs_self limit))
    | true =>
      change |-limit| < limit at inside
      rw [abs_neg] at inside
      exact absurd inside (not_lt.mpr (le_abs_self limit))

/-- What is not negative is only ever moved down into the range. -/
theorem clamp_le {value : ℚ} (nonnegative : 0 ≤ value) : clamp value ≤ value :=
  max_le (by linarith [limit_pos]) (min_le_right _ _)

/-- What is moved into the range only if it lies outside does not come to lie inside. So a result
that stands inside was not moved. -/
theorem eq_of_clamp_lt {value : ℚ} (inside : |clamp value| < limit) : clamp value = value := by
  have positive := limit_pos
  obtain ⟨low, high⟩ := abs_lt.mp inside
  rcases le_total limit value with above | below
  · have moved : clamp value = limit := by
      rw [clamp, min_eq_left above, max_eq_right (by linarith)]
    exact absurd high (moved ▸ lt_irrefl _)
  · rcases le_total (-limit) value with inside' | beyond
    · rw [clamp, min_eq_right below, max_eq_right inside']
    · have moved : clamp value = -limit := by
        rw [clamp, min_eq_right below, max_eq_left beyond]
      exact absurd low (moved ▸ lt_irrefl _)

/-- A finite result stands at the rounded exact one. That it is finite is the whole condition: no
bound on the exact result is needed. -/
theorem position_eq_rounded {value : Binary64} {exact : ℚ} (finite : value.isFinite = true)
    (nearest : value.position = clamp (rounded exact)) : value.position = rounded exact := by
  have inside := value.abs_toRat_lt
  rw [← position_of_isFinite finite, nearest] at inside
  rw [nearest, eq_of_clamp_lt inside]

/-! ## Sign and magnitude -/

/-- Changing the sign moves a number to the other side. -/
theorem neg_position (value : Binary64) : (-value).position = -value.position := by
  change value.neg.position = _
  cases value with
  | nan => simp [neg, position]
  | infinite negative => cases negative <;> simp [neg, position]
  | finite negative => cases negative <;> simp [neg, position, toRat]

/-- A finite number stays finite when its sign changes. -/
theorem isFinite_neg (value : Binary64) : (-value).isFinite = value.isFinite := by
  change value.neg.isFinite = _
  cases value <;> rfl

/-- Dropping the sign gives the distance from zero, also of an infinity and of a negative zero. -/
theorem abs_position (value : Binary64) : value.abs.position = |value.position| := by
  cases value with
  | nan => simp [abs, position]
  | infinite negative =>
    cases negative with
    | false => exact (abs_of_pos limit_pos).symm
    | true => exact ((abs_neg limit).trans (abs_of_pos limit_pos)).symm
  | finite negative significand exponent canonical =>
    have nonnegative : (0 : ℚ) ≤ significand * 2 ^ exponent := by positivity
    have size : |(finite negative significand exponent canonical).position| =
        significand * 2 ^ exponent := by
      change |(finite negative significand exponent canonical).toRat| = _
      rw [toRat_finite, abs_mul, abs_of_nonneg nonnegative]
      cases negative <;> simp
    rw [size]
    change (finite false significand exponent canonical).toRat = _
    rw [toRat_finite]
    simp

/-- A defined number without its sign is defined. -/
theorem abs_ne_nan {value : Binary64} (defined : value ≠ nan) : value.abs ≠ nan := by
  cases value with
  | nan => exact absurd rfl defined
  | _ => simp [abs]

/-- A finite number without its sign is finite. -/
theorem isFinite_abs (value : Binary64) : value.abs.isFinite = value.isFinite := by
  cases value <;> rfl

/-- The larger of two finite numbers is the one that stands further right. -/
theorem larger_position {left right : Binary64} (left_finite : left.isFinite = true)
    (right_finite : right.isFinite = true) :
    (left.larger right).isFinite = true ∧
      (left.larger right).position = max left.position right.position := by
  have left_defined := ne_nan_of_isFinite left_finite
  have right_defined := ne_nan_of_isFinite right_finite
  have chosen : left.larger right = if left < right then right else left := by
    cases left with
    | nan => exact absurd rfl left_defined
    | _ => rfl
  rw [chosen]
  split
  · next below =>
    rw [lt_iff left_defined right_defined] at below
    exact ⟨right_finite, (max_eq_right below.le).symm⟩
  · next above =>
    rw [lt_iff left_defined right_defined, not_lt] at above
    exact ⟨left_finite, (max_eq_left above).symm⟩

/-- A finite difference stands at the rounded exact one. -/
theorem sub_position {left right : Binary64} (left_finite : left.isFinite = true)
    (right_finite : right.isFinite = true) :
    left - right ≠ nan ∧
      (left - right).position = clamp (rounded (left.position - right.position)) := by
  have sum := @add_position left (-right) left_finite (by rw [isFinite_neg, right_finite])
  rw [neg_position, ← sub_eq_add_neg] at sum
  exact sum

/-- Rounding a finite number to a whole number gives a finite number. A number below two to the 53rd
is not led beyond that bound, and any other finite number is whole already. -/
theorem isFinite_round {value : Binary64} (finite : value.isFinite = true) :
    value.round.isFinite = true := by
  have stands := value.round_position
  rw [position_of_isFinite finite] at stands
  apply isFinite_of_abs_lt (toWhole_ne_nan (ne_nan_of_isFinite finite))
  change |value.round.position| < limit
  rw [stands]
  rcases value.whole_or_short with ⟨whole, integral⟩ | short
  · have inside := value.abs_toRat_lt
    rw [integral] at inside ⊢
    rwa [respectsWhole_nearestAway.fixes]
  · obtain ⟨low, high⟩ := abs_lt.mp short
    have lower : -2 ^ 53 ≤ nearestAway value.toRat :=
      respectsWhole_nearestAway.le_round (by push_cast; exact low.le)
    have upper : nearestAway value.toRat ≤ 2 ^ 53 :=
      respectsWhole_nearestAway.round_le (by push_cast; exact high.le)
    have size : |(nearestAway value.toRat : ℚ)| ≤ 2 ^ 53 := by
      exact_mod_cast abs_le.mpr ⟨lower, upper⟩
    calc |(nearestAway value.toRat : ℚ)| ≤ 2 ^ 53 := size
      _ < 2 ^ 54 := by norm_num
      _ ≤ limit := pow_le_limit (by norm_num)

/-! ## Results near zero -/

/-- Rounding moves what is at most so large by at most a rounding error of it. -/
theorem rounded_near_of_abs_le {value bound : ℚ} (small : |value| ≤ bound) :
    |rounded value - value| ≤ 1 / 10 ^ 30 + bound / 2 ^ 53 := by
  have error := roundingError_le (abs_nonneg value)
  have share : |value| / 2 ^ 53 ≤ bound / 2 ^ 53 := by gcongr
  linarith [rounded_near value]

/-- A result is finite and is the rounded exact one. Arithmetic near zero gives such results, so a
chain of operations is followed without a word about overflow. -/
structure RoundedTo (value : Binary64) (exact : ℚ) : Prop where
  finite : value.isFinite = true
  toRat_eq : value.toRat = rounded exact

/-- A result near zero is in the range. -/
theorem roundedTo_of_position {value : Binary64} {exact : ℚ} (defined : value ≠ nan)
    (nearest : value.position = clamp (rounded exact)) (small : |exact| ≤ 2 ^ 53) :
    RoundedTo value exact := by
  have whole : rounded (2 ^ 53) = 2 ^ 53 := by
    rw [rounded_of_nonneg (by positivity)]
    exact_mod_cast roundedMagnitude_natCast (le_refl (2 ^ 53))
  have size : |rounded exact| ≤ 2 ^ 53 := by
    rw [abs_rounded, ← whole]
    exact rounded_mono small
  have above : (2 ^ 53 : ℚ) < limit := by
    calc (2 ^ 53 : ℚ) < 2 ^ 54 := by norm_num
      _ ≤ limit := pow_le_limit (by norm_num)
  rw [clamp_of_abs_le (size.trans above.le)] at nearest
  have finite : value.isFinite = true := by
    refine isFinite_of_abs_lt defined ?_
    rw [nearest]
    exact size.trans_lt above
  exact ⟨finite, (position_of_isFinite finite).symm.trans nearest⟩

section Arithmetic

variable {left right : Binary64} (left_finite : left.isFinite = true)
  (right_finite : right.isFinite = true)

include left_finite right_finite

/-- A sum of finite numbers that is not far from zero is the rounded exact one. -/
theorem add_roundedTo (small : |left.toRat + right.toRat| ≤ 2 ^ 53) :
    RoundedTo (left + right) (left.toRat + right.toRat) := by
  obtain ⟨defined, place⟩ := add_position left_finite right_finite
  rw [position_of_isFinite left_finite, position_of_isFinite right_finite] at place
  exact roundedTo_of_position defined place small

/-- A difference of finite numbers that is not far from zero is the rounded exact one. -/
theorem sub_roundedTo (small : |left.toRat - right.toRat| ≤ 2 ^ 53) :
    RoundedTo (left - right) (left.toRat - right.toRat) := by
  obtain ⟨defined, place⟩ := sub_position left_finite right_finite
  rw [position_of_isFinite left_finite, position_of_isFinite right_finite] at place
  exact roundedTo_of_position defined place small

/-- A product of finite numbers that is not far from zero is the rounded exact one. -/
theorem mul_roundedTo (small : |left.toRat * right.toRat| ≤ 2 ^ 53) :
    RoundedTo (left * right) (left.toRat * right.toRat) := by
  obtain ⟨defined, place⟩ := mul_position left_finite right_finite
  rw [position_of_isFinite left_finite, position_of_isFinite right_finite] at place
  exact roundedTo_of_position defined place small

/-- A quotient of finite numbers that is not far from zero is the rounded exact one. The divisor is
no zero. -/
theorem div_roundedTo (nonzero : right.toRat ≠ 0) (small : |left.toRat / right.toRat| ≤ 2 ^ 53) :
    RoundedTo (left / right) (left.toRat / right.toRat) := by
  rw [← position_of_isFinite right_finite] at nonzero
  obtain ⟨defined, place⟩ := div_position left_finite right_finite nonzero
  rw [position_of_isFinite left_finite, position_of_isFinite right_finite] at place
  exact roundedTo_of_position defined place small

end Arithmetic

/-- A whole number in the range of whole numbers is exact. -/
theorem ofNat_toRat {count : Nat} (small : count ≤ 2 ^ 53) :
    (Binary64.ofNat count).isFinite = true ∧ (Binary64.ofNat count).toRat = count := by
  have place := ofNat_position small
  have finite : (Binary64.ofNat count).isFinite = true := by
    refine isFinite_of_abs_lt (ofNat_ne_nan count) ?_
    rw [place, abs_of_nonneg (Nat.cast_nonneg count)]
    calc (count : ℚ) ≤ 2 ^ 53 := by exact_mod_cast small
      _ < 2 ^ 54 := by norm_num
      _ ≤ limit := pow_le_limit (by norm_num)
  exact ⟨finite, (position_of_isFinite finite).symm.trans place⟩

end Binary64

end PulseProgram

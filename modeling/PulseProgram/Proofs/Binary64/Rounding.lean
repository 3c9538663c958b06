import Mathlib.Algebra.Order.Field.Power
import Mathlib.Data.Int.Log
import Mathlib.Data.Rat.Floor
import Mathlib.Tactic.FieldSimp
import Mathlib.Tactic.Linarith
import Mathlib.Tactic.NormNum
import Mathlib.Tactic.Positivity
import Mathlib.Tactic.Ring
import PulseProgram.Binary64

/-!
# Rounding to double precision

A rational number is rounded by choosing the exponent of its last place from its
binary logarithm and its significand as the nearest natural number of such places.
`rounded` is this rule on rationals, with an exponent range that has no upper end.

The rule is monotone and leaves alone whatever has a significand of at most 53 bits.
Both facts are about the quotient of a fraction and not about its terms, so that
fractions of equal value round alike.
-/

namespace PulseProgram

/-- The powers of two that the definitions compute from numerators and denominators are those of the
field of rationals. Everything below speaks of the latter. -/
theorem powerOfTwo_eq (exponent : Int) : powerOfTwo exponent = (2 : ℚ) ^ exponent := by
  rw [powerOfTwo, Rat.mkRat_eq_div]
  push_cast [Nat.pow_eq]
  rcases le_total 0 exponent with nonnegative | nonpositive
  · obtain ⟨size, rfl⟩ := Int.eq_ofNat_of_zero_le nonnegative
    simp
  · obtain ⟨size, same⟩ := Int.eq_ofNat_of_zero_le (neg_nonneg.mpr nonpositive)
    obtain rfl : exponent = -(size : Int) := by omega
    simp

/-! ## The nearest natural number -/

/-- Rounding a fraction is monotone in its value. The terms may differ, as long as the denominators
are positive and the values are in order.

Proof: fractions with different whole parts are apart by one at least. Those with the same whole
part compare by their remainders, and a tie only goes up if the greater fraction does. -/
theorem nearestEven_mono {left below right above : Nat} (below_pos : 0 < below)
    (above_pos : 0 < above) (ordered : left * above ≤ right * below) :
    nearestEven left below ≤ nearestEven right above := by
  have leftSplit := Nat.div_add_mod left below
  have rightSplit := Nat.div_add_mod right above
  have leftRest := Nat.mod_lt left below_pos
  have rightRest := Nat.mod_lt right above_pos
  simp only [nearestEven]
  generalize left / below = leftWhole at *
  generalize right / above = rightWhole at *
  generalize left % below = leftOver at *
  generalize right % above = rightOver at *
  subst leftSplit rightSplit
  rcases lt_trichotomy leftWhole rightWhole with smaller | same | larger
  · split_ifs <;> omega
  · subst same
    have overs : leftOver * above ≤ rightOver * below := by nlinarith
    split_ifs with leftLow rightLow rightHigh leftHigh rightLow rightHigh rightLow rightHigh <;>
      first | omega | (exfalso; nlinarith)
  · exfalso
    have step : below * above * (rightWhole + 1) ≤ below * above * leftWhole :=
      Nat.mul_le_mul_left _ larger
    nlinarith

/-- A whole quotient is its own nearest natural number. There is no remainder, so no tie is
decided. -/
theorem nearestEven_mul_right (whole : Nat) {denominator : Nat} (positive : 0 < denominator) :
    nearestEven (whole * denominator) denominator = whole := by
  simp [nearestEven, Nat.mul_div_cancel _ positive, positive]

/-- The natural number nearest to a rational that is not negative. -/
def roundEven (value : ℚ) : Nat := nearestEven value.num.natAbs value.den

/-- Rounding sees the value of a fraction only. So the fraction may be taken in lowest terms, where
it is a rational number, and facts about rationals carry over to all fractions of their value. -/
theorem nearestEven_eq (numerator : Nat) {denominator : Nat} (positive : 0 < denominator) :
    nearestEven numerator denominator = roundEven (numerator / denominator) := by
  have reduced : (0 : ℚ) ≤ numerator / denominator := by positivity
  have cross : ((numerator : ℚ) / denominator).num.natAbs * denominator =
      numerator * ((numerator : ℚ) / denominator).den := by
    have nonzero : (denominator : ℚ) ≠ 0 := by exact_mod_cast positive.ne'
    have terms := Rat.num_div_den ((numerator : ℚ) / denominator)
    have absolute : (((numerator : ℚ) / denominator).num.natAbs : ℚ) =
        ((numerator : ℚ) / denominator).num := by
      exact_mod_cast Int.natAbs_of_nonneg (Rat.num_nonneg.mpr reduced)
    have lowest : (((numerator : ℚ) / denominator).den : ℚ) ≠ 0 := by
      exact_mod_cast Rat.den_ne_zero _
    rw [div_eq_div_iff lowest nonzero, ← absolute] at terms
    exact_mod_cast terms
  exact le_antisymm (nearestEven_mono positive (Rat.den_pos _) cross.ge)
    (nearestEven_mono (Rat.den_pos _) positive cross.le)

/-- Rounding to a natural number is monotone on rationals that are not negative. It is the statement
about fractions for the two lowest terms. -/
theorem roundEven_mono {low high : ℚ} (nonnegative : 0 ≤ low) (ordered : low ≤ high) :
    roundEven low ≤ roundEven high := by
  apply nearestEven_mono (Rat.den_pos _) (Rat.den_pos _)
  have terms := (Rat.le_iff _ _).mp ordered
  have lowTerm := Int.natAbs_of_nonneg (Rat.num_nonneg.mpr nonnegative)
  have highTerm := Int.natAbs_of_nonneg (Rat.num_nonneg.mpr (nonnegative.trans ordered))
  rw [← lowTerm, ← highTerm] at terms
  exact_mod_cast terms

/-- Natural numbers round to themselves. -/
theorem roundEven_natCast (whole : Nat) : roundEven (whole : ℚ) = whole := by
  simpa [roundEven] using nearestEven_mul_right whole (Nat.one_pos)

/-! ## The last place -/

/-- A positive rational between two neighbouring powers of two has the exponent of the lower one as
its logarithm. -/
theorem eq_log_of_between {value : ℚ} (positive : 0 < value) {exponent : ℤ}
    (low : (2 : ℚ) ^ exponent ≤ value) (high : value < 2 ^ (exponent + 1)) :
    exponent = Int.log 2 value := by
  have lowLog := (Int.zpow_le_iff_le_log (b := 2) (R := ℚ) (by norm_num) positive).mp
    (by exact_mod_cast low)
  have highLog := (Int.lt_zpow_iff_log_lt (b := 2) (R := ℚ) (by norm_num) positive).mp
    (by exact_mod_cast high)
  omega

/-- The comparison of a power of two with a fraction, made on natural numbers. The exponent may have
either sign, since one of the two powers is then one. -/
theorem scaled_le_iff {numerator denominator : Nat} (denominator_pos : 0 < denominator)
    (exponent : ℤ) :
    denominator * Nat.pow 2 exponent.toNat ≤ numerator * Nat.pow 2 (-exponent).toNat ↔
      (2 : ℚ) ^ exponent ≤ (numerator : ℚ) / denominator := by
  have size : (0 : ℚ) < denominator := by exact_mod_cast denominator_pos
  rw [← powerOfTwo_eq, powerOfTwo, Rat.mkRat_eq_div,
    div_le_div_iff₀ (by simp [Nat.pow_eq]) size, ← Nat.cast_le (α := ℚ)]
  push_cast [Nat.pow_eq]
  rw [mul_comm (denominator : ℚ)]

/-- A fraction lies within a factor of two of what the lengths of its terms say, since both terms
lie between neighbouring powers of two. -/
theorem div_between_log2 {numerator denominator : Nat} (numerator_pos : 0 < numerator)
    (denominator_pos : 0 < denominator) :
    (2 : ℚ) ^ ((numerator.log2 : ℤ) - denominator.log2 - 1) ≤ (numerator : ℚ) / denominator ∧
      (numerator : ℚ) / denominator < 2 ^ ((numerator.log2 : ℤ) - denominator.log2 + 1) := by
  have size : (0 : ℚ) < denominator := by exact_mod_cast denominator_pos
  have numeratorLow : (2 : ℚ) ^ (numerator.log2 : ℤ) ≤ numerator := by
    exact_mod_cast Nat.log2_self_le numerator_pos.ne'
  have numeratorHigh : (numerator : ℚ) < 2 ^ ((numerator.log2 : ℤ) + 1) := by
    exact_mod_cast @Nat.lt_log2_self numerator
  have denominatorLow : (2 : ℚ) ^ (denominator.log2 : ℤ) ≤ denominator := by
    exact_mod_cast Nat.log2_self_le denominator_pos.ne'
  have denominatorHigh : (denominator : ℚ) < 2 ^ ((denominator.log2 : ℤ) + 1) := by
    exact_mod_cast @Nat.lt_log2_self denominator
  rw [le_div_iff₀ size, div_lt_iff₀ size]
  constructor
  · calc (2 : ℚ) ^ ((numerator.log2 : ℤ) - denominator.log2 - 1) * denominator
        ≤ 2 ^ ((numerator.log2 : ℤ) - denominator.log2 - 1) *
          2 ^ ((denominator.log2 : ℤ) + 1) := by gcongr
      _ = 2 ^ (numerator.log2 : ℤ) := by rw [← zpow_add₀ two_ne_zero]; congr 1; ring
      _ ≤ numerator := numeratorLow
  · calc (numerator : ℚ) < 2 ^ ((numerator.log2 : ℤ) + 1) := numeratorHigh
      _ = 2 ^ ((numerator.log2 : ℤ) - denominator.log2 + 1) * 2 ^ (denominator.log2 : ℤ) := by
        rw [← zpow_add₀ two_ne_zero]; congr 1; ring
      _ ≤ _ := by gcongr

/-- The estimate of the logarithm from the lengths of the terms is corrected to the exact one,
whatever the terms are.

Proof: by `div_between_log2` the estimate is right or one too large, and the comparison that follows
it tells the two cases apart. -/
theorem floorLogTwo_eq {numerator denominator : Nat} (numerator_pos : 0 < numerator)
    (denominator_pos : 0 < denominator) :
    floorLogTwo numerator denominator = Int.log 2 ((numerator : ℚ) / denominator) := by
  have positive : (0 : ℚ) < (numerator : ℚ) / denominator := by positivity
  obtain ⟨lower, upper⟩ := div_between_log2 numerator_pos denominator_pos
  simp only [floorLogTwo, scaled_le_iff denominator_pos]
  split
  · next low => exact eq_log_of_between positive low upper
  · next high => exact eq_log_of_between positive lower (by simpa using lt_of_not_ge high)

/-- The exponent of the last place of a number next to a positive rational. It leaves room for 53
bits, but does not go below the smallest place there is. -/
def lastPlace (value : ℚ) : ℤ := max (-1074) (Int.log 2 value - 52)

/-- A rational has less than 54 bits above its last place. This needs no sign: what is not positive
has none at all. -/
theorem lt_lastPlace (value : ℚ) :
    value < 2 ^ 53 * 2 ^ lastPlace value := by
  have above : value < (2 : ℚ) ^ (Int.log 2 value + 1) := by
    exact_mod_cast Int.lt_zpow_succ_log_self (b := 2) (by norm_num) value
  calc value < (2 : ℚ) ^ (Int.log 2 value + 1) := above
    _ ≤ 2 ^ (53 + lastPlace value) := by
      apply zpow_le_zpow_right₀ (by norm_num)
      simp only [lastPlace]
      omega
    _ = 2 ^ 53 * 2 ^ lastPlace value := by
      rw [zpow_add₀ two_ne_zero]
      norm_num

/-- A number that is not among the smallest places has a significand of full length, since its last
place is taken from its logarithm then. -/
theorem le_of_lastPlace {value : ℚ} (positive : 0 < value) (normal : lastPlace value ≠ -1074) :
    2 ^ 52 * 2 ^ lastPlace value ≤ value := by
  have below : (2 : ℚ) ^ Int.log 2 value ≤ value := by
    exact_mod_cast Int.zpow_log_le_self (b := 2) (by norm_num) positive
  calc (2 : ℚ) ^ 52 * 2 ^ lastPlace value = 2 ^ (52 + lastPlace value) := by
        rw [zpow_add₀ two_ne_zero]
        norm_num
    _ ≤ 2 ^ Int.log 2 value := by
      apply zpow_le_zpow_right₀ (by norm_num)
      simp only [lastPlace] at normal ⊢
      omega
    _ ≤ value := below

/-- Greater numbers have no finer places. -/
theorem lastPlace_mono {low high : ℚ} (positive : 0 < low) (ordered : low ≤ high) :
    lastPlace low ≤ lastPlace high := by
  have logs := Int.log_mono_right (b := 2) positive ordered
  simp only [lastPlace]
  omega

/-- A number with at most 53 bits above a place has no coarser last place. The number need not be a
multiple of that place. -/
theorem lastPlace_le {value : ℚ} {place : ℤ} (positive : 0 < value)
    (bottom : -1074 ≤ place) (short : value < 2 ^ 53 * 2 ^ place) : lastPlace value ≤ place := by
  have log : Int.log 2 value < 53 + place := by
    rw [← Int.lt_zpow_iff_log_lt (b := 2) (R := ℚ) (by norm_num) positive]
    calc value < 2 ^ 53 * 2 ^ place := short
      _ = ((2 : ℕ) : ℚ) ^ (53 + place) := by
        rw [Nat.cast_two, zpow_add₀ two_ne_zero]
        norm_num
  simp only [lastPlace]
  omega

/-! ## The rounded value -/

/-- A rational that is not negative, as the nearest multiple of its last place. -/
def roundedMagnitude (value : ℚ) : ℚ :=
  roundEven (value / 2 ^ lastPlace value) * 2 ^ lastPlace value

/-- A rational rounded to 53 bits. Its sign does not matter for the distance. -/
def rounded (value : ℚ) : ℚ :=
  if value < 0 then -roundedMagnitude (-value) else roundedMagnitude value

/-- The significand may at most reach 53 bits and one. The bound is reached where the rational is
nearer to the next power of two than to the last number below it. -/
theorem roundEven_le_full (value : ℚ) (nonnegative : 0 ≤ value) :
    roundEven (value / 2 ^ lastPlace value) ≤ 2 ^ 53 := by
  have short : value / 2 ^ lastPlace value ≤ ((2 ^ 53 : Nat) : ℚ) := by
    rw [div_le_iff₀ (by positivity)]
    exact_mod_cast (lt_lastPlace value).le
  calc roundEven (value / 2 ^ lastPlace value)
      ≤ roundEven ((2 ^ 53 : Nat) : ℚ) := roundEven_mono (by positivity) short
    _ = 2 ^ 53 := roundEven_natCast _

/-- Above the smallest places the significand keeps its full length, since rounding is monotone and
the least significand of that length is whole. -/
theorem full_le_roundEven {value : ℚ} (positive : 0 < value)
    (normal : lastPlace value ≠ -1074) :
    2 ^ 52 ≤ roundEven (value / 2 ^ lastPlace value) := by
  have long : ((2 ^ 52 : Nat) : ℚ) ≤ value / 2 ^ lastPlace value := by
    rw [le_div_iff₀ (by positivity)]
    exact_mod_cast le_of_lastPlace positive normal
  calc 2 ^ 52 = roundEven ((2 ^ 52 : Nat) : ℚ) := (roundEven_natCast _).symm
    _ ≤ roundEven (value / 2 ^ lastPlace value) := roundEven_mono (by positivity) long

/-- The rounded value of what is not negative is not negative. -/
theorem roundedMagnitude_nonneg (value : ℚ) : 0 ≤ roundedMagnitude value := by
  unfold roundedMagnitude
  positivity

/-- Zero is exact. -/
theorem roundedMagnitude_zero : roundedMagnitude 0 = 0 := by
  have whole : roundEven (0 : ℚ) = 0 := by exact_mod_cast roundEven_natCast 0
  simp [roundedMagnitude, whole]

/-- Rounding magnitudes is monotone, also from one binary order to another.

Proof: with the same last place this is the monotonicity of the significands. Otherwise a power of
two lies between the two rationals, and so it does between the rounded values. -/
theorem roundedMagnitude_mono {low high : ℚ} (nonnegative : 0 ≤ low) (ordered : low ≤ high) :
    roundedMagnitude low ≤ roundedMagnitude high := by
  rcases nonnegative.eq_or_lt with rfl | positive
  · rw [roundedMagnitude_zero]
    exact roundedMagnitude_nonneg high
  rcases (lastPlace_mono positive ordered).eq_or_lt with same | finer
  · unfold roundedMagnitude
    rw [same]
    have significands : roundEven (low / 2 ^ lastPlace high) ≤
        roundEven (high / 2 ^ lastPlace high) := by
      apply roundEven_mono (by positivity)
      gcongr
    gcongr
  · have bottom : -1074 ≤ lastPlace low := le_max_left _ _
    have full := full_le_roundEven (positive.trans_le ordered) (by omega)
    calc roundedMagnitude low ≤ ((2 ^ 53 : Nat) : ℚ) * 2 ^ lastPlace low := by
          unfold roundedMagnitude
          gcongr
          exact roundEven_le_full low nonnegative
      _ = ((2 ^ 52 : Nat) : ℚ) * 2 ^ (lastPlace low + 1) := by
        rw [zpow_add_one₀ two_ne_zero]
        push_cast
        ring
      _ ≤ ((2 ^ 52 : Nat) : ℚ) * 2 ^ lastPlace high := by
        gcongr
        · norm_num
        · omega
      _ ≤ roundedMagnitude high := by
        unfold roundedMagnitude
        gcongr

/-- A significand of at most 53 bits is kept, in whatever form it is given: it need not be the
stored one. Its place is a multiple of the last place, so the significand at the last place is
whole. -/
theorem roundedMagnitude_exact {significand : Nat} {exponent : ℤ}
    (short : significand < 2 ^ 53) (bottom : -1074 ≤ exponent) :
    roundedMagnitude (significand * 2 ^ exponent) = significand * 2 ^ exponent := by
  rcases Nat.eq_zero_or_pos significand with rfl | nonzero
  · simpa using roundedMagnitude_zero
  have positive : (0 : ℚ) < significand * 2 ^ exponent := by positivity
  have above : (significand * 2 ^ exponent : ℚ) < 2 ^ 53 * 2 ^ exponent := by
    gcongr
    exact_mod_cast short
  obtain ⟨shift, place⟩ := Int.le.dest (lastPlace_le positive bottom above)
  have shifted : (significand * 2 ^ exponent : ℚ) =
      ((significand * 2 ^ shift : Nat) : ℚ) * 2 ^ lastPlace (significand * 2 ^ exponent) := by
    conv_lhs => rw [← place]
    rw [zpow_add₀ two_ne_zero, zpow_natCast]
    push_cast
    ring
  have whole : (significand * 2 ^ exponent : ℚ) / 2 ^ lastPlace (significand * 2 ^ exponent) =
      ((significand * 2 ^ shift : Nat) : ℚ) := by
    rw [div_eq_iff (by positivity)]
    exact shifted
  rw [roundedMagnitude, whole, roundEven_natCast]
  exact shifted.symm

/-- Natural numbers up to two to the 53rd are exact, the bound itself included: it is a power of two
and has a shorter significand. -/
theorem roundedMagnitude_natCast {whole : Nat} (small : whole ≤ 2 ^ 53) :
    roundedMagnitude (whole : ℚ) = whole := by
  rcases small.lt_or_eq with short | rfl
  · simpa using @roundedMagnitude_exact whole 0 short (by norm_num)
  · have exact := @roundedMagnitude_exact 1 53 (by norm_num) (by norm_num)
    norm_num at exact ⊢
    exact exact

/-- Rounding is monotone on all rationals. Between the two signs lies zero, which is exact, and on
the negative side both the rationals and their magnitudes are in reverse order. -/
theorem rounded_mono {low high : ℚ} (ordered : low ≤ high) : rounded low ≤ rounded high := by
  unfold rounded
  split_ifs with lowSign highSign highSign
  · exact neg_le_neg (roundedMagnitude_mono (by linarith) (by linarith))
  · exact (neg_nonpos.mpr (roundedMagnitude_nonneg _)).trans (roundedMagnitude_nonneg _)
  · exact absurd highSign (by linarith)
  · exact roundedMagnitude_mono (by linarith) ordered

/-- Changing the sign of a rational changes the sign of the rounded value. Ties go to the even
significand on either side, so no direction is preferred. -/
theorem rounded_neg (value : ℚ) : rounded (-value) = -rounded value := by
  unfold rounded
  rcases lt_trichotomy value 0 with negative | rfl | positive
  · rw [if_neg (by linarith), if_pos negative, neg_neg]
  · simp [roundedMagnitude_zero]
  · rw [if_pos (by linarith), if_neg (by linarith), neg_neg]

/-- What is not negative rounds by its magnitude. -/
theorem rounded_of_nonneg {value : ℚ} (nonnegative : 0 ≤ value) :
    rounded value = roundedMagnitude value := if_neg (not_lt.mpr nonnegative)

/-- Integers up to two to the 53rd on either side of zero are exact. With monotonicity this is what
keeps rounding from crossing any of them. -/
theorem rounded_intCast {whole : ℤ} (small : whole.natAbs ≤ 2 ^ 53) :
    rounded (whole : ℚ) = whole := by
  obtain ⟨size, rfl | rfl⟩ := whole.eq_nat_or_neg
  · have bound : size ≤ 2 ^ 53 := by simpa using small
    rw [Int.cast_natCast, rounded_of_nonneg (by positivity), roundedMagnitude_natCast bound]
  · have bound : size ≤ 2 ^ 53 := by simpa using small
    rw [Int.cast_neg, Int.cast_natCast, rounded_neg, rounded_of_nonneg (by positivity),
      roundedMagnitude_natCast bound]

end PulseProgram

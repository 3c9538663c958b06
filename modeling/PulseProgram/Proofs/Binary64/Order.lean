import PulseProgram.Proofs.Binary64.Rounding

/-!
# Double-precision numbers on the line

Every number but the undefined one has a position among the rationals; the infinities
stand at two to the 1024th, the first value beyond the range. Comparisons compare
positions, and a rational goes to its rounded value or, where that is beyond the range,
to an infinity. With the infinities on the line, the order of results follows from the
monotonicity of `rounded` alone, overflow included.
-/

namespace PulseProgram.Binary64

/-- The first value beyond the range. It is no number of the format, but it is the next one that an
exponent range without an upper end would have. -/
def limit : ℚ := 2 ^ (1024 : ℤ)

/-- Smaller powers of two lie in the range. -/
theorem pow_le_limit {size : Nat} (small : size ≤ 1024) : (2 : ℚ) ^ size ≤ limit := by
  rw [limit, ← zpow_natCast]
  apply zpow_le_zpow_right₀ (by norm_num)
  omega

/-- The infinities stand apart, on either side of zero. This is all that comparisons of an infinity
with itself need. -/
theorem limit_pos : 0 < limit := by
  unfold limit
  positivity

/-- The infinities stand at integers. So a statement about whole numbers holds of them without a
case of their own. -/
theorem limit_whole : ∃ whole : ℤ, limit = whole := by
  have power : ∀ size : Nat, (2 : ℚ) ^ (size : ℤ) = ((2 ^ size : ℤ) : ℚ) := by
    intro size
    push_cast
    exact zpow_natCast 2 size
  exact ⟨_, power 1024⟩

/-- Where a number stands among the rationals. The undefined number is put at zero, which no
statement relies on: each of them excludes it or concludes that it is excluded. -/
def position : Binary64 → ℚ
  | .nan => 0
  | .infinite true => -limit
  | .infinite false => limit
  | value@(.finite ..) => value.toRat

/-- A rational moved into the range, its two ends included. This is what overflow does to a
position. -/
def clamp (value : ℚ) : ℚ := max (-limit) (min limit value)

/-- Moving into the range keeps the order. Strict order may be lost, where both rationals lie beyond
one end. -/
theorem clamp_mono {low high : ℚ} (ordered : low ≤ high) : clamp low ≤ clamp high := by
  unfold clamp
  gcongr

/-- What lies in the range is not moved. -/
theorem clamp_of_abs_le {value : ℚ} (inside : |value| ≤ limit) : clamp value = value := by
  obtain ⟨low, high⟩ := abs_le.mp inside
  rw [clamp, min_eq_right high, max_eq_right low]

/-- The range is symmetric, so changing the sign may come before or after moving into it. -/
theorem clamp_neg (value : ℚ) : clamp (-value) = -clamp value := by
  have positive := limit_pos
  unfold clamp
  rcases le_total limit value with above | inside
  · rw [min_eq_left above, min_eq_right (by linarith), max_eq_left (by linarith),
      max_eq_right (by linarith)]
  · rcases le_total value (-limit) with below | inside'
    · rw [min_eq_left (by linarith), min_eq_right inside, max_eq_right (by linarith),
        max_eq_left below, neg_neg]
    · rw [min_eq_right (by linarith), min_eq_right inside, max_eq_right (by linarith),
        max_eq_right (by linarith)]

/-- The exact value of a finite number in terms of powers. -/
theorem toRat_finite (negative : Bool) (significand : Nat) (exponent : ℤ)
    (canonical : IsCanonical significand exponent) :
    (finite negative significand exponent canonical).toRat =
      (if negative then -1 else 1) * (significand * 2 ^ exponent) := by
  cases negative <;> simp [toRat, powerOfTwo_eq]

/-- A significand in stored form stands inside the range. Its 53 bits and the largest exponent leave
it below the limit by one last place. -/
theorem lt_limit {significand : Nat} {exponent : ℤ} (canonical : IsCanonical significand exponent) :
    (significand * 2 ^ exponent : ℚ) < limit := by
  obtain ⟨short, -, top, -⟩ := canonical
  calc (significand * 2 ^ exponent : ℚ) < ((2 ^ 53 : Nat) : ℚ) * 2 ^ exponent := by
        gcongr
        exact short
    _ ≤ ((2 ^ 53 : Nat) : ℚ) * 2 ^ (971 : ℤ) := by
      gcongr
      norm_num
    _ = limit := by
      rw [limit, show (1024 : ℤ) = 53 + 971 by norm_num, zpow_add₀ two_ne_zero]
      norm_num

/-- Finite numbers stand strictly inside the range, so no finite number stands where an infinity
does. -/
theorem abs_toRat_lt (value : Binary64) : |value.toRat| < limit := by
  cases value with
  | nan => simp [toRat, limit]
  | infinite negative => simp [toRat, limit]
  | finite negative significand exponent canonical =>
    have nonnegative : (0 : ℚ) ≤ significand * 2 ^ exponent := by positivity
    rw [toRat_finite, abs_mul, abs_of_nonneg nonnegative]
    cases negative <;> simpa using lt_limit canonical

/-! ## Comparisons -/

/-- Below or equal is the order of positions, for infinities and zeros of either sign as well. Only
the undefined number is excluded, which no number is below. -/
theorem le_iff {left right : Binary64} (left_defined : left ≠ nan) (right_defined : right ≠ nan) :
    left ≤ right ↔ left.position ≤ right.position := by
  have leftInside := abs_lt.mp left.abs_toRat_lt
  have rightInside := abs_lt.mp right.abs_toRat_lt
  have positive := limit_pos
  change left.le right = true ↔ _
  cases left with
  | nan => exact absurd rfl left_defined
  | infinite leftSign =>
    cases right with
    | nan => exact absurd rfl right_defined
    | infinite rightSign =>
      cases leftSign <;> cases rightSign <;> simp [le, position] <;> linarith
    | finite => cases leftSign <;> simp [le, position] <;> linarith
  | finite =>
    cases right with
    | nan => exact absurd rfl right_defined
    | infinite rightSign => cases rightSign <;> simp [le, position] <;> linarith
    | finite => simp [le, position]

/-- Strictly below is the strict order of positions. It is decided by cases of the two numbers; an
infinity is at its place because finite numbers stand strictly inside the range. -/
theorem lt_iff {left right : Binary64} (left_defined : left ≠ nan) (right_defined : right ≠ nan) :
    left < right ↔ left.position < right.position := by
  have leftInside := abs_lt.mp left.abs_toRat_lt
  have rightInside := abs_lt.mp right.abs_toRat_lt
  have positive := limit_pos
  change left.lt right = true ↔ _
  cases left with
  | nan => exact absurd rfl left_defined
  | infinite leftSign =>
    cases right with
    | nan => exact absurd rfl right_defined
    | infinite rightSign =>
      cases leftSign <;> cases rightSign <;> simp [lt, position] <;> linarith
    | finite => cases leftSign <;> simp [lt, position] <;> linarith
  | finite =>
    cases right with
    | nan => exact absurd rfl right_defined
    | infinite rightSign => cases rightSign <;> simp [lt, position] <;> linarith
    | finite => simp [lt, position]

/-! ## Rounded results -/

/-- A significand below 54 bits, of full length unless its places are the smallest, is stored unless
its exponent is too large; then it lies beyond the range. So in either case the number stands at the
exact value, moved into the range. -/
theorem stored_position (negative : Bool) {significand : Nat} {exponent : ℤ}
    (short : significand < 2 ^ 53) (bottom : -1074 ≤ exponent)
    (full : 2 ^ 52 ≤ significand ∨ exponent = -1074) :
    (if canonical : IsCanonical significand exponent then
        finite negative significand exponent canonical
      else infinite negative).position =
      (if negative then -1 else 1) * min limit (significand * 2 ^ exponent) := by
  split
  · next canonical =>
    rw [min_eq_right (lt_limit canonical).le]
    exact toRat_finite negative significand exponent canonical
  · next uncanonical =>
    have large : 972 ≤ exponent := by
      by_contra small
      exact uncanonical ⟨short, bottom, by omega, full⟩
    have long : 2 ^ 52 ≤ significand := by omega
    have beyond : limit ≤ significand * 2 ^ exponent := by
      calc limit = ((2 ^ 52 : Nat) : ℚ) * 2 ^ (972 : ℤ) := by
            rw [limit, show (1024 : ℤ) = 52 + 972 by norm_num, zpow_add₀ two_ne_zero]
            norm_num
        _ ≤ significand * 2 ^ exponent := by
          gcongr
          norm_num
    rw [min_eq_left beyond]
    cases negative <;> simp [position]

/-- The one significand of 54 bits carries into the exponent, which keeps its value. All others are
stored as they are, so every significand that rounding can give stands at its value. -/
theorem ofSignificand_position (negative : Bool) {significand : Nat} {exponent : ℤ}
    (short : significand ≤ 2 ^ 53) (bottom : -1074 ≤ exponent)
    (full : 2 ^ 52 ≤ significand ∨ exponent = -1074) :
    (ofSignificand negative significand exponent).position =
      (if negative then -1 else 1) * min limit (significand * 2 ^ exponent) := by
  unfold ofSignificand
  by_cases carries : significand = Nat.pow 2 53
  · simp only [carries, if_true]
    have value : ((2 ^ 52 : Nat) : ℚ) * 2 ^ (exponent + 1) =
        ((2 ^ 53 : Nat) : ℚ) * 2 ^ exponent := by
      rw [zpow_add_one₀ two_ne_zero]
      push_cast
      ring
    have stored := @stored_position negative (2 ^ 52) (exponent + 1) (by norm_num) (by omega)
      (.inl le_rfl)
    rw [value] at stored
    exact stored
  · simp only [carries, if_false]
    exact stored_position negative (lt_of_le_of_ne short carries) bottom full

/-- Rounding a number that is not zero is defined. -/
theorem ofSignificand_ne_nan (negative : Bool) (significand : Nat) (exponent : ℤ) :
    ofSignificand negative significand exponent ≠ nan := by
  unfold ofSignificand
  dsimp only
  split <;> split <;> simp

/-- A positive quotient stands at its rounded value, or at the end of the range. The terms need not
be in lowest terms.

Proof: the exponent that is computed is the last place, so the significand is that of the rounded
value, and storing it keeps its position. -/
theorem ofQuotient_position (negative : Bool) {numerator denominator : Nat}
    (numerator_pos : 0 < numerator) (denominator_pos : 0 < denominator) :
    (ofQuotient negative numerator denominator).position =
      (if negative then -1 else 1) *
        min limit (roundedMagnitude ((numerator : ℚ) / denominator)) := by
  have positive : (0 : ℚ) < (numerator : ℚ) / denominator := by positivity
  have place : max (-1074) (floorLogTwo numerator denominator - 52) =
      lastPlace ((numerator : ℚ) / denominator) := by
    rw [floorLogTwo_eq numerator_pos denominator_pos, lastPlace]
  have scaled : ∀ exponent : ℤ, nearestEven (numerator * Nat.pow 2 (-exponent).toNat)
      (denominator * Nat.pow 2 exponent.toNat) =
        roundEven ((numerator : ℚ) / denominator / 2 ^ exponent) := by
    intro exponent
    rw [nearestEven_eq _ (by simp [denominator_pos]), ← powerOfTwo_eq, powerOfTwo,
      Rat.mkRat_eq_div]
    push_cast
    congr 1
    field_simp
  unfold ofQuotient
  simp only [place, scaled]
  have bottom : -1074 ≤ lastPlace ((numerator : ℚ) / denominator) := le_max_left _ _
  rw [ofSignificand_position negative (roundEven_le_full _ positive.le) bottom]
  · rfl
  · by_cases normal : lastPlace ((numerator : ℚ) / denominator) = -1074
    · exact .inr normal
    · exact .inl (full_le_roundEven positive normal)

/-- A rational goes to its rounded value, or to the end of the range. The sign that a zero is to
have does not matter for its place. -/
theorem ofRat_position (negativeZero : Bool) (value : ℚ) :
    (ofRat negativeZero value).position = clamp (rounded value) := by
  have positive := limit_pos
  have terms := Rat.num_div_den value
  have denominator : (0 : ℚ) < value.den := by exact_mod_cast value.den_pos
  unfold ofRat
  split
  · next vanishes =>
    rw [Rat.num_eq_zero.mp vanishes, rounded_of_nonneg le_rfl, roundedMagnitude_zero,
      clamp_of_abs_le (by simpa using positive.le)]
    cases negativeZero <;> simp [zero, position, toRat]
  · next nonzero =>
    rw [ofQuotient_position _ (Int.natAbs_pos.mpr nonzero) value.den_pos]
    have bound : ∀ magnitude : ℚ, 0 ≤ magnitude → clamp magnitude = min limit magnitude := by
      intro magnitude nonnegative
      exact max_eq_right (by linarith [le_min positive.le nonnegative])
    rcases lt_or_ge value 0 with negative | nonnegative
    · have size : ((value.num.natAbs : ℕ) : ℚ) / value.den = -value := by
        rw [Nat.cast_natAbs, abs_of_neg (Rat.num_neg.mpr negative)]
        push_cast
        rw [neg_div, terms]
      rw [size, rounded, if_pos negative, clamp_neg, bound _ (roundedMagnitude_nonneg _)]
      simp [Rat.num_neg.mpr negative]
    · have size : ((value.num.natAbs : ℕ) : ℚ) / value.den = value := by
        rw [Nat.cast_natAbs, abs_of_nonneg (Rat.num_nonneg.mpr nonnegative), terms]
      rw [size, rounded_of_nonneg nonnegative, bound _ (roundedMagnitude_nonneg _)]
      simp [not_lt.mpr (Rat.num_nonneg.mpr nonnegative)]

/-- A rational that is the position of a number, so that no operation moves it. -/
structure IsExact (value : ℚ) : Prop where
  rounded_eq : rounded value = value
  abs_le : |value| ≤ limit

/-- An exact rational is not moved on its way to a number. -/
theorem IsExact.clamp_rounded {value : ℚ} (exact : IsExact value) :
    clamp (rounded value) = value := by
  rw [exact.rounded_eq, clamp_of_abs_le exact.abs_le]

/-- Integers up to two to the 53rd on either side of zero are exact. -/
theorem isExact_intCast {whole : ℤ} (small : whole.natAbs ≤ 2 ^ 53) : IsExact (whole : ℚ) where
  rounded_eq := rounded_intCast small
  abs_le := by
    calc |(whole : ℚ)| = (whole.natAbs : ℚ) := by rw [Nat.cast_natAbs, Int.cast_abs]
      _ ≤ 2 ^ 53 := by exact_mod_cast small
      _ ≤ limit := pow_le_limit (by norm_num)

/-- Rounding a rational is defined. -/
theorem ofRat_ne_nan (negativeZero : Bool) (value : ℚ) : ofRat negativeZero value ≠ nan := by
  unfold ofRat ofQuotient
  split
  · simp [zero]
  · exact ofSignificand_ne_nan _ _ _

end PulseProgram.Binary64

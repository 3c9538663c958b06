import PulseProgram.Proofs.Binary64.Order

/-!
# Sums, products and whole numbers in double precision

The results of arithmetic on finite numbers stand at the rounded exact results.
Rounding to a whole number is exact, because a number with a fraction is below two to
the 53rd; the infinities are whole as well. So `floor` and `round` act on positions as
they act on rationals, without any condition.
-/

namespace PulseProgram.Binary64

/-! ## Finite numbers -/

/-- Finite numbers stand at their exact value. A statement about values is one about positions, as
long as all numbers in it are finite. -/
theorem position_of_isFinite {value : Binary64} (finite : value.isFinite = true) :
    value.position = value.toRat := by
  cases value with
  | finite => rfl
  | _ => simp [isFinite] at finite

/-- A number that is finite is defined. -/
theorem ne_nan_of_isFinite {value : Binary64} (finite : value.isFinite = true) : value ≠ nan := by
  rintro rfl
  simp [isFinite] at finite

/-- The value of a finite number is exact. The stored form is a significand of at most 53 bits at a
place that is not below the smallest, which is all that exactness needs. -/
theorem isExact_toRat (value : Binary64) : IsExact value.toRat := by
  have zero : rounded 0 = 0 := by
    rw [rounded_of_nonneg le_rfl, roundedMagnitude_zero]
  refine ⟨?_, (abs_toRat_lt value).le⟩
  cases value with
  | nan => exact zero
  | infinite negative => exact zero
  | finite negative significand exponent canonical =>
    have exact := roundedMagnitude_exact canonical.1 canonical.2.1
    have nonnegative : (0 : ℚ) ≤ significand * 2 ^ exponent := by positivity
    rw [toRat_finite]
    cases negative with
    | false => simpa [rounded_of_nonneg nonnegative] using exact
    | true => simpa [rounded_neg, rounded_of_nonneg nonnegative] using exact

/-- Small natural numbers stand at their own value. -/
theorem ofNat_position {value : Nat} (small : value ≤ 2 ^ 53) :
    (ofNat value).position = value := by
  have exact : IsExact (value : ℚ) := by
    exact_mod_cast @isExact_intCast value (by simpa using small)
  rw [ofNat, ofRat_position, exact.clamp_rounded]

/-- Natural numbers are defined. -/
theorem ofNat_ne_nan (value : Nat) : ofNat value ≠ nan := ofRat_ne_nan _ _

/-- Zero is defined. -/
theorem zero_ne_nan : (0 : Binary64) ≠ nan := ofNat_ne_nan 0

/-- Zero stands at zero. -/
theorem zero_position : (0 : Binary64).position = 0 := by
  exact_mod_cast ofNat_position (Nat.zero_le _)

/-- What is not below zero is defined and stands on the right of zero. Zero with a negative sign is
among it. -/
theorem nonneg_iff {value : Binary64} : 0 ≤ value ↔ value ≠ nan ∧ 0 ≤ value.position := by
  constructor
  · intro nonnegative
    have defined : value ≠ nan := by
      rintro rfl
      exact absurd nonnegative (by decide)
    rw [le_iff zero_ne_nan defined, zero_position] at nonnegative
    exact ⟨defined, nonnegative⟩
  · rintro ⟨defined, nonnegative⟩
    rwa [le_iff zero_ne_nan defined, zero_position]

/-- A finite number is below zero exactly if its value is. -/
theorem lt_zero_iff {value : Binary64} (finite : value.isFinite = true) :
    value < 0 ↔ value.toRat < 0 := by
  rw [lt_iff (ne_nan_of_isFinite finite) zero_ne_nan, zero_position, position_of_isFinite finite]

/-- A finite sum stands at the rounded exact sum. Nothing is assumed of its size: where it lies
beyond the range, the result is an infinity, which stands at the end of it. -/
theorem add_position {left right : Binary64} (left_finite : left.isFinite = true)
    (right_finite : right.isFinite = true) :
    left + right ≠ nan ∧
      (left + right).position = clamp (rounded (left.position + right.position)) := by
  rw [position_of_isFinite left_finite, position_of_isFinite right_finite]
  cases left with
  | finite =>
    cases right with
    | finite => exact ⟨ofRat_ne_nan _ _, ofRat_position _ _⟩
    | _ => simp [isFinite] at right_finite
  | _ => simp [isFinite] at left_finite

/-- A finite product stands at the rounded exact product, overflow included. It is defined, since an
undefined product needs an infinite factor. -/
theorem mul_position {left right : Binary64} (left_finite : left.isFinite = true)
    (right_finite : right.isFinite = true) :
    left * right ≠ nan ∧
      (left * right).position = clamp (rounded (left.position * right.position)) := by
  rw [position_of_isFinite left_finite, position_of_isFinite right_finite]
  cases left with
  | finite =>
    cases right with
    | finite => exact ⟨ofRat_ne_nan _ _, ofRat_position _ _⟩
    | _ => simp [isFinite] at right_finite
  | _ => simp [isFinite] at left_finite

/-- A finite quotient stands at the rounded exact quotient, if there is one. The divisor is not
zero, of either sign; a quotient beyond the range stands at the end of it. -/
theorem div_position {left right : Binary64} (left_finite : left.isFinite = true)
    (right_finite : right.isFinite = true) (nonzero : right.position ≠ 0) :
    left / right ≠ nan ∧
      (left / right).position = clamp (rounded (left.position / right.position)) := by
  rw [position_of_isFinite right_finite] at nonzero ⊢
  rw [position_of_isFinite left_finite]
  cases left with
  | finite leftSign leftSignificand leftExponent leftCanonical =>
    cases right with
    | finite rightSign rightSignificand rightExponent rightCanonical =>
      have divisor : rightSignificand ≠ 0 := by
        rintro rfl
        cases rightSign <;> simp [toRat] at nonzero
      have quotient : finite leftSign leftSignificand leftExponent leftCanonical /
          finite rightSign rightSignificand rightExponent rightCanonical =
            ofRat (leftSign ^^ rightSign)
              ((finite leftSign leftSignificand leftExponent leftCanonical).toRat /
                (finite rightSign rightSignificand rightExponent rightCanonical).toRat) :=
        if_neg divisor
      rw [quotient]
      exact ⟨ofRat_ne_nan _ _, ofRat_position _ _⟩
    | _ => simp [isFinite] at right_finite
  | _ => simp [isFinite] at left_finite

/-- A finite term does not move an infinity. -/
theorem infinite_add (negative : Bool) {right : Binary64} (finite : right.isFinite = true) :
    infinite negative + right = infinite negative := by
  cases right with
  | finite => rfl
  | _ => simp [isFinite] at finite

/-! ## Whole numbers -/

/-- A rounding to integers that crosses no integer. Greatest integers below, least integers above
and nearest integers are such roundings, however they decide ties. -/
structure RespectsWhole (round : ℚ → ℤ) : Prop where
  le_round : ∀ {whole : ℤ} {value : ℚ}, whole ≤ value → whole ≤ round value
  round_le : ∀ {whole : ℤ} {value : ℚ}, value ≤ whole → round value ≤ whole

/-- Such a rounding keeps integers, since it crosses them from neither side. -/
theorem RespectsWhole.fixes {round : ℚ → ℤ} (respects : RespectsWhole round) (whole : ℤ) :
    round whole = whole :=
  le_antisymm (respects.round_le le_rfl) (respects.le_round le_rfl)

/-- The greatest integer below crosses no integer. -/
theorem respectsWhole_floor : RespectsWhole Rat.floor where
  le_round := Rat.le_floor_iff.mpr
  round_le below := by
    have floored := (Int.floor_le _).trans below
    exact_mod_cast floored

/-- The nearest integer, in terms of greatest integers below. The form with a half added shows that
ties go away from zero. -/
theorem nearestAway_eq (value : ℚ) :
    nearestAway value = if value < 0 then -⌊-value + 1 / 2⌋ else ⌊value + 1 / 2⌋ := by
  have half : mkRat 1 2 = 1 / 2 := by norm_num [Rat.mkRat_eq_div]
  rw [nearestAway, half]
  rfl

/-- The nearest integer crosses no integer: a half that goes away from zero stops at the
next one. -/
theorem respectsWhole_nearestAway : RespectsWhole nearestAway := by
  constructor
  · intro whole value above
    rw [nearestAway_eq]
    split
    · next negative =>
      have bound : ⌊-value + 1 / 2⌋ < -whole + 1 := by
        rw [Int.floor_lt]
        push_cast
        linarith
      omega
    · rw [Int.le_floor]
      linarith
  · intro whole value below
    rw [nearestAway_eq]
    split
    · next negative =>
      have bound : -whole ≤ ⌊-value + 1 / 2⌋ := by
        rw [Int.le_floor]
        push_cast
        linarith
      omega
    · have bound : ⌊value + 1 / 2⌋ < whole + 1 := by
        rw [Int.floor_lt]
        push_cast
        linarith
      omega

/-- The nearest integer keeps the order. On one side of zero the greatest integer below does;
between the two sides stands zero, which is not crossed. -/
theorem nearestAway_mono {low high : ℚ} (ordered : low ≤ high) :
    nearestAway low ≤ nearestAway high := by
  rw [nearestAway_eq, nearestAway_eq]
  split_ifs with lowSign highSign highSign
  · exact neg_le_neg (Int.floor_le_floor (by linarith))
  · have left : 0 ≤ ⌊-low + 1 / 2⌋ := Int.floor_nonneg.mpr (by linarith)
    have right : 0 ≤ ⌊high + 1 / 2⌋ := Int.floor_nonneg.mpr (by linarith)
    omega
  · exact absurd highSign (by linarith)
  · exact Int.floor_le_floor (by linarith)

/-- The nearest integer is not negative exactly for what lies less than a half below zero. The half
itself goes away from zero. -/
theorem nearestAway_nonneg_iff (value : ℚ) : 0 ≤ nearestAway value ↔ -(1 / 2) < value := by
  rw [nearestAway_eq]
  split
  · rw [neg_nonneg, ← Int.lt_add_one_iff, Int.floor_lt]
    push_cast
    constructor <;> intro _ <;> linarith
  · next nonnegative =>
    rw [Int.floor_nonneg]
    constructor <;> intro _ <;> linarith

/-- The nearest integer is within a bound exactly for what lies less than a half above it. -/
theorem nearestAway_le_iff (value : ℚ) (bound : ℕ) :
    nearestAway value ≤ bound ↔ value < bound + 1 / 2 := by
  have nonnegative : (0 : ℚ) ≤ bound := Nat.cast_nonneg bound
  rw [nearestAway_eq]
  split
  · next negative =>
    have floored : 0 ≤ ⌊-value + 1 / 2⌋ := Int.floor_nonneg.mpr (by linarith)
    exact iff_of_true (by omega) (by linarith)
  · rw [← Int.lt_add_one_iff, Int.floor_lt]
    push_cast
    constructor <;> intro _ <;> linarith

/-- A finite number is an integer or below two to the 53rd. A significand at a place that is not
below one is whole; at a smaller place 53 bits do not reach further. -/
theorem whole_or_short (value : Binary64) :
    (∃ whole : ℤ, value.toRat = whole) ∨ |value.toRat| < 2 ^ 53 := by
  cases value with
  | nan => exact .inl ⟨0, by simp [toRat]⟩
  | infinite negative => exact .inl ⟨0, by simp [toRat]⟩
  | finite negative significand exponent canonical =>
    rw [toRat_finite]
    rcases le_or_gt 0 exponent with whole | fractional
    · obtain ⟨places, rfl⟩ := Int.eq_ofNat_of_zero_le whole
      exact .inl ⟨(if negative then -1 else 1) * (significand * 2 ^ places), by
        push_cast
        simp⟩
    · right
      have nonnegative : (0 : ℚ) ≤ significand * 2 ^ exponent := by positivity
      have sign : |(if negative = true then -1 else 1 : ℚ)| = 1 := by cases negative <;> simp
      rw [abs_mul, sign, one_mul, abs_of_nonneg nonnegative]
      calc (significand * 2 ^ exponent : ℚ) ≤ significand * 2 ^ (0 : ℤ) := by
            gcongr
            norm_num
        _ = significand := by simp
        _ < 2 ^ 53 := by exact_mod_cast canonical.1

/-- A rounding that crosses no integer gives exact numbers. It keeps integers, and it does not lead
a number below two to the 53rd beyond that bound, up to which all integers are exact. -/
theorem isExact_whole {round : ℚ → ℤ} (respects : RespectsWhole round) (value : Binary64) :
    IsExact (round value.toRat) := by
  rcases value.whole_or_short with ⟨whole, integral⟩ | short
  · have exact := value.isExact_toRat
    rw [integral] at exact ⊢
    rwa [respects.fixes]
  · obtain ⟨low, high⟩ := abs_lt.mp short
    have lower : -2 ^ 53 ≤ round value.toRat := respects.le_round (by push_cast; exact low.le)
    have upper : round value.toRat ≤ 2 ^ 53 := respects.round_le (by push_cast; exact high.le)
    exact isExact_intCast (by omega)

/-- Rounding to a whole number acts on positions as on rationals. A number with places
below one is short enough for the result to be exact; any other number in the range, its
ends included, is an integer. -/
theorem toWhole_position {round : ℚ → ℤ} (respects : RespectsWhole round) (value : Binary64) :
    (toWhole round value).position = round value.position := by
  obtain ⟨last, endpoint⟩ := limit_whole
  cases value with
  | nan =>
    have zero := respects.fixes 0
    rw [Int.cast_zero] at zero
    simp [toWhole, position, zero]
  | infinite negative =>
    cases negative with
    | false =>
      change limit = (round limit : ℚ)
      rw [endpoint, respects.fixes]
    | true =>
      change -limit = (round (-limit) : ℚ)
      rw [endpoint, ← Int.cast_neg, respects.fixes]
  | finite negative significand exponent canonical =>
    have exact := isExact_whole respects (finite negative significand exponent canonical)
    change (ofRat negative
      (round (finite negative significand exponent canonical).toRat)).position = _
    rw [ofRat_position, exact.clamp_rounded]
    rfl

/-- A number that is defined stays so when it is rounded to a whole number. -/
theorem toWhole_ne_nan {round : ℚ → ℤ} {value : Binary64} (defined : value ≠ nan) :
    toWhole round value ≠ nan := by
  cases value with
  | nan => exact absurd rfl defined
  | infinite negative => exact defined
  | finite => exact ofRat_ne_nan _ _

/-- The whole part acts on positions as on rationals. -/
theorem floor_position (value : Binary64) : value.floor.position = ⌊value.position⌋ :=
  toWhole_position respectsWhole_floor value

/-- The nearest whole number acts on positions as on rationals. -/
theorem round_position (value : Binary64) : value.round.position = nearestAway value.position :=
  toWhole_position respectsWhole_nearestAway value

/-- The unsigned integer of a number that is not negative is its whole part, up to the largest one.
An infinity gives the largest one, since it stands beyond every width that is considered. -/
theorem toUnsigned_of_nonneg {width : Nat} (narrow : width ≤ 1024) {value : Binary64}
    (nonnegative : 0 ≤ value.position) :
    value.toUnsigned width = min (2 ^ width - 1) ⌊value.position⌋.toNat := by
  have positive := limit_pos
  have some_room : 0 < 2 ^ width := Nat.two_pow_pos width
  cases value with
  | nan => simp [toUnsigned, toIntClamped, position]
  | infinite negative =>
    cases negative with
    | true =>
      have impossible : (0 : ℚ) ≤ -limit := nonnegative
      linarith
    | false =>
      have beyond : ((2 ^ width : Nat) : ℤ) ≤ ⌊limit⌋ := by
        rw [Int.le_floor]
        push_cast
        exact pow_le_limit narrow
      change (((Nat.pow 2 width : Nat) : ℤ) - 1).toNat = min (2 ^ width - 1) ⌊limit⌋.toNat
      rw [Nat.pow_eq]
      omega
  | finite negative significand exponent canonical =>
    have whole := Int.floor_nonneg.mpr nonnegative
    simp only [toUnsigned, toIntClamped, truncate, position, Nat.pow_eq] at nonnegative whole ⊢
    have part : (finite negative significand exponent canonical).toRat.floor =
        ⌊(finite negative significand exponent canonical).toRat⌋ := rfl
    rw [if_neg (not_lt.mpr nonnegative), part]
    omega

/-- The unsigned integer of a negative number is zero, also of one that lies less than one below
it. -/
theorem toUnsigned_of_neg {width : Nat} {value : Binary64} (left : value.position < 0) :
    value.toUnsigned width = 0 := by
  cases value with
  | nan => rfl
  | infinite negative =>
    cases negative with
    | true => rfl
    | false => exact absurd left (not_lt.mpr limit_pos.le)
  | finite negative significand exponent canonical =>
    set value := finite negative significand exponent canonical
    have whole : 0 ≤ (-value.toRat).floor := Int.floor_nonneg.mpr (neg_nonneg.mpr left.le)
    have part : truncate value.toRat = -(-value.toRat).floor := if_pos left
    change (max 0 (min (((Nat.pow 2 width : Nat) : ℤ) - 1) (truncate value.toRat))).toNat = 0
    omega

/-- Dropping the fraction of an integer leaves it. -/
theorem truncate_intCast (whole : ℤ) : truncate (whole : ℚ) = whole := by
  unfold truncate
  split
  · rw [← Int.cast_neg, Rat.floor_intCast, neg_neg]
  · rw [Rat.floor_intCast]

/-- The signed integer of a number that stands at an integer is this one, moved into the 64 bits
if it lies outside. -/
theorem toSigned_of_whole {value : Binary64} {whole : ℤ} (stands : value.position = whole) :
    value.toSigned = max (-2 ^ 63) (min (2 ^ 63 - 1) whole) := by
  have wide : (2 : ℚ) ^ 63 ≤ limit := pow_le_limit (by norm_num)
  cases value with
  | nan =>
    obtain rfl : whole = 0 := Int.cast_eq_zero.mp stands.symm
    rfl
  | infinite negative =>
    cases negative with
    | true =>
      have far : whole ≤ -2 ^ 63 := by
        have below : (whole : ℚ) ≤ -2 ^ 63 := by
          rw [← stands]
          exact neg_le_neg wide
        exact_mod_cast below
      rw [min_eq_right (by omega), max_eq_left far]
      rfl
    | false =>
      have far : 2 ^ 63 ≤ whole := by
        have above : (2 : ℚ) ^ 63 ≤ whole := by
          rw [← stands]
          exact wide
        exact_mod_cast above
      rw [min_eq_left (by omega)]
      rfl
  | finite negative significand exponent canonical =>
    have exact : (finite negative significand exponent canonical).toRat = whole := stands
    rw [toSigned, toIntClamped, exact, truncate_intCast]
    rfl

end PulseProgram.Binary64

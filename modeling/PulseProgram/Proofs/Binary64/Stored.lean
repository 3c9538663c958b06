import PulseProgram.Proofs.Binary64.Nearest

/-!
# The stored form of a number

A number has one stored form: a finite number is determined by its exact value and its
sign, which matters for zero alone. So a value that is rounded back to a number with that
sign gives the number it came from, and a number that stands at an integer is left alone by
a rounding to whole numbers, down to the sign of a zero.
-/

namespace PulseProgram.Binary64

/-- A significand and exponent in stored form are determined by the magnitude, zero included.

Proof: with two exponents, the significand at the lower one would need a bit more than there is; so
the exponents are the same, and then the significands are. -/
theorem eq_of_magnitude_eq {first second : Nat} {place other : ℤ}
    (canonical : IsCanonical first place) (otherCanonical : IsCanonical second other)
    (same : (first * 2 ^ place : ℚ) = second * 2 ^ other) : first = second ∧ place = other := by
  have notBelow : ∀ {first second : Nat} {place other : ℤ}, IsCanonical first place →
      IsCanonical second other → (first * 2 ^ place : ℚ) = second * 2 ^ other →
        other ≤ place := by
    intro first second place other canonical otherCanonical same
    by_contra below
    obtain ⟨short, bottom, -, -⟩ := canonical
    obtain ⟨-, -, -, full⟩ := otherCanonical
    have long : 2 ^ 52 ≤ second := full.resolve_right (by omega)
    have tooShort : (first * 2 ^ place : ℚ) < second * 2 ^ other := by
      calc (first * 2 ^ place : ℚ) < ((2 ^ 53 : Nat) : ℚ) * 2 ^ place := by
            gcongr
            exact short
        _ = ((2 ^ 52 : Nat) : ℚ) * 2 ^ (place + 1) := by
          rw [zpow_add_one₀ two_ne_zero]
          push_cast
          ring
        _ ≤ second * 2 ^ other := by
          gcongr
          · norm_num
          · omega
    exact absurd same tooShort.ne
  obtain rfl : place = other :=
    le_antisymm (notBelow otherCanonical canonical same.symm)
      (notBelow canonical otherCanonical same)
  refine ⟨?_, rfl⟩
  have scale : (2 : ℚ) ^ place ≠ 0 := by positivity
  exact_mod_cast mul_right_cancel₀ scale same

/-- Finite numbers of the same sign and value are the same. The sign has to be given only because a
zero has two of them. -/
theorem eq_of_toRat_eq {left right : Binary64} (left_finite : left.isFinite = true)
    (right_finite : right.isFinite = true) (signs : left.isNegative = right.isNegative)
    (values : left.toRat = right.toRat) : left = right := by
  cases left with
  | finite negative significand exponent canonical =>
    cases right with
    | finite otherNegative otherSignificand otherExponent otherCanonical =>
      obtain rfl : negative = otherNegative := signs
      have magnitudes : (significand * 2 ^ exponent : ℚ) =
          otherSignificand * 2 ^ otherExponent := by
        rw [toRat_finite, toRat_finite] at values
        cases negative <;> simpa using values
      obtain ⟨rfl, rfl⟩ := eq_of_magnitude_eq canonical otherCanonical magnitudes
      rfl
    | _ => exact nomatch right_finite
  | _ => exact nomatch left_finite

/-- A rounded rational has the sign of the rational; for zero it has the sign it is given. A
rational that is rounded to zero keeps the sign it had. -/
theorem isNegative_ofRat (negativeZero : Bool) (value : ℚ) :
    (ofRat negativeZero value).isNegative =
      if value = 0 then negativeZero else decide (value < 0) := by
  have stored : ∀ (negative : Bool) (significand : Nat) (exponent : ℤ),
      (ofSignificand negative significand exponent).isNegative = negative := by
    intro negative significand exponent
    unfold ofSignificand
    dsimp only
    split <;> split <;> rfl
  unfold ofRat
  by_cases vanishes : value = 0
  · rw [if_pos (Rat.num_eq_zero.mpr vanishes), if_pos vanishes]
    rfl
  · rw [if_neg (mt Rat.num_eq_zero.mp vanishes), if_neg vanishes, ofQuotient, stored]
    simp only [Rat.num_neg]

/-- The sign of a finite number is that of its value, unless it is a zero. -/
theorem isNegative_eq {value : Binary64} (finite : value.isFinite = true)
    (nonzero : value.toRat ≠ 0) : value.isNegative = decide (value.toRat < 0) := by
  cases value with
  | finite negative significand exponent canonical =>
    rw [toRat_finite] at nonzero ⊢
    have magnitude : (0 : ℚ) ≤ significand * 2 ^ exponent := by positivity
    cases negative with
    | false => simpa [isNegative] using magnitude
    | true =>
      have positive : (0 : ℚ) < significand * 2 ^ exponent :=
        lt_of_le_of_ne magnitude (by rintro vanishes; simp [← vanishes] at nonzero)
      simpa [isNegative] using positive
  | _ => exact absurd finite Bool.false_ne_true

/-- A finite number is the one nearest to its value that has its sign. Rounding moves no exact
value, so value and sign come back, and they determine the number. -/
theorem ofRat_toRat {value : Binary64} (finite : value.isFinite = true) :
    ofRat value.isNegative value.toRat = value := by
  have place : (ofRat value.isNegative value.toRat).position = value.toRat := by
    rw [ofRat_position, (isExact_toRat value).clamp_rounded]
  have stored : (ofRat value.isNegative value.toRat).isFinite = true := by
    apply isFinite_of_abs_lt (ofRat_ne_nan _ _)
    rw [place]
    exact abs_toRat_lt value
  refine eq_of_toRat_eq stored finite ?_ ((position_of_isFinite stored).symm.trans place)
  rw [isNegative_ofRat]
  split
  · rfl
  · next nonzero => exact (isNegative_eq finite nonzero).symm

/-- A number that stands at an integer is kept by a rounding that crosses none, down to the sign of
a zero. This is an equality of numbers and not only of their positions. -/
theorem toWhole_eq_self {round : ℚ → ℤ} (respects : RespectsWhole round) {value : Binary64}
    {whole : ℤ} (finite : value.isFinite = true) (stands : value.toRat = whole) :
    toWhole round value = value := by
  have kept : (round value.toRat : ℚ) = value.toRat := by
    rw [stands, respects.fixes]
  have rounded : toWhole round value = ofRat value.isNegative (round value.toRat) := by
    cases value with
    | finite => rfl
    | _ => exact nomatch finite
  rw [rounded, kept, ofRat_toRat finite]

end PulseProgram.Binary64

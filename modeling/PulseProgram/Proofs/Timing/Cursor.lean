import PulseProgram.Proofs.Binary64.Whole
import PulseProgram.Timing

/-!
# The cursor in virtual time

The cursor starts at or after time zero and never moves back. As long as its step is
below two to the 53rd, an update that spans a tick moves it to a later step: the next
step is exact, so neither the rounded sum nor the snap to a whole number can fall short
of it. Further out the gaps between numbers exceed a tick and the cursor may stand
still. A cursor beyond the range is an infinity and stays there.
-/

namespace PulseProgram

open Binary64

/-- A defined value that is not at or below zero is not below zero. The undefined number is at or
below nothing, which is why it has to be excluded. -/
theorem nonneg_of_not_nonpos {value : Binary64} (defined : value ≠ nan)
    (positive : ¬value ≤ 0) : 0 ≤ value := by
  rw [le_iff defined zero_ne_nan, zero_position, not_le] at positive
  exact nonneg_iff.mpr ⟨defined, positive.le⟩

/-- An advance passes the first check if its whole part is finite and at least one. -/
def SpansTick (advance : Binary64) : Prop :=
  advance.floor.isFinite = true ∧ ¬advance.floor < 1

/-- An advance that passes the first check is finite and at least one. That it is defined and not
infinite is a conclusion: the whole part of any other number is not finite. -/
theorem SpansTick.one_le {advance : Binary64} (spans : SpansTick advance) :
    advance.isFinite = true ∧ 1 ≤ advance.position := by
  obtain ⟨whole_finite, not_below⟩ := spans
  have finite : advance.isFinite = true := by
    cases advance with
    | finite => rfl
    | _ => exact absurd whole_finite (by simp [floor, toWhole, isFinite])
  have one_defined : (1 : Binary64) ≠ nan := ofNat_ne_nan 1
  have one_position : (1 : Binary64).position = 1 := by
    exact_mod_cast ofNat_position (by norm_num : 1 ≤ 2 ^ 53)
  rw [lt_iff (ne_nan_of_isFinite whole_finite) one_defined, one_position, floor_position,
    not_lt] at not_below
  exact ⟨finite, not_below.trans (Int.floor_le _)⟩

/-- Snapping gives the count itself or the nearest whole number. All that is said of a snap below
holds of both, so the tolerance test is not looked into. -/
theorem snapTicks_eq_or (ticks : Binary64) :
    snapTicks ticks = ticks.round ∨ snapTicks ticks = ticks := by
  unfold snapTicks
  split
  · exact .inl rfl
  · exact .inr rfl

/-- Snapping does not move a count back across a whole number it has passed. The tolerance does not
matter for this, since the nearest whole number crosses none. -/
theorem le_snapTicks {ticks : Binary64} {whole : ℤ} (passed : whole ≤ ticks.position) :
    whole ≤ (snapTicks ticks).position := by
  rcases snapTicks_eq_or ticks with same | same
  · rw [same, round_position]
    exact_mod_cast respectsWhole_nearestAway.le_round passed
  · rw [same]
    exact passed

/-- Snapping does not move a count across a whole number it has not passed. -/
theorem snapTicks_le {ticks : Binary64} {whole : ℤ} (ahead : ticks.position ≤ whole) :
    (snapTicks ticks).position ≤ whole := by
  rcases snapTicks_eq_or ticks with same | same
  · rw [same, round_position]
    exact_mod_cast respectsWhole_nearestAway.round_le ahead
  · rw [same]
    exact ahead

/-- Snapping a defined count gives a defined count. -/
theorem snapTicks_ne_nan {ticks : Binary64} (defined : ticks ≠ nan) : snapTicks ticks ≠ nan := by
  rcases snapTicks_eq_or ticks with same | same
  · rw [same]
    exact toWhole_ne_nan defined
  · rw [same]
    exact defined

/-- The step of a cursor is the whole part of its position, up to the last step. An infinite cursor
is at the last step. -/
theorem stepAt_eq {ticks : Binary64} (nonnegative : 0 ≤ ticks) :
    stepAt ticks = min (2 ^ 64 - 1) ⌊ticks.position⌋.toNat := by
  have whole := Int.floor_nonneg.mpr (nonneg_iff.mp nonnegative).2
  rw [stepAt, toUnsigned_of_nonneg (by norm_num), floor_position, Int.floor_intCast]
  rw [floor_position]
  exact_mod_cast whole

/-- A cursor that is not at or after time zero is at the first step. So all negative cursors share
one step, and an undefined one has it as well. -/
theorem stepAt_of_not_nonneg {ticks : Binary64} (before : ¬0 ≤ ticks) : stepAt ticks = 0 := by
  by_cases defined : ticks = nan
  · rw [defined]
    rfl
  · have left : ticks.position < 0 := by
      by_contra right
      exact before (nonneg_iff.mpr ⟨defined, not_lt.mp right⟩)
    apply toUnsigned_of_neg
    rw [floor_position]
    exact_mod_cast Int.floor_lt.mpr (by exact_mod_cast left)

/-- A cursor is past the first step exactly if it is at the first tick or beyond. Nothing is assumed
of the cursor, not even that it is defined. -/
theorem stepAt_pos_iff {ticks : Binary64} : 0 < stepAt ticks ↔ 1 ≤ ticks := by
  have one_defined : (1 : Binary64) ≠ nan := ofNat_ne_nan 1
  have one_position : (1 : Binary64).position = 1 := by
    exact_mod_cast ofNat_position (by norm_num : 1 ≤ 2 ^ 53)
  by_cases nonnegative : 0 ≤ ticks
  · obtain ⟨defined, -⟩ := nonneg_iff.mp nonnegative
    have whole : (1 : ℤ) ≤ ⌊ticks.position⌋ ↔ 1 ≤ ticks.position := by
      rw [Int.le_floor, Int.cast_one]
    rw [stepAt_eq nonnegative, le_iff one_defined defined, one_position, ← whole]
    omega
  · rw [stepAt_of_not_nonneg nonnegative]
    refine iff_of_false (Nat.lt_irrefl 0) fun right => nonnegative ?_
    have defined : ticks ≠ nan := by
      rintro rfl
      exact absurd right (by decide)
    rw [le_iff one_defined defined, one_position] at right
    exact nonneg_iff.mpr ⟨defined, zero_le_one.trans right⟩

/-- Snapping leaves an infinity where it is. -/
theorem snapTicks_infinite (negative : Bool) :
    snapTicks (.infinite negative) = .infinite negative := by
  rcases snapTicks_eq_or (.infinite negative) with same | same <;> exact same

/-- An advance leads past every exact whole number up to the exact sum.

Proof: the whole number is its own rounded value, so rounding the sum does not fall short of it by
monotonicity, and neither does the snap. An infinite cursor stays beyond all of them. -/
theorem le_advanced {ticks advance : Binary64} {whole : ℤ} (nonnegative : 0 ≤ ticks)
    (finite : advance.isFinite = true) (exact : IsExact (whole : ℚ))
    (reached : whole ≤ ticks.position + advance.position) :
    whole ≤ (snapTicks (ticks + advance)).position := by
  apply le_snapTicks
  cases ticks with
  | nan => exact absurd rfl (nonneg_iff.mp nonnegative).1
  | infinite negative =>
    rw [infinite_add negative finite]
    cases negative with
    | false => exact (abs_le.mp exact.abs_le).2
    | true =>
      have right : (0 : ℚ) ≤ -limit := (nonneg_iff.mp nonnegative).2
      linarith [limit_pos]
  | finite =>
    rw [(add_position rfl finite).2]
    calc (whole : ℚ) = clamp (rounded whole) := exact.clamp_rounded.symm
      _ ≤ clamp (rounded _) := clamp_mono (rounded_mono reached)

/-- The cursor stays at or after time zero. Neither the cursor nor the sum need be finite. -/
theorem advanced_nonneg {ticks advance : Binary64} (nonnegative : 0 ≤ ticks)
    (spans : SpansTick advance) : 0 ≤ snapTicks (ticks + advance) := by
  obtain ⟨finite, one_le⟩ := spans.one_le
  obtain ⟨defined, right⟩ := nonneg_iff.mp nonnegative
  have sum_defined : ticks + advance ≠ nan := by
    cases ticks with
    | nan => exact absurd rfl defined
    | infinite negative =>
      rw [infinite_add negative finite]
      exact defined
    | finite => exact (add_position rfl finite).1
  have passed : ((0 : ℤ) : ℚ) ≤ (snapTicks (ticks + advance)).position := by
    apply le_advanced nonnegative finite (isExact_intCast (by norm_num))
    push_cast
    linarith
  exact nonneg_iff.mpr ⟨snapTicks_ne_nan sum_defined, by exact_mod_cast passed⟩

/-- The cursor never moves back, however far out it is. The whole part of the cursor is exact, so
the sum does not fall short of it even where it is rounded by more than a tick. -/
theorem stepAt_le_advanced {ticks advance : Binary64} (nonnegative : 0 ≤ ticks)
    (spans : SpansTick advance) : stepAt ticks ≤ stepAt (snapTicks (ticks + advance)) := by
  obtain ⟨finite, one_le⟩ := spans.one_le
  obtain ⟨defined, right⟩ := nonneg_iff.mp nonnegative
  cases ticks with
  | nan => exact absurd rfl defined
  | infinite negative => rw [infinite_add negative finite, snapTicks_infinite]
  | finite negative significand exponent canonical =>
    set ticks := Binary64.finite negative significand exponent canonical
    have passed : (⌊ticks.position⌋ : ℚ) ≤ (snapTicks (ticks + advance)).position := by
      have below : (⌊ticks.position⌋ : ℚ) ≤ ticks.position + advance.position := by
        linarith [Int.floor_le ticks.position]
      exact le_advanced nonnegative finite (isExact_whole respectsWhole_floor ticks) below
    have later := Int.le_floor.mpr passed
    rw [stepAt_eq nonnegative, stepAt_eq (advanced_nonneg nonnegative spans)]
    omega

/-- Below two to the 53rd the cursor always reaches a later step: the next step is an exact whole
number that the exact sum reaches. Further out this fails, since the advance may be rounded away. -/
theorem stepAt_lt_advanced {ticks advance : Binary64} (nonnegative : 0 ≤ ticks)
    (spans : SpansTick advance) (near : stepAt ticks < 2 ^ 53) :
    stepAt ticks < stepAt (snapTicks (ticks + advance)) := by
  obtain ⟨finite, one_le⟩ := spans.one_le
  have whole := Int.floor_nonneg.mpr (nonneg_iff.mp nonnegative).2
  rw [stepAt_eq nonnegative] at near ⊢
  rw [stepAt_eq (advanced_nonneg nonnegative spans)]
  have passed : ((⌊ticks.position⌋ + 1 : ℤ) : ℚ) ≤ (snapTicks (ticks + advance)).position := by
    apply le_advanced nonnegative finite (isExact_intCast (by omega))
    push_cast
    linarith [Int.floor_le ticks.position]
  have later := Int.le_floor.mpr passed
  omega

/-- A cursor that starts at a finite time not before zero starts at a step. The product may
overflow; then the cursor starts at an infinity. -/
theorem start_nonneg {startOffset clockRate : Binary64}
    (offset_finite : startOffset.isFinite = true) (offset_nonneg : 0 ≤ startOffset)
    (rate_finite : clockRate.isFinite = true) (rate_nonneg : 0 ≤ clockRate) :
    0 ≤ snapTicks (startOffset * clockRate) := by
  obtain ⟨defined, product⟩ := mul_position offset_finite rate_finite
  have right : ((0 : ℤ) : ℚ) ≤ (startOffset * clockRate).position := by
    have exact : IsExact ((0 : ℤ) : ℚ) := isExact_intCast (by norm_num)
    rw [product, ← exact.clamp_rounded]
    apply clamp_mono (rounded_mono _)
    rw [Int.cast_zero]
    exact mul_nonneg (nonneg_iff.mp offset_nonneg).2 (nonneg_iff.mp rate_nonneg).2
  exact nonneg_iff.mpr ⟨snapTicks_ne_nan defined, by exact_mod_cast le_snapTicks right⟩

end PulseProgram

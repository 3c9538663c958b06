import PulseProgram.Proofs.Timing.Snap

/-!
# The width of a trigger pulse

The width of a pulse is a time in seconds that is turned into ticks twice, in different ways.
An update that lasts for it moves the cursor by the snapped product with the clock rate, but the
pulse itself is as wide as the product rounded up, without a snap. If the product is snapped to
a whole number, the width is that number, or one more if the product lies just above it.
-/

namespace PulseProgram

open Binary64

/-- The least integer that is not below crosses no integer. -/
theorem respectsWhole_ceil : RespectsWhole Rat.ceil where
  le_round above := by
    have raised := above.trans Rat.le_ceil
    exact_mod_cast raised
  round_le := Rat.ceil_le_iff.mpr

/-- The least whole number that is not below acts on positions as on rationals. -/
theorem ceil_position (value : Binary64) : value.ceil.position = value.position.ceil :=
  toWhole_position respectsWhole_ceil value

/-- A count that is snapped to a whole number lies within a half of it, whether it was moved or
stood there already. -/
theorem near_of_snapTicks {ticks : Binary64} {whole : Nat}
    (snapped : StandsAt (snapTicks ticks) whole) : |(whole : ℚ) - ticks.position| ≤ 1 / 2 := by
  rcases snapTicks_eq_or ticks with same | same
  · have nearest := nearestAway_near ticks.position
    rwa [← round_position, ← same, snapped.position] at nearest
  · rw [← snapped.position, same, sub_self, abs_zero]
    norm_num

/-- If the product is snapped to a whole number of ticks, a pulse has this width, or one tick more
if the product lies above that number.

Proof: the product lies within a half of the whole number, so rounded up it is that number or the
next one, and it is the next one exactly if the product lies above. How close the product has to be
for the snap does not matter. -/
theorem Config.triggerWidth_eq {config : Config} {width : Nat} (small : width < 2 ^ 53)
    (snapped : StandsAt (snapTicks (config.minTriggerWidth * config.clockRate)) width) :
    config.triggerWidth =
      if (config.minTriggerWidth * config.clockRate).toRat ≤ width then width else width + 1 := by
  have finite := isFinite_of_snapTicks snapped.1
  have near := abs_le.mp (near_of_snapTicks snapped)
  rw [triggerWidth]
  generalize config.minTriggerWidth * config.clockRate = product at *
  rw [position_of_isFinite finite] at near
  have raised : product.ceil.position = product.toRat.ceil := by
    rw [ceil_position, position_of_isFinite finite]
  have above : (width : ℤ) - 1 < product.toRat.ceil := by
    rw [Rat.lt_ceil_iff]
    push_cast
    linarith
  have below : product.toRat.ceil ≤ width + 1 := by
    rw [Rat.ceil_le_iff]
    push_cast
    linarith
  have within : product.toRat.ceil ≤ (width : ℤ) ↔ product.toRat ≤ width := by
    rw [Rat.ceil_le_iff, Int.cast_natCast]
  have nonnegative : 0 ≤ product.ceil.position := by
    rw [raised]
    exact_mod_cast (by omega : 0 ≤ product.toRat.ceil)
  rw [toUnsigned_of_nonneg (by norm_num) nonnegative, raised, Int.floor_intCast]
  split
  · next reached =>
    have exact := within.mpr reached
    omega
  · next beyond =>
    have exact : ¬product.toRat.ceil ≤ (width : ℤ) := fun reached => beyond (within.mp reached)
    omega

end PulseProgram

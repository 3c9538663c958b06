import PulseProgram.Proofs.Binary64.Nearest
import PulseProgram.Proofs.Timing.Cursor

/-!
# How far snapping moves a tick count

A count is taken as the nearest whole number if it lies within a tolerance that is relative
to that number. Whole numbers therefore stay where they are, and any other count is moved
by about a billionth of it at most. The tolerance test is itself made in double precision,
which lets pass counts that lie beyond the tolerance by a relative rounding error.

A whole number is moved by no step of the counting: neither the sum of two of them nor the
snap changes it, as long as it is at most two to the 53rd.
-/

namespace PulseProgram

open Binary64

/-! ## Whole numbers of ticks -/

/-- A finite number whose value is a natural number. The sign of a zero is left open. -/
def StandsAt (value : Binary64) (whole : Nat) : Prop :=
  value.isFinite = true ∧ value.toRat = whole

instance (value : Binary64) (whole : Nat) : Decidable (StandsAt value whole) :=
  inferInstanceAs (Decidable (_ ∧ _))

namespace StandsAt

variable {value ticks advance : Binary64} {whole first second : Nat}

/-- The position of a whole number. -/
theorem position (stands : StandsAt value whole) : value.position = whole :=
  (position_of_isFinite stands.1).trans stands.2

/-- A defined number at the place of a small natural number is that number, since the infinities
stand far beyond it. -/
theorem of_position (defined : value ≠ nan) (small : whole ≤ 2 ^ 53)
    (place : value.position = whole) : StandsAt value whole := by
  have size : |value.position| < limit := by
    rw [place, abs_of_nonneg (by positivity)]
    calc (whole : ℚ) ≤ 2 ^ 53 := by exact_mod_cast small
      _ < 2 ^ 54 := by norm_num
      _ ≤ limit := pow_le_limit (by norm_num)
  have finite := isFinite_of_abs_lt defined size
  exact ⟨finite, (position_of_isFinite finite).symm.trans place⟩

/-- Snapping leaves a whole number where it is: it crosses the whole number from neither side. -/
theorem snap (stands : StandsAt value whole) (small : whole ≤ 2 ^ 53) :
    StandsAt (snapTicks value) whole := by
  rcases snapTicks_eq_or value with same | same
  · rw [same]
    refine of_position (toWhole_ne_nan (ne_nan_of_isFinite stands.1)) small ?_
    have fixed := respectsWhole_nearestAway.fixes whole
    rw [Int.cast_natCast] at fixed
    rw [round_position, stands.position, fixed, Int.cast_natCast]
  · rw [same]
    exact stands

/-- The sum of two whole numbers is exact, as long as the sum itself is at most two to the 53rd. -/
theorem add (ticks_stands : StandsAt ticks first) (advance_stands : StandsAt advance second)
    (small : first + second ≤ 2 ^ 53) : StandsAt (ticks + advance) (first + second) := by
  obtain ⟨defined, sum⟩ := add_position ticks_stands.1 advance_stands.1
  have exact : IsExact (((first + second : Nat) : ℤ) : ℚ) :=
    isExact_intCast ((Int.natAbs_natCast _).trans_le small)
  rw [Int.cast_natCast] at exact
  refine of_position defined small ?_
  rw [sum, ticks_stands.position, advance_stands.position, ← Nat.cast_add, exact.clamp_rounded]

/-- The step of a whole number of ticks is that number. The bound is needed only for the largest
steps, which are cut off. -/
theorem stepAt (stands : StandsAt value whole) (small : whole ≤ 2 ^ 53) :
    stepAt value = whole := by
  have nonnegative : 0 ≤ value := by
    rw [nonneg_iff, stands.position]
    exact ⟨ne_nan_of_isFinite stands.1, by positivity⟩
  rw [stepAt_eq nonnegative, stands.position, Int.floor_natCast]
  omega

end StandsAt

/-- Before two to the 53rd the step of a cursor is its whole part, since only later steps are cut
off. -/
theorem floor_of_stepAt_lt {ticks : Binary64} (nonnegative : 0 ≤ ticks)
    (near : stepAt ticks < 2 ^ 53) : ⌊ticks.position⌋ = (stepAt ticks : ℤ) := by
  have whole := Int.floor_nonneg.mpr (nonneg_iff.mp nonnegative).2
  rw [stepAt_eq nonnegative] at near ⊢
  omega

/-- A cursor before two to the 53rd is finite. An infinite one would be at the last step. -/
theorem isFinite_of_stepAt_lt {ticks : Binary64} (nonnegative : 0 ≤ ticks)
    (near : stepAt ticks < 2 ^ 53) : ticks.isFinite = true := by
  obtain ⟨defined, right⟩ := nonneg_iff.mp nonnegative
  have floored := floor_of_stepAt_lt nonnegative near
  apply isFinite_of_abs_lt defined
  rw [abs_of_nonneg right]
  have below := Int.lt_floor_add_one ticks.position
  have whole : ⌊ticks.position⌋ + 1 ≤ 2 ^ 53 := by omega
  calc ticks.position < ⌊ticks.position⌋ + 1 := below
    _ ≤ 2 ^ 53 := by exact_mod_cast whole
    _ ≤ limit := pow_le_limit (by norm_num)

/-- Only a finite count is snapped to a finite one: an infinity stays, and so does the undefined
number. -/
theorem isFinite_of_snapTicks {ticks : Binary64} (finite : (snapTicks ticks).isFinite = true) :
    ticks.isFinite = true := by
  cases ticks with
  | finite => rfl
  | nan => exact finite
  | infinite negative =>
    rw [snapTicks_infinite] at finite
    exact finite

/-! ## The reach of a snap -/

/-- Relative to the whole number, a count is moved by less than this. -/
def snapReach : ℚ := 1000001 / 10 ^ 15

/-- The tolerance as it is stored. It is not exactly a billionth, but lies between zero and a little
more. -/
theorem tickTolerance_bounds : tickTolerance.isFinite = true ∧ 0 ≤ tickTolerance.toRat ∧
    tickTolerance.toRat ≤ 10000001 / 10 ^ 16 := by
  decide +kernel

/-- One is stored exactly. -/
theorem one_stands : StandsAt 1 1 := by decide +kernel

/-- The tolerance test bounds the exact distance. Both sides of it are rounded, each by a small part
of itself, which is where the reach exceeds the tolerance. -/
theorem distance_le_of_rounded_le {distance size : ℚ} (nonnegative : 0 ≤ distance)
    (one_le : 1 ≤ size) (passed : rounded distance ≤ rounded (tickTolerance.toRat * size)) :
    distance ≤ snapReach * size := by
  obtain ⟨-, tolerance_nonneg, tolerance_le⟩ := tickTolerance_bounds
  have allowed : tickTolerance.toRat * size ≤ 10000001 / 10 ^ 16 * size := by gcongr
  have allowed_nonneg : 0 ≤ tickTolerance.toRat * size := by positivity
  have left := (abs_le.mp (rounded_near distance)).1
  have right := (abs_le.mp (rounded_near (tickTolerance.toRat * size))).2
  rw [abs_of_nonneg nonnegative] at left
  rw [abs_of_nonneg allowed_nonneg] at right
  have leftError := roundingError_le nonnegative
  have rightError := roundingError_le allowed_nonneg
  rw [snapReach]
  linarith

/-- The tolerance test compares the rounded distance to the nearest whole number, which is in the
range, with the rounded tolerance at that number.

Proof: each operation of the test acts on positions. The distance is at most a half, so only the
product on the other side may have to be moved into the range. -/
theorem close_iff {ticks : Binary64} (finite : ticks.isFinite = true) :
    (ticks - ticks.round).abs ≤ tickTolerance * ticks.round.abs.larger 1 ↔
      rounded |ticks.round.position - ticks.position| ≤
        clamp (rounded (tickTolerance.toRat * max |ticks.round.position| 1)) := by
  have nearest := isFinite_round finite
  obtain ⟨apart_defined, apart⟩ := sub_position finite nearest
  obtain ⟨size_finite, size⟩ := @larger_position ticks.round.abs 1
    ((isFinite_abs _).trans nearest) one_stands.1
  rw [abs_position, one_stands.position, Nat.cast_one] at size
  obtain ⟨allowed_defined, allowed⟩ := mul_position tickTolerance_bounds.1 size_finite
  have half : |ticks.round.position - ticks.position| ≤ 1 / 2 := by
    rw [round_position]
    exact nearestAway_near ticks.position
  have small : |rounded (ticks.position - ticks.round.position)| ≤ limit := by
    have one : rounded (1 : ℚ) = 1 := by exact_mod_cast @rounded_intCast 1 (by norm_num)
    calc |rounded (ticks.position - ticks.round.position)|
        = rounded |ticks.round.position - ticks.position| := by rw [abs_rounded, abs_sub_comm]
      _ ≤ rounded 1 := rounded_mono (by linarith)
      _ = 2 ^ 0 := by rw [one, pow_zero]
      _ ≤ limit := pow_le_limit (by norm_num)
  rw [le_iff (abs_ne_nan apart_defined) allowed_defined, abs_position, apart, allowed, size,
    position_of_isFinite tickTolerance_bounds.1, clamp_of_abs_le small, abs_rounded, abs_sub_comm]

/-- A count that passes the tolerance test is within reach of the nearest whole number. The reach is
an exact rational, so no rounding is left in the statement. -/
theorem near_round_of_close {ticks : Binary64} (finite : ticks.isFinite = true)
    (close : (ticks - ticks.round).abs ≤ tickTolerance * ticks.round.abs.larger 1) :
    |ticks.round.position - ticks.position| ≤ snapReach * max |ticks.round.position| 1 := by
  have one_le : (1 : ℚ) ≤ max |ticks.round.position| 1 := le_max_right _ _
  have allowed_nonneg : 0 ≤ tickTolerance.toRat * max |ticks.round.position| 1 :=
    mul_nonneg tickTolerance_bounds.2.1 (by linarith)
  exact distance_le_of_rounded_le (abs_nonneg _) one_le
    (((close_iff finite).mp close).trans (clamp_le (rounded_nonneg allowed_nonneg)))

/-- Of counts with the same nearest whole number, one that lies no further from it passes the
tolerance test if the other does. The sides of the test are rounded, but rounding is monotone. -/
theorem close_of_nearer {ticks other : Binary64} (finite : ticks.isFinite = true)
    (other_finite : other.isFinite = true) (same : ticks.round.position = other.round.position)
    (nearer : |ticks.round.position - ticks.position| ≤ |other.round.position - other.position|)
    (close : (other - other.round).abs ≤ tickTolerance * other.round.abs.larger 1) :
    (ticks - ticks.round).abs ≤ tickTolerance * ticks.round.abs.larger 1 := by
  rw [close_iff other_finite, ← same] at close
  rw [close_iff finite]
  rw [← same] at nearer
  exact (rounded_mono nearer).trans close

/-- Snapping a finite count moves it to the nearest whole number within reach, or leaves it where it
is. Which of the two happens is decided by the rounded test and not stated here. -/
theorem snapTicks_within {ticks : Binary64} (finite : ticks.isFinite = true) :
    (snapTicks ticks = ticks.round ∧
      |ticks.round.position - ticks.position| ≤ snapReach * max |ticks.round.position| 1) ∨
      snapTicks ticks = ticks := by
  unfold snapTicks
  split
  · next close => exact .inl ⟨rfl, near_round_of_close finite close⟩
  · exact .inr rfl

/-- Only a finite number times another one is finite. So a finite product tells that its factors
were not out of range. -/
theorem isFinite_left_of_mul {left right : Binary64} (finite : (left * right).isFinite = true) :
    left.isFinite = true := by
  change (left.mul right).isFinite = true at finite
  cases left with
  | finite => rfl
  | nan => exact nomatch finite
  | infinite negative =>
    cases right with
    | nan => exact nomatch finite
    | infinite other => exact nomatch finite
    | finite other significand exponent canonical =>
      change (if significand = 0 then nan else infinite (negative ^^ other)).isFinite = true
        at finite
      split at finite <;> exact nomatch finite

/-- How far a tick count that was computed and snapped may lie from the exact one, relative
to the count. -/
def countReach : ℚ := 1000002 / 10 ^ 15

/-- A snapped count lies close to the exact count that was rounded before the snap.

Proof: the snap and the rounding each move the count by a small part of it. The rounding error is
relative to the exact count, which is compared with the snapped one last. -/
theorem snapTicks_near {computed : Binary64} {exact : ℚ} (finite : computed.isFinite = true)
    (nearest : computed.position = clamp (rounded exact)) (nonnegative : 0 ≤ exact) :
    |(snapTicks computed).position - exact| ≤
      countReach * max (snapTicks computed).position 1 := by
  have stored := position_eq_rounded finite nearest
  have right : ((0 : ℤ) : ℚ) ≤ (snapTicks computed).position := by
    apply le_snapTicks
    rw [stored, Int.cast_zero]
    exact rounded_nonneg nonnegative
  rw [Int.cast_zero] at right
  have reached : |(snapTicks computed).position - computed.position| ≤
      snapReach * max (snapTicks computed).position 1 := by
    rcases snapTicks_within finite with ⟨same, within⟩ | same
    · rw [same] at right ⊢
      rwa [abs_of_nonneg right] at within
    · rw [same, sub_self, abs_zero, snapReach]
      positivity
  have one_le := le_max_right (snapTicks computed).position 1
  have at_least := le_max_left (snapTicks computed).position 1
  have rounding := rounded_near exact
  have error := roundingError_le nonnegative
  rw [← stored, abs_of_nonneg nonnegative] at rounding
  generalize max (snapTicks computed).position 1 = extent at *
  rw [snapReach] at reached
  rw [countReach]
  rw [abs_le] at reached rounding ⊢
  constructor <;> linarith

/-- A snapped product of finite numbers lies close to the exact product. -/
theorem snapTicks_mul_near {left right : Binary64} (left_finite : left.isFinite = true)
    (right_finite : right.isFinite = true) (finite : (snapTicks (left * right)).isFinite = true)
    (nonnegative : 0 ≤ left.toRat * right.toRat) :
    |(snapTicks (left * right)).position - left.toRat * right.toRat| ≤
      countReach * max (snapTicks (left * right)).position 1 := by
  obtain ⟨-, product⟩ := mul_position left_finite right_finite
  rw [position_of_isFinite left_finite, position_of_isFinite right_finite] at product
  exact snapTicks_near (isFinite_of_snapTicks finite) product nonnegative

/-- A negative product of finite numbers is not snapped to a positive one. Zero is exact, so neither
the rounding nor the snap crosses it. -/
theorem snapTicks_mul_nonpos {left right : Binary64} (left_finite : left.isFinite = true)
    (right_finite : right.isFinite = true) (negative : left.toRat * right.toRat ≤ 0) :
    (snapTicks (left * right)).position ≤ 0 := by
  obtain ⟨-, product⟩ := mul_position left_finite right_finite
  rw [position_of_isFinite left_finite, position_of_isFinite right_finite] at product
  have exact : IsExact ((0 : ℤ) : ℚ) := isExact_intCast (by norm_num)
  have left : (left * right).position ≤ ((0 : ℤ) : ℚ) := by
    rw [product, ← exact.clamp_rounded]
    exact clamp_mono (rounded_mono (by exact_mod_cast negative))
  exact_mod_cast snapTicks_le left

end PulseProgram

import PulseProgram.Proofs.Binary64.Stored
import PulseProgram.Proofs.Timing.Snap

/-!
# Snapping as a projection

Snapping keeps the order of tick counts, and a second snap changes nothing. Where a count is
taken as a whole number, every count between the two lies nearer to that number and is taken as
it too. So a count that is snapped overtakes none that is not.
-/

namespace PulseProgram

open Binary64

/-! ## Order -/

/-- Snapping keeps the order of positions, of finite counts of any size and sign.

Proof: where both counts are snapped or neither is, this is the monotonicity of the nearest whole
number or the order itself. Suppose that only the earlier count is snapped and overtakes the later
one. Then the later count lies between the earlier one and its whole number, so it has the same
nearest whole number and lies closer to it, and passes the tolerance test as well. The other way
round the earlier count lies between. -/
theorem snapTicks_mono {ticks later : Binary64} (finite : ticks.isFinite = true)
    (later_finite : later.isFinite = true) (ordered : ticks.position ≤ later.position) :
    (snapTicks ticks).position ≤ (snapTicks later).position := by
  have wholes : ticks.round.position ≤ later.round.position := by
    rw [round_position, round_position]
    exact_mod_cast nearestAway_mono ordered
  unfold snapTicks
  split_ifs with close laterClose laterClose
  · exact wholes
  · by_contra overtaken
    rw [not_le] at overtaken
    have below : later.round.position ≤ ticks.round.position := by
      rw [ticks.round_position] at overtaken ⊢
      rw [later.round_position]
      exact_mod_cast respectsWhole_nearestAway.round_le overtaken.le
    have same := le_antisymm below wholes
    refine laterClose (close_of_nearer later_finite finite same ?_ close)
    rw [same, abs_of_pos (by linarith), abs_of_pos (by linarith)]
    linarith
  · by_contra overtaken
    rw [not_le] at overtaken
    have above : later.round.position ≤ ticks.round.position := by
      rw [later.round_position] at overtaken ⊢
      rw [ticks.round_position]
      exact_mod_cast respectsWhole_nearestAway.le_round overtaken.le
    have same := le_antisymm wholes above
    refine close (close_of_nearer finite later_finite same ?_ laterClose)
    rw [same, abs_of_neg (by linarith), abs_of_neg (by linarith)]
    linarith
  · exact ordered

/-! ## Whole numbers -/

/-- A whole number of ticks is kept, down to the sign of a zero. Whether it passes the tolerance
test does not matter, since it is its own nearest whole number. -/
theorem snapTicks_eq_self {ticks : Binary64} {whole : ℤ} (finite : ticks.isFinite = true)
    (stands : ticks.toRat = whole) : snapTicks ticks = ticks := by
  rcases snapTicks_eq_or ticks with same | same
  · rw [same]
    exact toWhole_eq_self respectsWhole_nearestAway finite stands
  · exact same

/-- The nearest whole number of a finite count is an integer, also where it is a double-precision
number too large to have a fraction. -/
theorem round_toRat {ticks : Binary64} (finite : ticks.isFinite = true) :
    ticks.round.toRat = nearestAway ticks.toRat := by
  rw [← position_of_isFinite (isFinite_round finite), round_position,
    position_of_isFinite finite]

/-- A second snap changes nothing. The first one gives a whole number, which is kept, or the count
itself, which fails the same test again. -/
theorem snapTicks_snapTicks {ticks : Binary64} (finite : ticks.isFinite = true) :
    snapTicks (snapTicks ticks) = snapTicks ticks := by
  rcases snapTicks_eq_or ticks with same | same
  · rw [same]
    exact snapTicks_eq_self (isFinite_round finite) (round_toRat finite)
  · rw [same, same]

/-- A finite count is snapped to a finite one. -/
theorem isFinite_snapTicks {ticks : Binary64} (finite : ticks.isFinite = true) :
    (snapTicks ticks).isFinite = true := by
  rcases snapTicks_eq_or ticks with same | same
  · rw [same]
    exact isFinite_round finite
  · rw [same]
    exact finite

/-! ## The laws of a snap -/

/-- What a finite count is snapped to. The fields say which of two numbers it is, how far from the
count it may lie, and what it leaves in place. -/
structure SnapsTo (ticks snapped : Binary64) : Prop where
  finite : snapped.isFinite = true
  /-- It is the count itself or the nearest whole number, to which no integer is nearer. -/
  chosen : snapped = ticks ∨ snapped = ticks.round ∧ ∃ whole : ℤ, snapped.toRat = whole ∧
    ∀ other : ℤ, |(whole : ℚ) - ticks.toRat| ≤ |(other : ℚ) - ticks.toRat|
  /-- The move is small relative to that number. -/
  near : |snapped.toRat - ticks.toRat| ≤ 1000001 / 10 ^ 15 * max |ticks.round.toRat| 1
  /-- No whole number that the count has passed is passed backwards. -/
  passed : ∀ whole : ℤ, whole ≤ ticks.toRat → whole ≤ snapped.toRat
  /-- Whole numbers are kept. -/
  fixes : ∀ whole : ℤ, ticks.toRat = whole → snapped = ticks
  /-- A second snap changes nothing. -/
  again : snapTicks snapped = snapped

/-- Snapping is a monotone projection of the finite counts. Nothing is assumed of their size or
sign, so the edges between two whole numbers and the far ends of the range are included.

Proof: the laws of a single snap follow from the two numbers that it may give. The order is that of
positions, which defined numbers compare by. -/
theorem snapTicks_projection {ticks : Binary64} (finite : ticks.isFinite = true) :
    SnapsTo ticks (snapTicks ticks) ∧
      ∀ later : Binary64, later.isFinite = true → ticks ≤ later →
        snapTicks ticks ≤ snapTicks later := by
  have snapped_finite := isFinite_snapTicks finite
  have place := position_of_isFinite finite
  have snapped_place := position_of_isFinite snapped_finite
  constructor
  · constructor
    case finite => exact snapped_finite
    case chosen =>
      rcases snapTicks_eq_or ticks with same | same
      · right
        refine ⟨same, nearestAway ticks.toRat, ?_, nearestAway_nearest ticks.toRat⟩
        rw [same, round_toRat finite]
      · exact .inl same
    case near =>
      rw [← snapped_place, ← place, ← position_of_isFinite (isFinite_round finite)]
      rcases snapTicks_within finite with ⟨same, within⟩ | same
      · rw [same]
        exact within
      · rw [same, sub_self, abs_zero]
        positivity
    case passed =>
      intro whole passed
      rw [← place] at passed
      rw [← snapped_place]
      exact le_snapTicks passed
    case fixes => exact fun whole stands => snapTicks_eq_self finite stands
    case again => exact snapTicks_snapTicks finite
  · intro later later_finite ordered
    rw [le_iff (ne_nan_of_isFinite finite) (ne_nan_of_isFinite later_finite)] at ordered
    rw [le_iff (ne_nan_of_isFinite snapped_finite)
      (ne_nan_of_isFinite (isFinite_snapTicks later_finite))]
    exact snapTicks_mono finite later_finite ordered

/-- Far out the tolerance is wide: counts a twentieth of a tick to either side of a whole number
are taken as it, and the order is kept. -/
theorem snapTicks_projection_sample :
    let ticks : Binary64 := 55000019.95
    let later : Binary64 := 55000020.05
    ticks.isFinite = true ∧ later.isFinite = true ∧ ticks ≤ later ∧
      SnapsTo ticks 55000020 ∧ snapTicks later = 55000020 ∧ snapTicks ticks ≤ snapTicks later := by
  intro ticks later
  have finite : ticks.isFinite = true := by decide +kernel
  have later_finite : later.isFinite = true := by decide +kernel
  have ordered : ticks ≤ later := by decide +kernel
  have snapped : snapTicks ticks = 55000020 := by decide +kernel
  have laterSnapped : snapTicks later = 55000020 := by decide +kernel
  obtain ⟨snaps, keeps⟩ := snapTicks_projection finite
  rw [snapped] at snaps
  exact ⟨finite, later_finite, ordered, snaps, laterSnapped, keeps later later_finite ordered⟩

end PulseProgram

import PulseProgram.Proofs.Sequencer.Runs
import PulseProgram.Proofs.Timing.Snap

/-!
# How far boundaries drift from the exact time

The cursor is snapped again after every update, with a tolerance relative to the cursor
itself. So each update may move it by a billionth of the way from the start of the timeline,
and the moves add up: a run that starts late enough loses the fractions of all its updates.
What bounds the drift is the sum of the boundaries so far, not the number of updates. While
that sum is below about a billion ticks, each boundary is within one step of the exact one.
-/

namespace PulseProgram.Sequencer

open Binary64

/-- The exact time after the given updates, in ticks. The sum is one of rational numbers, neither
rounded nor snapped. -/
def exactTicks (config : Config) (placed : List Placed) : ℚ :=
  (config.startOffset.toRat + (placed.map fun one => one.update.duration.toRat).sum) *
    config.clockRate.toRat

/-- The ways from the start of the timeline to the end of each boundary, added up. Each snap moves
the cursor by a share of its way, so the sum is what the drift is measured by. -/
def travelled (placed : List Placed) : Nat :=
  (placed.map fun one => one.boundary + 1).sum

/-- How far the cursor drifts for each tick of the way, snaps and rounding errors included. It is
slightly more than the tolerance of a snap. -/
def driftPerTick : ℚ := 1001 / 10 ^ 12

/-- One more update adds its duration, in ticks of the clock. -/
theorem exactTicks_append (config : Config) (placed : List Placed) (one : Placed) :
    exactTicks config (placed ++ [one]) =
      exactTicks config placed + one.update.duration.toRat * config.clockRate.toRat := by
  simp only [exactTicks, List.map_append, List.map_singleton, List.sum_append, List.sum_singleton]
  ring

/-- One more update adds its way, up to the end of its boundary. -/
theorem travelled_append (placed : List Placed) (one : Placed) :
    travelled (placed ++ [one]) = travelled placed + (one.boundary + 1) := by
  simp only [travelled, List.map_append, List.map_singleton, List.sum_append, List.sum_singleton]

/-- The whole parts of two times are as close as the times, up to the next whole number. -/
theorem floor_near {first second apart : ℚ} (near : |first - second| ≤ apart) :
    |⌊first⌋ - ⌊second⌋| ≤ ⌈apart⌉ := by
  obtain ⟨low, high⟩ := abs_le.mp near
  have room := Int.le_ceil apart
  rw [abs_le]
  constructor
  · have above : ⌊second⌋ ≤ ⌊first + ⌈apart⌉⌋ := Int.floor_mono (by linarith)
    rw [Int.floor_add_intCast] at above
    omega
  · have above : ⌊first⌋ ≤ ⌊second + ⌈apart⌉⌋ := Int.floor_mono (by linarith)
    rw [Int.floor_add_intCast] at above
    omega

section Runs

variable {channels : ChannelMap} {config : Config} {initial sequencer : Sequencer}
  {placed : List Placed} {update : Update} {resolved : ResolvedUpdate}

/-- The advance of an accepted update is close to its exact length, relative to the advance.

Proof: the product is rounded and snapped once, each with a relative error. A negative length would
be snapped to zero at most, which spans no tick and is not accepted. -/
theorem Accepts.advance_near (accepts : sequencer.Accepts update resolved)
    (rate_finite : sequencer.config.clockRate.isFinite = true) :
    |(sequencer.advance update).position -
        update.duration.toRat * sequencer.config.clockRate.toRat| ≤
      countReach * (sequencer.advance update).position := by
  obtain ⟨finite, one_le⟩ := accepts.spans.one_le
  have duration_finite := isFinite_left_of_mul (isFinite_of_snapTicks finite)
  have nonnegative : 0 ≤ update.duration.toRat * sequencer.config.clockRate.toRat := by
    by_contra below
    have snapped := snapTicks_mul_nonpos duration_finite rate_finite (not_le.mp below).le
    exact absurd (one_le.trans snapped) (by norm_num)
  have near := snapTicks_mul_near duration_finite rate_finite finite nonnegative
  rwa [← advance, max_eq_left one_le] at near

/-- The cursor after an accepted update is close to the sum of the cursor before and the advance,
relative to where it is then. The sum is of a tick at least, so the errors stay relative. -/
theorem Accepts.endTicks_near (accepts : sequencer.Accepts update resolved)
    (ticks_nonneg : 0 ≤ sequencer.ticks) (ticks_finite : sequencer.ticks.isFinite = true)
    (finite : (sequencer.endTicks update).isFinite = true) :
    1 ≤ (sequencer.endTicks update).position ∧
      |(sequencer.endTicks update).position -
          (sequencer.ticks.position + (sequencer.advance update).position)| ≤
        countReach * (sequencer.endTicks update).position := by
  obtain ⟨advance_finite, one_le⟩ := accepts.spans.one_le
  have start := (nonneg_iff.mp ticks_nonneg).2
  have reached : ((1 : ℤ) : ℚ) ≤ (sequencer.endTicks update).position := by
    apply le_advanced ticks_nonneg advance_finite (isExact_intCast (by norm_num))
    rw [Int.cast_one]
    linarith
  rw [Int.cast_one] at reached
  have near := snapTicks_near (isFinite_of_snapTicks finite)
    (add_position ticks_finite advance_finite).2 (by linarith)
  exact ⟨reached, by rwa [← endTicks, max_eq_left reached] at near⟩

/-- A placed update adds its own way to what the cursor may be away from the exact time. Here `way`
is any bound of the ways so far.

Proof: the advance and the new cursor each add an error relative to themselves. The cursor has gone
a way of its own length, so the new errors are paid by the way that the update adds. -/
theorem Accepts.drift_step (accepts : sequencer.Accepts update resolved)
    (rate_finite : sequencer.config.clockRate.isFinite = true)
    (ticks_nonneg : 0 ≤ sequencer.ticks) (early : sequencer.step < 2 ^ 53)
    (finite : (sequencer.endTicks update).isFinite = true) {exact way : ℚ}
    (near : |sequencer.ticks.position - exact| ≤
      driftPerTick * (way + 2 * sequencer.ticks.position + 1)) :
    |(sequencer.endTicks update).position -
        (exact + update.duration.toRat * sequencer.config.clockRate.toRat)| ≤
      driftPerTick * (way + (sequencer.step + 1) +
        2 * (sequencer.endTicks update).position + 1) := by
  have added := accepts.advance_near rate_finite
  obtain ⟨one_le, moved⟩ := accepts.endTicks_near ticks_nonneg
    (isFinite_of_stepAt_lt ticks_nonneg early) finite
  have start := (nonneg_iff.mp ticks_nonneg).2
  have gone : sequencer.ticks.position ≤ sequencer.step + 1 := by
    have passed := (Int.lt_floor_add_one sequencer.ticks.position).le
    rwa [floor_of_stepAt_lt ticks_nonneg early, Int.cast_natCast] at passed
  rw [countReach] at added moved
  rw [driftPerTick] at near ⊢
  rw [abs_le] at near added moved ⊢
  constructor <;> linarith

/-- A finite cursor starts close to the exact time, after a rounding and a snap. -/
theorem Starts.start_near (starts : Starts channels config initial)
    (offset_finite : config.startOffset.isFinite = true) (offset_nonneg : 0 ≤ config.startOffset)
    (finite : initial.ticks.isFinite = true) :
    |initial.ticks.position - config.startOffset.toRat * config.clockRate.toRat| ≤
      driftPerTick * (2 * initial.ticks.position + 1) := by
  have right := (nonneg_iff.mp (starts.ticks_nonneg offset_finite offset_nonneg .initial)).2
  have rate_nonneg := starts.rate_nonneg
  rw [nonneg_iff, position_of_isFinite offset_finite] at offset_nonneg
  rw [nonneg_iff, position_of_isFinite starts.rate_finite] at rate_nonneg
  rw [starts.ticks] at finite right ⊢
  have near := snapTicks_mul_near offset_finite starts.rate_finite finite
    (mul_nonneg offset_nonneg.2 rate_nonneg.2)
  have extent : max (snapTicks (config.startOffset * config.clockRate)).position 1 ≤
      (snapTicks (config.startOffset * config.clockRate)).position + 1 :=
    max_le (by linarith) (by linarith)
  rw [countReach] at near
  rw [driftPerTick]
  linarith

/-- A finite cursor is as close to the exact time as the way of the run allows. The number of
updates does not count, only how far each of them has come.

Proof: by induction along the chain, from `Starts.start_near` with `Accepts.drift_step`. -/
theorem Starts.cursor_near (starts : Starts channels config initial)
    (offset_finite : config.startOffset.isFinite = true) (offset_nonneg : 0 ≤ config.startOffset)
    (short : config.capacity < 2 ^ 53) (reached : initial.Reaches placed sequencer)
    (finite : sequencer.ticks.isFinite = true) :
    |sequencer.ticks.position - exactTicks config placed| ≤
      driftPerTick * (travelled placed + 2 * sequencer.ticks.position + 1) := by
  induction reached with
  | initial =>
    have near := starts.start_near offset_finite offset_nonneg finite
    have exact : exactTicks config [] = config.startOffset.toRat * config.clockRate.toRat := by
      rw [exactTicks, List.map_nil, List.sum_nil, add_zero]
    have still : ((travelled [] : Nat) : ℚ) = 0 := rfl
    rwa [exact, still, zero_add]
  | @place placed sequencer next update boundary reached applied inductionHypothesis =>
    obtain ⟨rfl, resolved, accepts, follows⟩ := apply_ok applied
    have keeps := starts.keeps_of_reaches reached
    have nonneg := starts.ticks_nonneg offset_finite offset_nonneg reached
    have early := (accepts.step_lt keeps).trans short
    have rate_finite : sequencer.config.clockRate.isFinite = true := by
      rw [keeps.rate]
      exact starts.rate_finite
    rw [follows.ticks] at finite ⊢
    have near := accepts.drift_step rate_finite nonneg early finite
      (inductionHypothesis (isFinite_of_stepAt_lt nonneg early))
    rw [keeps.rate] at near
    rw [exactTicks_append, travelled_append]
    push_cast
    exact near

/-- Every boundary is as close to the whole part of the exact time as the way of the run before it
allows: within one step as long as the ways add up to less than about a billion ticks. The durations
and the rate are arbitrary doubles, and no update has to end at a tick.

Proof: the update was applied at a cursor that `Starts.cursor_near` bounds, the boundary is the
whole part of that cursor, and whole parts are as close as the times are. -/
theorem run_drift (started : start channels config = .ok initial)
    (offset_finite : config.startOffset.isFinite = true) (offset_nonneg : 0 ≤ config.startOffset)
    (short : config.capacity < 2 ^ 53) (updates : List Update) {index : Nat} {one : Placed}
    (stored : (initial.placed updates)[index]? = some one) :
    |(one.boundary : ℤ) - ⌊exactTicks config ((initial.placed updates).take index)⌋| ≤
        ⌈driftPerTick * (travelled ((initial.placed updates).take index) +
          2 * one.boundary + 3)⌉ ∧
      (travelled ((initial.placed updates).take index) + 2 * one.boundary + 3 ≤ 999000000 →
        |(one.boundary : ℤ) - ⌊exactTicks config ((initial.placed updates).take index)⌋| ≤ 1) := by
  have starts := start_ok started
  obtain ⟨previous, next, reached, applied⟩ := (run_reaches initial updates).before stored
  obtain ⟨boundary, resolved, accepts, -⟩ := apply_ok applied
  have nonneg := starts.ticks_nonneg offset_finite offset_nonneg reached
  have early := (accepts.step_lt (starts.keeps_of_reaches reached)).trans short
  have near := starts.cursor_near offset_finite offset_nonneg short reached
    (isFinite_of_stepAt_lt nonneg early)
  have floored := floor_of_stepAt_lt nonneg early
  rw [← step, ← boundary] at floored
  generalize exactTicks config ((initial.placed updates).take index) = exact at *
  generalize travelled ((initial.placed updates).take index) = way at *
  have below := Int.lt_floor_add_one previous.ticks.position
  rw [floored, Int.cast_natCast] at below
  have drifted : |(one.boundary : ℤ) - ⌊exact⌋| ≤
      ⌈driftPerTick * (way + 2 * one.boundary + 3)⌉ := by
    rw [← floored]
    refine floor_near (near.trans ?_)
    rw [driftPerTick]
    linarith
  refine ⟨drifted, fun little => drifted.trans (Int.ceil_le.mpr ?_)⟩
  have bound : (way : ℚ) + 2 * one.boundary + 3 ≤ 999000000 := by exact_mod_cast little
  rw [driftPerTick, Int.cast_one]
  linarith

end Runs

namespace Sample

/-- Four updates of one and a half ticks, two of which end between ticks. -/
def halfTickUpdates : List Update := List.replicate 4 { duration := 1.5e-6 }

/-- A compilation that starts at second 55, where a snap reaches over a twentieth of a tick. -/
def lateConfig : Config where
  maxDuration := 56
  startOffset := 55

/-- Updates of 1.05 ticks at the default clock rate. -/
def lateUpdates : List Update := List.replicate 42 { duration := 1.05e-6 }

end Sample

/-- Halves of a tick add up to a whole one where the run is short. -/
theorem run_drift_sample : ∃ initial, start Sample.channels Sample.config = .ok initial ∧
    Sample.config.startOffset.isFinite = true ∧ 0 ≤ Sample.config.startOffset ∧
    Sample.config.capacity < 2 ^ 53 ∧
    (initial.placed Sample.halfTickUpdates)[2]? = some ⟨{ duration := 1.5e-6 }, 11⟩ ∧
    |((11 : Nat) : ℤ) -
      ⌊exactTicks Sample.config ((initial.placed Sample.halfTickUpdates).take 2)⌋| ≤ 1 := by
  obtain ⟨initial, started, placed⟩ : ∃ initial,
      start Sample.channels Sample.config = .ok initial ∧
      initial.placed Sample.halfTickUpdates =
        [8, 9, 11, 12].map (⟨{ duration := 1.5e-6 }, ·⟩) := by
    apply started_of_evaluated
    decide +kernel
  have stored : (initial.placed Sample.halfTickUpdates)[2]? =
      some ⟨{ duration := 1.5e-6 }, 11⟩ := by
    rw [placed]
    rfl
  have near : travelled ((initial.placed Sample.halfTickUpdates).take 2) + 2 * 11 + 3 ≤
      999000000 := by
    rw [placed]
    decide
  obtain ⟨finite, nonneg, short, -⟩ := Sample.timing
  exact ⟨initial, started, finite, nonneg, short, stored,
    (run_drift started finite nonneg short Sample.halfTickUpdates stored).2 near⟩

/-- Late in the timeline every snap takes the fraction away: after 41 updates of 1.05 ticks the
boundary is two steps before the exact one. So the bound on the ways cannot be left out of
`run_drift`. -/
theorem run_drift_late : ∃ initial, start .empty Sample.lateConfig = .ok initial ∧
    Sample.lateConfig.startOffset.isFinite = true ∧ 0 ≤ Sample.lateConfig.startOffset ∧
    Sample.lateConfig.capacity < 2 ^ 53 ∧
    (initial.placed Sample.lateUpdates)[41]? = some ⟨{ duration := 1.05e-6 }, 55000041⟩ ∧
    ⌊exactTicks Sample.lateConfig ((initial.placed Sample.lateUpdates).take 41)⌋ = 55000043 ∧
    ¬|((55000041 : Nat) : ℤ) -
      ⌊exactTicks Sample.lateConfig ((initial.placed Sample.lateUpdates).take 41)⌋| ≤ 1 := by
  obtain ⟨initial, started, observed⟩ : ∃ initial,
      start .empty Sample.lateConfig = .ok initial ∧
      ((initial.placed Sample.lateUpdates)[41]?,
        ⌊exactTicks Sample.lateConfig ((initial.placed Sample.lateUpdates).take 41)⌋) =
      (some ⟨{ duration := 1.05e-6 }, 55000041⟩, 55000043) := by
    apply started_of_evaluated
    decide +kernel
  obtain ⟨stored, whole⟩ := Prod.mk.inj observed
  have timing : Sample.lateConfig.startOffset.isFinite = true ∧
      0 ≤ Sample.lateConfig.startOffset ∧ Sample.lateConfig.capacity < 2 ^ 53 := by
    decide +kernel
  refine ⟨initial, started, timing.1, timing.2.1, timing.2.2, stored, whole, ?_⟩
  rw [whole]
  decide

end PulseProgram.Sequencer

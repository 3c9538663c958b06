import PulseProgram.Proofs.Sequencer.Superposition
import PulseProgram.Proofs.Timing.Snap

/-!
# Runs in whole ticks

If a run starts at a whole tick and every placed update spans a whole number of ticks, then
each boundary is the start plus the ticks of the updates placed before, however long the run
is and whatever is refused in between. The cursor is a whole number below two to the 53rd all
the time, where sums of whole numbers are exact and a snap changes nothing. An update that
would lead beyond is not placed, since the timeline ends before.
-/

namespace PulseProgram.Sequencer

/-- Every placed update spans the given whole number of ticks. Only the snapped advance has to be
whole: the duration itself may be off by as much as a snap takes away. -/
def SpanWholeTicks (config : Config) (count : Update → Nat) (placed : List Placed) : Prop :=
  ∀ one ∈ placed, StandsAt (snapTicks (one.update.duration * config.clockRate)) (count one.update)

instance (config : Config) (count : Update → Nat) (placed : List Placed) :
    Decidable (SpanWholeTicks config count placed) :=
  inferInstanceAs (Decidable (∀ one ∈ placed, _))

/-- The tick after the given updates, for a start at a tick. The sum is one of natural numbers and
knows nothing of rounding. -/
def tickAfter (first : Nat) (count : Update → Nat) (placed : List Placed) : Nat :=
  first + (placed.map fun one => count one.update).sum

/-- One more update adds its ticks to the tick that the updates before it end at. -/
theorem tickAfter_append (first : Nat) (count : Update → Nat) (placed : List Placed)
    (one : Placed) :
    tickAfter first count (placed ++ [one]) = tickAfter first count placed + count one.update := by
  simp [tickAfter, Nat.add_assoc]

section Runs

variable {channels : ChannelMap} {config : Config} {initial sequencer : Sequencer}
  {placed : List Placed} {update : Update} {resolved : ResolvedUpdate}

/-- An accepted update of whole length moves a whole cursor by exactly that length, and not beyond
the timeline. Nothing bounds the length, which the check of the timeline does.

Proof: up to two to the 53rd the sum is exact and a snap changes nothing. A larger sum is rounded,
but not to less than two to the 53rd, so it would end beyond the timeline. -/
theorem Accepts.whole_cursor (accepts : sequencer.Accepts update resolved)
    (keeps : Keeps channels config sequencer) (short : config.capacity < 2 ^ 53)
    {tick length : Nat} (cursor : StandsAt sequencer.ticks tick)
    (span : StandsAt (sequencer.advance update) length) :
    StandsAt (sequencer.endTicks update) (tick + length) ∧ tick + length ≤ config.capacity := by
  have fit := accepts.fits
  rw [keeps.capacity] at fit
  have start : 0 ≤ sequencer.ticks := by
    rw [Binary64.nonneg_iff, cursor.position]
    exact ⟨Binary64.ne_nan_of_isFinite cursor.1, by positivity⟩
  have defined : sequencer.endTicks update ≠ .nan :=
    (Binary64.nonneg_iff.mp (advanced_nonneg start accepts.spans)).1
  have within := floor_le_of_fits defined short.le fit
  by_cases small : tick + length ≤ 2 ^ 53
  · have stands : StandsAt (sequencer.endTicks update) (tick + length) :=
      (cursor.add span small).snap small
    rw [stands.position, Int.floor_natCast] at within
    exact ⟨stands, by exact_mod_cast within⟩
  · have far : ((2 ^ 53 : ℤ) : ℚ) ≤ sequencer.ticks.position +
        (sequencer.advance update).position := by
      rw [cursor.position, span.position]
      exact_mod_cast (Nat.lt_of_not_le small).le
    have reached := le_advanced start span.1 (Binary64.isExact_intCast (by norm_num)) far
    have beyond : (2 ^ 53 : ℤ) ≤ ⌊(sequencer.endTicks update).position⌋ := Int.le_floor.mpr reached
    omega

/-- Along a run of whole lengths the cursor is the start plus the lengths so far, on the timeline or
right at its end. Each placed update is an application of `Accepts.whole_cursor`. -/
theorem Starts.whole_of_reaches (starts : Starts channels config initial) {first : Nat}
    (begins : StandsAt (snapTicks (config.startOffset * config.clockRate)) first)
    (room : first ≤ config.capacity) (short : config.capacity < 2 ^ 53)
    {count : Update → Nat} (reached : initial.Reaches placed sequencer)
    (whole : SpanWholeTicks config count placed) :
    StandsAt sequencer.ticks (tickAfter first count placed) ∧
      tickAfter first count placed ≤ config.capacity := by
  induction reached with
  | initial =>
    rw [starts.ticks]
    exact ⟨begins, room⟩
  | @place placed sequencer next update boundary reached applied inductionHypothesis =>
    obtain ⟨-, resolved, accepts, follows⟩ := apply_ok applied
    have keeps := starts.keeps_of_reaches reached
    obtain ⟨cursor, -⟩ :=
      inductionHypothesis fun one member => whole one (List.mem_append_left _ member)
    have span : StandsAt (sequencer.advance update) (count update) := by
      rw [advance, keeps.rate]
      exact whole ⟨update, boundary⟩ (List.mem_append_right _ (List.mem_singleton_self _))
    rw [follows.ticks, tickAfter_append]
    exact accepts.whole_cursor keeps short cursor span

/-- The finished program has the words before the cursor, as far as the timeline goes. This holds in
every state, whatever has led there. -/
theorem sampleCount_finish (sequencer : Sequencer) :
    sequencer.finish.sampleCount = min sequencer.step sequencer.timeline.capacity := by
  rw [Program.sampleCount, finish, Waveform.length_eq, Timeline.view_toList, List.length_take,
    Timeline.words_length, Nat.min_assoc, Nat.min_self]

/-- In a run that starts at a whole tick of the timeline and whose placed updates span whole numbers
of ticks, every boundary is the start plus the lengths of the updates placed before. The step after
the run and the number of finished words are the start plus all lengths. Refused updates may be of
any length, and nothing limits how many updates are placed.

Proof: every placed update was applied where the updates before it lead, and the cursor there is
that of `Starts.whole_of_reaches`. The same lemma, at the end of the run, gives the step and the
number of words. -/
theorem run_whole_ticks (started : start channels config = .ok initial) {first : Nat}
    (begins : StandsAt (snapTicks (config.startOffset * config.clockRate)) first)
    (room : first ≤ config.capacity) (short : config.capacity < 2 ^ 53)
    (updates : List Update) {count : Update → Nat}
    (whole : SpanWholeTicks config count (initial.placed updates)) :
    (∀ index one, (initial.placed updates)[index]? = some one →
        one.boundary = tickAfter first count ((initial.placed updates).take index)) ∧
      (initial.run updates).2.step = tickAfter first count (initial.placed updates) ∧
      (initial.run updates).2.finish.sampleCount =
        tickAfter first count (initial.placed updates) := by
  have starts := start_ok started
  have reached := run_reaches initial updates
  obtain ⟨cursor, within⟩ := starts.whole_of_reaches begins room short reached whole
  have last := cursor.stepAt (within.trans short.le)
  refine ⟨fun index one stored => ?_, last, ?_⟩
  · obtain ⟨previous, next, earlier, applied⟩ := reached.before stored
    obtain ⟨same, -⟩ := apply_ok applied
    obtain ⟨cursor, within⟩ := starts.whole_of_reaches begins room short earlier
      fun one member => whole one (List.mem_of_mem_take member)
    exact same.trans (cursor.stepAt (within.trans short.le))
  · rw [sampleCount_finish, step, last, (starts.keeps_of_reaches reached).capacity,
      Nat.min_eq_left within]

end Runs

namespace Sample

/-- Updates of whole lengths, of which the second lasts too short and the fourth comes too soon
after the third. -/
def wholeUpdates : List Update := [
  { duration := 100e-6, synth := [("f", 1)] },
  { duration := 0.7e-6 },
  { duration := 3e-6, analog := [("a", 1)] },
  { duration := 250e-6, digital := [("d", true)] },
  { duration := 250e-6 }]

/-- The whole number of ticks that an update of the short compilation spans. -/
def wholeCount (update : Update) : Nat :=
  (snapTicks (update.duration * config.clockRate)).toUnsigned 64

end Sample

/-- A run in whole ticks with two refused updates in it, which add nothing to the ticks. -/
theorem run_whole_ticks_sample : ∃ initial, start Sample.channels Sample.config = .ok initial ∧
    StandsAt (snapTicks (Sample.config.startOffset * Sample.config.clockRate)) 8 ∧
    8 ≤ Sample.config.capacity ∧ Sample.config.capacity < 2 ^ 53 ∧
    SpanWholeTicks Sample.config Sample.wholeCount (initial.placed Sample.wholeUpdates) ∧
    (initial.run Sample.wholeUpdates).2.step =
      tickAfter 8 Sample.wholeCount (initial.placed Sample.wholeUpdates) ∧
    (initial.run Sample.wholeUpdates).2.step = 361 := by
  obtain ⟨initial, started, observed⟩ : ∃ initial,
      start Sample.channels Sample.config = .ok initial ∧
      (decide (SpanWholeTicks Sample.config Sample.wholeCount
          (initial.placed Sample.wholeUpdates)),
        (initial.run Sample.wholeUpdates).2.step) = (true, 361) := by
    apply started_of_evaluated
    decide +kernel
  obtain ⟨spans, last⟩ := Prod.mk.inj observed
  have whole := of_decide_eq_true spans
  have begins : StandsAt (snapTicks (Sample.config.startOffset * Sample.config.clockRate)) 8 := by
    decide +kernel
  have room : 8 ≤ Sample.config.capacity := by decide +kernel
  obtain ⟨-, -, short, -⟩ := Sample.timing
  exact ⟨initial, started, begins, room, short, whole,
    (run_whole_ticks started begins room short Sample.wholeUpdates whole).2.1, last⟩

end PulseProgram.Sequencer

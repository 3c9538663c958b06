import PulseProgram.Proofs.Sequencer.WholeTicks
import PulseProgram.Proofs.Timing.Width
import PulseProgram.Proofs.Update.Rejections

/-!
# Rows that follow at the shortest distance

An update that lasts as long as the shortest trigger pulse leaves just the room that the pulse
of the next row needs, if the pulse is as wide as the cursor moves. Where the pulse is one tick
wider, because the product with the clock rate lies just above a whole number, the next row is
refused for a collision, unless another update is placed in between.
-/

namespace PulseProgram.Sequencer

/-- An update with a row passes all checks that come before the one of its trigger pulse. -/
structure PulseDue (sequencer : Sequencer) (update : Update) (resolved : ResolvedUpdate) : Prop
    extends sequencer.Timed update resolved where
  named : update.synth.isEmpty = false
  room : update.latchLength ≤ sequencer.step
  unwritten : ∀ step, sequencer.latchStart update ≤ step → step < sequencer.step →
    sequencer.timeline.wordAt step = 0#32
  tableRoom : sequencer.table.rowCount < sequencer.table.capacity
  pulseRoom : sequencer.table.triggerWidth ≤ sequencer.step

/-- The update is refused because its trigger pulse would overlap another one. -/
def Collides (sequencer : Sequencer) (update : Update) : Prop :=
  ∃ window, (sequencer.apply update).1 = .error (.rejected (.synthTriggerCollision window))

/-- An update collides only if its pulse is due and the trigger is up in it already. -/
theorem Collides.taken {sequencer : Sequencer} {update : Update}
    (collides : sequencer.Collides update) : (∃ resolved, sequencer.PulseDue update resolved) ∧
      ∃ step, sequencer.pulseStart ≤ step ∧ step < sequencer.step ∧
        (sequencer.timeline.wordAt step).carries Word.synthTrigger = true := by
  obtain ⟨window, collides⟩ := collides
  have ends := sequencer.plan_ends update
  rw [apply_outcome] at collides
  generalize sequencer.plan update = outcome at ends collides
  cases ends with
  | tooShort => cases collides
  | unresolved _ refused =>
    have concerns := Update.resolve_refuses sequencer.channels update _ refused
    cases collides
    contradiction
  | overflow => cases collides
  | underflow => cases collides
  | collision => cases collides
  | @noRow resolved _ timed room unwritten named refused =>
    cases collides
    have ends := sequencer.table.check_ends (lt_of_fits timed.fits).le
    rw [refused] at ends
    cases ends with
    | collision tableRoom pulseRoom taken =>
      exact ⟨⟨resolved, timed, named, room, unwritten, tableRoom, pulseRoom⟩, taken⟩
  | accepted => cases collides

/-- If the pulse of an update is due and the trigger is up in it already, the update collides. -/
theorem PulseDue.collides {sequencer : Sequencer} {update : Update} {resolved : ResolvedUpdate}
    (due : sequencer.PulseDue update resolved)
    (taken : ∃ step, sequencer.pulseStart ≤ step ∧ step < sequencer.step ∧
      (sequencer.timeline.wordAt step).carries Word.synthTrigger = true) :
    sequencer.Collides update := by
  rw [Collides, apply_outcome]
  rcases plan_of_unwritten due.toTimed due.room due.unwritten with
    ⟨-, accepts⟩ | ⟨fault, planned, -, refused⟩
  · obtain ⟨step, after, before, up⟩ := taken
    rw [(accepts.row due.named).free step after before] at up
    contradiction
  · rw [planned]
    have ends := sequencer.table.check_ends (lt_of_fits due.fits).le
    rw [refused] at ends
    cases ends with
    | full full => exact absurd due.tableRoom (Nat.not_lt_of_le full)
    | underflow _ early => exact absurd due.pulseRoom (Nat.not_le_of_lt early)
    | collision => exact ⟨_, rfl⟩

/-- Every placed update moves the cursor to a later step. -/
theorem Starts.step_run {channels : ChannelMap} {config : Config} {initial sequencer : Sequencer}
    {placed : List Placed} (starts : Starts channels config initial)
    (offset_finite : config.startOffset.isFinite = true) (offset_nonneg : 0 ≤ config.startOffset)
    (short : config.capacity < 2 ^ 53) (reached : initial.Reaches placed sequencer)
    (updates : List Update) :
    sequencer.step + (sequencer.placed updates).length ≤ (sequencer.run updates).2.step := by
  induction updates generalizing placed sequencer with
  | nil => exact le_rfl
  | cons update rest inductionHypothesis =>
    rw [run_cons, Sequencer.placed]
    cases outcome : sequencer.apply update with
    | mk result next =>
      cases result with
      | error fault =>
        obtain rfl := (apply_error outcome).1
        exact inductionHypothesis reached
      | ok boundary =>
        have onward := inductionHypothesis (reached.place outcome)
        have nonneg := starts.ticks_nonneg offset_finite offset_nonneg reached
        have later : sequencer.step < next.step :=
          (starts.keeps_of_reaches reached).step_lt_of_apply short nonneg outcome
        rw [List.length_cons]
        dsimp only
        omega

/-- What a run places are some of its updates. -/
theorem mem_placed {sequencer : Sequencer} {updates : List Update} {one : Placed}
    (member : one ∈ sequencer.placed updates) : one.update ∈ updates := by
  induction updates generalizing sequencer with
  | nil => exact absurd member List.not_mem_nil
  | cons update rest inductionHypothesis =>
    rw [placed] at member
    split at member
    · rcases List.mem_cons.mp member with rfl | later
      · exact List.mem_cons_self
      · exact List.mem_cons_of_mem _ (inductionHypothesis later)
    · exact List.mem_cons_of_mem _ (inductionHypothesis member)

section Runs

variable {channels : ChannelMap} {config : Config} {initial sequencer next : Sequencer}
  {placed : List Placed} {first : Update} {boundary width tick : Nat}

/-- As long as no other row comes, the trigger is up nowhere at or after the boundary of the
last row, and it is up right before that boundary. -/
theorem Starts.raised_before (starts : Starts channels config initial)
    (offset_finite : config.startOffset.isFinite = true) (offset_nonneg : 0 ≤ config.startOffset)
    (reached : initial.Reaches placed sequencer) (named : first.synth.isEmpty = false)
    (applied : sequencer.apply first = (.ok boundary, next)) {between : List Update}
    (unnamed : ∀ update ∈ between, update.synth.isEmpty = true) (step : Nat) :
    (boundary ≤ step + config.triggerWidth → step < boundary →
      ((next.run between).2.timeline.wordAt step).carries Word.synthTrigger = true) ∧
    (((next.run between).2.timeline.wordAt step).carries Word.synthTrigger = true →
      step < boundary) := by
  have onward := (reached.place applied).run between
  rw [starts.carries_synth_iff onward]
  constructor
  · intro after before
    refine ⟨⟨first, boundary⟩, by simp, ?_⟩
    exact Placed.pulses_iff.mpr ⟨by simpa [Placed.hasRow] using named, after, before⟩
  · rintro ⟨one, member, up⟩
    obtain ⟨hasRow, -, before⟩ := Placed.pulses_iff.mp up
    rcases List.mem_append.mp member with earlier | later
    · obtain ⟨same, -⟩ := apply_ok applied
      rcases List.mem_append.mp earlier with old | new
      · have behind := starts.boundary_le offset_finite offset_nonneg reached one old
        omega
      · obtain rfl := List.mem_singleton.mp new
        exact before
    · have silent := unnamed one.update (mem_placed later)
      rw [Placed.hasRow, silent] at hasRow
      contradiction

/-- A run that places nothing ends in the state that it began with. Refused updates leave no
trace, so this concerns the list of placed updates and not the list of given ones. -/
theorem run_eq_of_placed_eq_nil {between : List Update} (alone : next.placed between = []) :
    (next.run between).2 = next := by
  have nothing := run_reaches next between
  rw [alone] at nothing
  exact nothing.eq_of_nil rfl

/-- After a row, and as long as no other row comes, an update collides if and only if its pulse
is due and would begin before the boundary of that row. Nothing is assumed of where the cursor
stands or of how wide the pulses are.

Proof: the trigger is up nowhere from the boundary on, so a shared step lies before it, and the
new pulse reaches back there. Conversely, all pulses have one width, so a pulse that reaches back
has a step, and the earlier pulse contains the step right before its own boundary. -/
theorem Starts.collides_iff (starts : Starts channels config initial)
    (offset_finite : config.startOffset.isFinite = true) (offset_nonneg : 0 ≤ config.startOffset)
    (reached : initial.Reaches placed sequencer) (named : first.synth.isEmpty = false)
    (applied : sequencer.apply first = (.ok boundary, next)) {between : List Update}
    (unnamed : ∀ update ∈ between, update.synth.isEmpty = true) (second : Update) :
    (next.run between).2.Collides second ↔
      (next.run between).2.step < boundary + config.triggerWidth ∧
        ∃ resolved, (next.run between).2.PulseDue second resolved := by
  have onward := (reached.place applied).run between
  have raised := starts.raised_before offset_finite offset_nonneg reached named applied unnamed
  have width : (next.run between).2.table.triggerWidth = config.triggerWidth :=
    (starts.keeps_of_reaches onward).width
  constructor
  · intro collides
    obtain ⟨due, step, after, before, up⟩ := collides.taken
    have early : step < boundary := (raised step).2 up
    rw [pulseStart, width] at after
    exact ⟨by omega, due⟩
  · rintro ⟨close, resolved, due⟩
    have passed : boundary ≤ (next.run between).2.step :=
      starts.boundary_le offset_finite offset_nonneg onward ⟨first, boundary⟩ (by simp)
    have room : config.triggerWidth ≤ boundary := by
      obtain ⟨rfl, resolved, accepts, -⟩ := apply_ok applied
      rw [← (starts.keeps_of_reaches reached).width]
      exact (accepts.row named).pulseRoom
    have up := (raised (boundary - 1)).1 (by omega) (by omega)
    refine due.collides ⟨boundary - 1, ?_, by omega, up⟩
    rw [pulseStart, width]
    omega

/-- An accepted update of whole length that is applied at a whole cursor is placed there, and the
cursor stands at the end of it then. That the end is on the timeline is a conclusion. -/
theorem Keeps.whole_place (keeps : Keeps channels config sequencer)
    (short : config.capacity < 2 ^ 53) (cursor : StandsAt sequencer.ticks tick)
    (span : StandsAt (sequencer.advance first) width)
    (applied : sequencer.apply first = (.ok boundary, next)) :
    boundary = tick ∧ StandsAt next.ticks (tick + width) ∧ tick + width ≤ config.capacity := by
  obtain ⟨rfl, resolved, accepts, follows⟩ := apply_ok applied
  obtain ⟨ended, within⟩ := accepts.whole_cursor keeps short cursor span
  have small : tick ≤ 2 ^ 53 := (Nat.le_add_right tick width).trans (within.trans short.le)
  exact ⟨cursor.stepAt small, follows.ticks ▸ ended, within⟩

/-- From a step that lies the snapped width behind a tick, a pulse reaches back before that tick
if and only if the product lies above the snapped width and nothing is placed meanwhile.

Proof: the pulse is too wide by one tick at most, and every placed update moves the cursor by a
tick or more, so a single one in between makes room for it. -/
theorem Starts.reaches_back_iff (starts : Starts channels config initial)
    (offset_finite : config.startOffset.isFinite = true) (offset_nonneg : 0 ≤ config.startOffset)
    (short : config.capacity < 2 ^ 53) (small : width < 2 ^ 53)
    (snapped : StandsAt (snapTicks (config.minTriggerWidth * config.clockRate)) width)
    (reached : initial.Reaches placed next) (next_step : next.step = tick + width)
    (between : List Update) :
    (next.run between).2.step < tick + config.triggerWidth ↔
      (width : ℚ) < (config.minTriggerWidth * config.clockRate).toRat ∧
        next.placed between = [] := by
  have widthIs := Config.triggerWidth_eq small snapped
  have moved := starts.step_run offset_finite offset_nonneg short reached between
  rw [next_step] at moved
  constructor
  · intro close
    by_cases covered : (config.minTriggerWidth * config.clockRate).toRat ≤ width
    · rw [if_pos covered] at widthIs
      omega
    · rw [if_neg covered] at widthIs
      have alone : (next.placed between).length = 0 := by omega
      exact ⟨not_le.mp covered, List.eq_nil_of_length_eq_zero alone⟩
  · rintro ⟨above, alone⟩
    rw [if_neg (not_le.mpr above)] at widthIs
    rw [run_eq_of_placed_eq_nil alone, next_step, widthIs]
    omega

/-- Let the shortest trigger pulse be snapped to a whole number of ticks. Then an accepted update
with a row that lasts for it moves a whole cursor by exactly that number. The pulse has the same
width, unless the product of the time and the clock rate lies above the number: then it is one
tick wider. And the next row collides with this one if and only if the pulse is wider, no update
is placed in between, and all checks before the one of the pulse are passed.

Nothing is assumed of the updates before the row, of which some may be refused, nor of whether
the next row is accepted otherwise; the updates in between bring no row of their own.

Proof: the accepted row leaves the cursor at a whole tick. A later row collides exactly if its
pulse reaches back before the boundary of the row, and the cursor has moved by the snapped width
and by a tick at least for every update in between, which leaves the one case. -/
theorem run_rowSpacing (started : start channels config = .ok initial)
    (offset_finite : config.startOffset.isFinite = true) (offset_nonneg : 0 ≤ config.startOffset)
    (short : config.capacity < 2 ^ 53)
    (snapped : StandsAt (snapTicks (config.minTriggerWidth * config.clockRate)) width)
    (updates : List Update)
    (cursor : StandsAt (initial.run updates).2.ticks tick)
    (first_named : first.synth.isEmpty = false)
    (first_lasts : first.duration = config.minTriggerWidth)
    (applied : (initial.run updates).2.apply first = (.ok boundary, next))
    (between : List Update) (unnamed : ∀ update ∈ between, update.synth.isEmpty = true)
    (second : Update) :
    boundary = tick ∧ StandsAt next.ticks (tick + width) ∧
      config.triggerWidth =
        (if (config.minTriggerWidth * config.clockRate).toRat ≤ width then width else width + 1) ∧
      ((next.run between).2.Collides second ↔
        (width : ℚ) < (config.minTriggerWidth * config.clockRate).toRat ∧
          next.placed between = [] ∧
          ∃ resolved, (next.run between).2.PulseDue second resolved) := by
  have starts := start_ok started
  have reached := run_reaches initial updates
  have keeps := starts.keeps_of_reaches reached
  have span : StandsAt ((initial.run updates).2.advance first) width := by
    rw [advance, keeps.rate, first_lasts]
    exact snapped
  obtain ⟨rfl, ended, within⟩ := keeps.whole_place short cursor span applied
  have next_step : next.step = boundary + width := ended.stepAt (within.trans short.le)
  have small : width < 2 ^ 53 := by omega
  refine ⟨rfl, ended, Config.triggerWidth_eq small snapped, ?_⟩
  rw [starts.collides_iff offset_finite offset_nonneg reached first_named applied unnamed,
    starts.reaches_back_iff offset_finite offset_nonneg short small snapped
      (reached.place applied) next_step, and_assoc]

end Runs

namespace Sample

/-- An update that only sets the synthesizer channel. -/
def rowUpdate (duration value : Binary64) : Update := { duration, synth := [("f", value)] }

/-- The product of this trigger pulse and the clock rate is a little more than 123 ticks. -/
def tightConfig : Config where
  clockRate := 1e6
  maxDuration := 1e-3
  startOffset := 200e-6
  minTriggerWidth := 123e-6
  synthCapacity := 8

end Sample

/-- In the short compilation the product is four ticks, and the next row does not collide. The
update between the two is refused. -/
theorem run_rowSpacing_sample : ∃ initial next,
    start Sample.channels Sample.config = .ok initial ∧
    StandsAt (snapTicks (Sample.config.minTriggerWidth * Sample.config.clockRate)) 4 ∧
    StandsAt (initial.run []).2.ticks 8 ∧
    (initial.run []).2.apply (Sample.rowUpdate 4e-6 1) = (.ok 8, next) ∧
    Sample.config.triggerWidth = 4 ∧
    ¬(next.run [{ duration := 4e-6, digital := [("x", true)] }]).2.Collides
      (Sample.rowUpdate 4e-6 2) := by
  obtain ⟨initial, started, observed⟩ : ∃ initial,
      start Sample.channels Sample.config = .ok initial ∧
      (decide (StandsAt initial.ticks 8), (initial.apply (Sample.rowUpdate 4e-6 1)).1) =
        (true, .ok 8) := by
    apply started_of_evaluated
    decide +kernel
  obtain ⟨stands, accepted⟩ := Prod.mk.inj observed
  have cursor : StandsAt (initial.run []).2.ticks 8 := of_decide_eq_true stands
  have applied : (initial.run []).2.apply (Sample.rowUpdate 4e-6 1) =
      (.ok 8, (initial.apply (Sample.rowUpdate 4e-6 1)).2) := Prod.ext accepted rfl
  have snapped : StandsAt
      (snapTicks (Sample.config.minTriggerWidth * Sample.config.clockRate)) 4 := by
    decide +kernel
  have exact : (Sample.config.minTriggerWidth * Sample.config.clockRate).toRat ≤ (4 : Nat) := by
    decide +kernel
  obtain ⟨finite, nonneg, short, -⟩ := Sample.timing
  obtain ⟨-, -, width, collides⟩ := run_rowSpacing started finite nonneg short snapped [] cursor
    rfl rfl applied [{ duration := 4e-6, digital := [("x", true)] }] (by decide)
    (Sample.rowUpdate 4e-6 2)
  refine ⟨initial, _, started, snapped, cursor, applied, width.trans (if_pos exact), ?_⟩
  rw [collides]
  rintro ⟨above, -⟩
  exact absurd exact (not_le.mpr above)

/-- A pulse of 123 microseconds is snapped to 123 ticks, but it is 124 ticks wide. So a row that
follows after exactly this time collides. -/
theorem run_rowSpacing_collides : ∃ initial,
    start Sample.channels Sample.tightConfig = .ok initial ∧
    StandsAt (snapTicks (Sample.tightConfig.minTriggerWidth * Sample.tightConfig.clockRate)) 123 ∧
    StandsAt initial.ticks 200 ∧ Sample.tightConfig.startOffset.isFinite = true ∧
    0 ≤ Sample.tightConfig.startOffset ∧ Sample.tightConfig.capacity < 2 ^ 53 ∧
    Sample.tightConfig.triggerWidth = 124 ∧
    (initial.run [Sample.rowUpdate 123e-6 1, Sample.rowUpdate 123e-6 2]).1 =
      [.ok 200, .error (.rejected (.synthTriggerCollision ⟨199, 323⟩))] := by
  obtain ⟨initial, started, observed⟩ : ∃ initial,
      start Sample.channels Sample.tightConfig = .ok initial ∧
      (decide (StandsAt initial.ticks 200),
        (initial.run [Sample.rowUpdate 123e-6 1, Sample.rowUpdate 123e-6 2]).1) =
        (true, [.ok 200, .error (.rejected (.synthTriggerCollision ⟨199, 323⟩))]) := by
    apply started_of_evaluated
    decide +kernel
  obtain ⟨stands, outcomes⟩ := Prod.mk.inj observed
  have snapped : StandsAt
      (snapTicks (Sample.tightConfig.minTriggerWidth * Sample.tightConfig.clockRate)) 123 := by
    decide +kernel
  have timing : Sample.tightConfig.startOffset.isFinite = true ∧
      0 ≤ Sample.tightConfig.startOffset ∧ Sample.tightConfig.capacity < 2 ^ 53 ∧
      Sample.tightConfig.triggerWidth = 124 := by
    decide +kernel
  obtain ⟨finite, nonneg, short, width⟩ := timing
  exact ⟨initial, started, snapped, of_decide_eq_true stands, finite, nonneg, short, width,
    outcomes⟩

end PulseProgram.Sequencer

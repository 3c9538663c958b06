import PulseProgram.Proofs.Sequencer.Superposition

/-!
# Which updates are accepted

The checks of an update look for written words before its boundary. What they find follows
from very little: the boundary of the last placed update, the boundary of the last one with
a row, and the number of rows. A `Horizon` remembers that and the cursor, and no words. Its
verdict on an update is arithmetic on these numbers, and the outcomes of every run are its
verdicts.

Two facts carry this. Nothing is ever written beyond the last boundary, and the word there is
never zero, so a region before the cursor is unwritten exactly if it begins after the last
boundary. And the synthesizer trigger is seen in the pulses only, so a pulse is free exactly
if it begins no earlier than the last pulse ends.
-/

namespace PulseProgram

/-- What the spacing of updates depends on. It has no words and no rows, and grows neither with the
timeline nor with the run. -/
structure Horizon where
  /-- The cursor in clock ticks. -/
  ticks : Binary64
  /-- The boundary of the last placed update. -/
  lastBoundary : Option Nat
  /-- The boundary of the last placed update with a row. -/
  lastRow : Option Nat
  rowCount : Nat

namespace Horizon

/-- Before the first update. -/
def start (config : Config) : Horizon :=
  ⟨snapTicks (config.startOffset * config.clockRate), none, none, 0⟩

/-- Where the next update would be placed. -/
def boundary (horizon : Horizon) : Nat := stepAt horizon.ticks

/-- The cursor after an update, snapped in the same two places as on a sequencer. -/
def advanced (config : Config) (horizon : Horizon) (update : Update) : Binary64 :=
  snapTicks (horizon.ticks + snapTicks (update.duration * config.clockRate))

/-- The outcome of an update with a row whose latch words have room. The checks are those of the
table and of the pulse, in this order. -/
def rowSpacing (config : Config) (horizon : Horizon) : Except Fault Nat :=
  let boundary := horizon.boundary
  let width := config.triggerWidth
  if horizon.rowCount = config.synthCapacity then
    .error (.rejected (.synthTableFull config.synthCapacity))
  else if boundary < width then
    .error (.rejected (.regionUnderflow boundary width))
  else if 0 < width ∧ horizon.lastRow.any (boundary - width < ·) = true then
    .error (.rejected (.synthTriggerCollision ⟨boundary - width, boundary⟩))
  else .ok boundary

/-- The outcome of an update, as far as the words and the rows before it decide. An update without
latch words collides with nothing. -/
def spacing (config : Config) (horizon : Horizon) (update : Update) : Except Fault Nat :=
  let boundary := horizon.boundary
  let length := update.latchLength
  if boundary < length then
    .error (.rejected (.regionUnderflow boundary length))
  else if 0 < length ∧ horizon.lastBoundary.any (boundary - length ≤ ·) = true then
    .error (.rejected (.writeCollision boundary ⟨boundary - length, boundary⟩))
  else if update.synth.isEmpty = true then .ok boundary
  else horizon.rowSpacing config

/-- The outcome of an update: the first check that fails, or its boundary. It reads the horizon, the
configuration and the map only. -/
def verdict (channels : ChannelMap) (config : Config) (horizon : Horizon) (update : Update) :
    Except Fault Nat :=
  let span := (snapTicks (update.duration * config.clockRate)).floor
  let last := (horizon.advanced config update).floor
  if span.isFinite = false ∨ span < 1 then
    .error (.rejected (.durationTooShort update.duration span config.clockRate))
  else
    match update.resolve channels with
    | .error fault => .error fault
    | .ok _ =>
      if config.capacity ≤ horizon.boundary ∨ Binary64.ofNat config.capacity < last then
        .error (.rejected (.bufferOverflow (last.toUnsigned 64) config.capacity))
      else horizon.spacing config update

/-- What is remembered after an update that was placed. -/
def placing (config : Config) (horizon : Horizon) (update : Update) : Horizon where
  ticks := horizon.advanced config update
  lastBoundary := some horizon.boundary
  lastRow := if update.synth.isEmpty then horizon.lastRow else some horizon.boundary
  rowCount := horizon.rowCount + if update.synth.isEmpty then 0 else 1

/-- The verdicts on updates in order; a refused update is forgotten. -/
def run (channels : ChannelMap) (config : Config) (horizon : Horizon) :
    List Update → List (Except Fault Nat) × Horizon
  | [] => ([], horizon)
  | update :: rest =>
    match horizon.verdict channels config update with
    | .ok boundary =>
      let (outcomes, last) := (horizon.placing config update).run channels config rest
      (.ok boundary :: outcomes, last)
    | .error fault =>
      let (outcomes, last) := horizon.run channels config rest
      (.error fault :: outcomes, last)

/-- A horizon describes a sequencer if the words stand as its numbers say. Of the words only as much
is said as the checks of a later update can see. -/
structure Describes (channels : ChannelMap) (config : Config) (horizon : Horizon)
    (sequencer : Sequencer) : Prop where
  keeps : Sequencer.Keeps channels config sequencer
  ticks : sequencer.ticks = horizon.ticks
  ticks_nonneg : 0 ≤ horizon.ticks
  rowCount : sequencer.table.rowCount = horizon.rowCount
  room : horizon.rowCount ≤ config.synthCapacity
  /-- Nothing is written beyond the last boundary. -/
  written : ∀ {step}, sequencer.timeline.wordAt step ≠ 0#32 →
    ∃ last, horizon.lastBoundary = some last ∧ step ≤ last
  /-- The last boundary is written and lies before the cursor. -/
  marked : ∀ {last}, horizon.lastBoundary = some last →
    sequencer.timeline.wordAt last ≠ 0#32 ∧ last < horizon.boundary
  /-- No trigger is up from the last row on. -/
  raised : ∀ {step}, (sequencer.timeline.wordAt step).carries Word.synthTrigger = true →
    ∃ last, horizon.lastRow = some last ∧ step < last
  /-- The trigger is up right before the last row, which lies before the cursor. -/
  pulsed : ∀ {last}, horizon.lastRow = some last → last < horizon.boundary ∧
    ∀ step, last ≤ step + config.triggerWidth → step < last →
      (sequencer.timeline.wordAt step).carries Word.synthTrigger = true

section Describes

variable {channels : ChannelMap} {config : Config} {horizon : Horizon} {sequencer : Sequencer}

/-- Both place the next update at one boundary. -/
theorem Describes.step_eq (describes : Describes channels config horizon sequencer) :
    sequencer.step = horizon.boundary := by
  rw [Sequencer.step, describes.ticks, boundary]

/-- Both count the same advance. -/
theorem Describes.advance_eq (describes : Describes channels config horizon sequencer)
    (update : Update) :
    sequencer.advance update = snapTicks (update.duration * config.clockRate) := by
  rw [Sequencer.advance, describes.keeps.rate]

/-- Both move the cursor alike. -/
theorem Describes.endTicks_eq (describes : Describes channels config horizon sequencer)
    (update : Update) : sequencer.endTicks update = horizon.advanced config update := by
  rw [Sequencer.endTicks, describes.ticks, describes.advance_eq, advanced]

/-- A region before the cursor has a written word exactly if it reaches back to the last boundary.
The region may be as long as there is room, and an empty one has no word.

Proof: nothing is written beyond the last boundary, and that boundary itself is written. -/
theorem Describes.written_iff (describes : Describes channels config horizon sequencer)
    {length : Nat} (room : length ≤ horizon.boundary) :
    (∃ step, horizon.boundary - length ≤ step ∧ step < horizon.boundary ∧
        sequencer.timeline.wordAt step ≠ 0#32) ↔
      0 < length ∧ horizon.lastBoundary.any (horizon.boundary - length ≤ ·) = true := by
  constructor
  · rintro ⟨step, after, before, word⟩
    obtain ⟨last, remembered, reached⟩ := describes.written word
    refine ⟨by omega, ?_⟩
    rw [remembered, Option.any_some, decide_eq_true_eq]
    exact after.trans reached
  · rintro ⟨_, reaches⟩
    obtain ⟨last, remembered, after⟩ := (Option.any_eq_true _ _).mp reaches
    obtain ⟨word, before⟩ := describes.marked remembered
    exact ⟨last, of_decide_eq_true after, before, word⟩

/-- A pulse before the cursor meets another exactly if it begins before the last row. The earlier
pulses need not be known.

Proof: the trigger is up nowhere from the last row on. If the pulse begins before that row, the last
step of the last pulse is the one in common. -/
theorem Describes.raised_iff (describes : Describes channels config horizon sequencer)
    (room : config.triggerWidth ≤ horizon.boundary) :
    (∃ step, horizon.boundary - config.triggerWidth ≤ step ∧ step < horizon.boundary ∧
        (sequencer.timeline.wordAt step).carries Word.synthTrigger = true) ↔
      0 < config.triggerWidth ∧
        horizon.lastRow.any (horizon.boundary - config.triggerWidth < ·) = true := by
  constructor
  · rintro ⟨step, after, before, up⟩
    obtain ⟨last, remembered, reached⟩ := describes.raised up
    refine ⟨by omega, ?_⟩
    rw [remembered, Option.any_some, decide_eq_true_eq]
    exact after.trans_lt reached
  · rintro ⟨positive, reaches⟩
    obtain ⟨last, remembered, after⟩ := (Option.any_eq_true _ _).mp reaches
    have after := of_decide_eq_true after
    obtain ⟨before, up⟩ := describes.pulsed remembered
    exact ⟨last - 1, by omega, by omega, up (last - 1) (by omega) (by omega)⟩

/-- The check for a row gives its spacing, fault by fault and with the same numbers in each. -/
theorem Describes.check_outcome (describes : Describes channels config horizon sequencer)
    (inside : sequencer.step ≤ sequencer.timeline.capacity) :
    (sequencer.table.check sequencer.timeline sequencer.step).map (·.stop) =
      horizon.rowSpacing config := by
  have ends := sequencer.table.check_ends inside
  have rows := describes.rowCount
  have room := describes.room
  generalize sequencer.table.check sequencer.timeline sequencer.step = outcome at ends
  cases ends with
  | full no_room =>
    rw [describes.keeps.tableCapacity, rows] at no_room
    rw [rowSpacing, if_pos (Nat.le_antisymm room no_room), describes.keeps.tableCapacity]
    rfl
  | underflow free early =>
    rw [describes.keeps.tableCapacity, rows] at free
    rw [describes.step_eq, describes.keeps.width] at early ⊢
    rw [rowSpacing, if_neg free.ne, if_pos early]
    rfl
  | collision free fits taken =>
    rw [describes.keeps.tableCapacity, rows] at free
    rw [describes.step_eq, describes.keeps.width] at fits taken ⊢
    rw [rowSpacing, if_neg free.ne, if_neg (Nat.not_lt.mpr fits),
      if_pos ((describes.raised_iff fits).mp taken)]
    rfl
  | passed free fits clear =>
    rw [describes.keeps.tableCapacity, rows] at free
    rw [describes.step_eq, describes.keeps.width] at fits clear ⊢
    rw [rowSpacing, if_neg free.ne, if_neg (Nat.not_lt.mpr fits), if_neg]
    · rfl
    · intro reaches
      obtain ⟨step, after, before, up⟩ := (describes.raised_iff fits).mpr reaches
      rw [clear step after before] at up
      exact nomatch up

/-- An update whose region is unwritten is judged by its row. -/
theorem Describes.spacing_of_unwritten (describes : Describes channels config horizon sequencer)
    {update : Update} (room : update.latchLength ≤ sequencer.step)
    (unwritten : ∀ step, sequencer.latchStart update ≤ step → step < sequencer.step →
      sequencer.timeline.wordAt step = 0#32) :
    horizon.spacing config update =
      if update.synth.isEmpty = true then .ok horizon.boundary else horizon.rowSpacing config := by
  rw [describes.step_eq] at room
  rw [Sequencer.latchStart, describes.step_eq] at unwritten
  have clear : ¬(0 < update.latchLength ∧
      horizon.lastBoundary.any (horizon.boundary - update.latchLength ≤ ·) = true) := by
    intro reaches
    obtain ⟨step, after, before, word⟩ := (describes.written_iff room).mpr reaches
    exact word (unwritten step after before)
  rw [spacing, if_neg (Nat.not_lt.mpr room), if_neg clear]

/-- The first check of a verdict passes for an advance of at least a tick. -/
theorem spansTick_iff_not (advance : Binary64) :
    SpansTick advance ↔ ¬(advance.floor.isFinite = false ∨ advance.floor < 1) := by
  rw [SpansTick, not_or, Bool.not_eq_false]

/-- The check for room up to the end of an update, as the verdict makes it. -/
theorem fits_iff_not (capacity step : Nat) (endStep : Binary64) :
    Sequencer.fits capacity step endStep = true ↔
      ¬(capacity ≤ step ∨ Binary64.ofNat capacity < endStep) := by
  rw [Sequencer.fits, Bool.and_eq_true, decide_eq_true_eq, Bool.not_eq_true',
    decide_eq_false_iff_not, not_or, Nat.not_le]

/-- An update that gets past the first checks is judged by its spacing. -/
theorem Describes.verdict_of_timed (describes : Describes channels config horizon sequencer)
    {update : Update} {resolved : ResolvedUpdate} (timed : sequencer.Timed update resolved) :
    horizon.verdict channels config update = horizon.spacing config update := by
  have spans := timed.spans
  have resolves := timed.resolves
  have fit := timed.fits
  rw [describes.advance_eq, spansTick_iff_not] at spans
  rw [describes.keeps.channels] at resolves
  rw [describes.keeps.capacity, describes.step_eq, describes.endTicks_eq, fits_iff_not] at fit
  rw [verdict, if_neg spans, resolves]
  exact if_neg fit

/-- The outcome of an update is the verdict on it, with the fault as a whole: its kind, its steps
and its spans. The update is arbitrary.

Proof: by the ends of planning, in the order of the checks. For each of them the verdict takes the
same branch, with `written_iff` and `raised_iff` in place of reading the words. -/
theorem Describes.apply_outcome (describes : Describes channels config horizon sequencer)
    (update : Update) :
    (sequencer.apply update).1 = horizon.verdict channels config update := by
  have boundary := describes.step_eq
  have advance := describes.advance_eq update
  have endTicks := describes.endTicks_eq update
  have ends := sequencer.plan_ends update
  rw [Sequencer.apply_outcome]
  generalize sequencer.plan update = outcome at ends
  cases ends with
  | tooShort short =>
    rw [advance, spansTick_iff_not, not_not] at short
    rw [advance, describes.keeps.rate, verdict, if_pos short]
    rfl
  | unresolved spans refused =>
    rw [advance, spansTick_iff_not] at spans
    rw [describes.keeps.channels] at refused
    rw [verdict, if_neg spans, refused]
    rfl
  | overflow spans resolves beyond =>
    rw [advance, spansTick_iff_not] at spans
    rw [describes.keeps.channels] at resolves
    rw [describes.keeps.capacity, boundary, endTicks, ← Bool.not_eq_true, fits_iff_not, not_not]
      at beyond
    rw [verdict, if_neg spans, resolves, endTicks, describes.keeps.capacity]
    exact (if_pos beyond).symm
  | underflow timed early =>
    rw [describes.verdict_of_timed timed]
    rw [boundary] at early ⊢
    exact (if_pos early).symm
  | collision timed room written =>
    rw [describes.verdict_of_timed timed, spacing]
    rw [boundary] at room
    rw [Sequencer.latchStart, boundary] at written ⊢
    rw [if_neg (Nat.not_lt.mpr room), if_pos ((describes.written_iff room).mp written)]
    rfl
  | noRow timed room unwritten named refused =>
    rw [describes.verdict_of_timed timed, describes.spacing_of_unwritten room unwritten,
      if_neg (Bool.not_eq_true _ ▸ named),
      ← describes.check_outcome (Sequencer.lt_of_fits timed.fits).le, refused]
    rfl
  | accepted accepts =>
    rw [describes.verdict_of_timed accepts.toTimed,
      describes.spacing_of_unwritten accepts.room accepts.unwritten]
    cases unnamed : update.synth.isEmpty with
    | true => exact congrArg Except.ok boundary
    | false =>
      have inside := (Sequencer.lt_of_fits accepts.fits).le
      obtain ⟨tableRoom, pulseRoom, free⟩ := accepts.row unnamed
      rw [if_neg Bool.false_ne_true, ← describes.check_outcome inside,
        SynthTable.check_of_free inside tableRoom pulseRoom free]
      rfl

/-! ## Placing an update -/

/-- A placed update with a row is the last one with a row. -/
theorem placing_lastRow_of_named {update : Update} (named : update.synth.isEmpty = false) :
    (horizon.placing config update).lastRow = some horizon.boundary := by
  simp [placing, named]

/-- A placed update without a row leaves the last row where it was. -/
theorem placing_lastRow_of_unnamed {update : Update} (unnamed : update.synth.isEmpty = true) :
    (horizon.placing config update).lastRow = horizon.lastRow := by
  simp [placing, unnamed]

section Placing

variable {next : Sequencer} {update : Update} {resolved : ResolvedUpdate}

/-- An accepted update moves the boundary on. This is where the timeline has to be short: from
two to the 53rd on, a tick may be too little to move the cursor. -/
theorem Describes.boundary_lt (describes : Describes channels config horizon sequencer)
    (short : config.capacity < 2 ^ 53) (accepts : sequencer.Accepts update resolved) :
    horizon.boundary < (horizon.placing config update).boundary := by
  have spans : SpansTick (snapTicks (update.duration * config.clockRate)) :=
    describes.advance_eq update ▸ accepts.spans
  have inside := Sequencer.lt_of_fits accepts.fits
  rw [describes.keeps.capacity, describes.step_eq] at inside
  exact stepAt_lt_advanced describes.ticks_nonneg spans (inside.trans short)

/-- An accepted update with a row had room for it in the table. -/
theorem Describes.room_placing (describes : Describes channels config horizon sequencer)
    (accepts : sequencer.Accepts update resolved) :
    (horizon.placing config update).rowCount ≤ config.synthCapacity := by
  cases unnamed : update.synth.isEmpty with
  | true => simpa [placing, unnamed] using describes.room
  | false =>
    have room := (accepts.row unnamed).tableRoom
    rw [describes.keeps.tableCapacity, describes.rowCount] at room
    simpa [placing, unnamed] using Nat.succ_le_of_lt room

/-- After an accepted update nothing is written beyond its boundary. What was written before lies
at an earlier boundary or below it. -/
theorem Describes.written_placing (describes : Describes channels config horizon sequencer)
    (accepts : sequencer.Accepts update resolved)
    (follows : sequencer.Follows update resolved next) {step : Nat}
    (word : next.timeline.wordAt step ≠ 0#32) : step ≤ horizon.boundary := by
  have same := describes.step_eq
  by_contra beyond
  rw [follows.word_of_lt accepts describes.keeps (by omega)] at word
  obtain ⟨last, remembered, reached⟩ := describes.written word
  have before := (describes.marked remembered).2
  omega

/-- After an accepted update no trigger is up from the last row on. If the update has a row, its
pulse and all earlier ones end at its boundary at the latest. -/
theorem Describes.raised_placing (describes : Describes channels config horizon sequencer)
    (accepts : sequencer.Accepts update resolved)
    (follows : sequencer.Follows update resolved next) {step : Nat}
    (up : (next.timeline.wordAt step).carries Word.synthTrigger = true) :
    ∃ last, (horizon.placing config update).lastRow = some last ∧ step < last := by
  rcases (follows.carries_synth_iff accepts describes.keeps step).mp up with old | new
  · obtain ⟨last, remembered, reached⟩ := describes.raised old
    cases unnamed : update.synth.isEmpty with
    | true => exact ⟨last, (placing_lastRow_of_unnamed unnamed).trans remembered, reached⟩
    | false =>
      have before := (describes.pulsed remembered).1
      exact ⟨horizon.boundary, placing_lastRow_of_named unnamed, reached.trans before⟩
  · obtain ⟨hasRow, -, before⟩ := Placed.pulses_iff.mp new
    have named : update.synth.isEmpty = false := by simpa [Placed.hasRow] using hasRow
    exact ⟨horizon.boundary, placing_lastRow_of_named named, describes.step_eq ▸ before⟩

/-- After an accepted update the trigger is up right before the last row, be it the row of this
update or an earlier one, whose pulse has stayed. -/
theorem Describes.pulsed_placing (describes : Describes channels config horizon sequencer)
    (later : horizon.boundary < (horizon.placing config update).boundary)
    (accepts : sequencer.Accepts update resolved)
    (follows : sequencer.Follows update resolved next) {last : Nat}
    (remembered : (horizon.placing config update).lastRow = some last) :
    last < (horizon.placing config update).boundary ∧
      ∀ step, last ≤ step + config.triggerWidth → step < last →
        (next.timeline.wordAt step).carries Word.synthTrigger = true := by
  have raises := follows.carries_synth_iff accepts describes.keeps
  cases unnamed : update.synth.isEmpty with
  | true =>
    rw [placing_lastRow_of_unnamed unnamed] at remembered
    obtain ⟨before, pulse⟩ := describes.pulsed remembered
    exact ⟨before.trans later, fun step after inside =>
      (raises step).mpr (.inl (pulse step after inside))⟩
  | false =>
    rw [placing_lastRow_of_named unnamed] at remembered
    obtain rfl := Option.some.inj remembered
    refine ⟨later, fun step after inside => (raises step).mpr (.inr ?_)⟩
    have hasRow : Placed.hasRow ⟨update, sequencer.step⟩ = true := by
      simp [Placed.hasRow, unnamed]
    rw [← describes.step_eq] at after inside
    exact Placed.pulses_iff.mpr ⟨hasRow, after, inside⟩

/-- An update that is placed leaves a sequencer that the next horizon describes.

Proof: the words of the update stand before its boundary and at it, which is the last one now. If it
has a row, its pulse ends there, and if not, no trigger has changed. -/
theorem Describes.place (describes : Describes channels config horizon sequencer)
    (short : config.capacity < 2 ^ 53) {boundary : Nat}
    (applied : sequencer.apply update = (.ok boundary, next)) :
    Describes channels config (horizon.placing config update) next := by
  obtain ⟨rfl, resolved, accepts, follows⟩ := Sequencer.apply_ok applied
  have keeps := describes.keeps
  have later := describes.boundary_lt short accepts
  have spans : SpansTick (snapTicks (update.duration * config.clockRate)) :=
    describes.advance_eq update ▸ accepts.spans
  refine ⟨keeps.place follows, follows.ticks.trans (describes.endTicks_eq update),
    advanced_nonneg describes.ticks_nonneg spans, ?_, describes.room_placing accepts, ?_, ?_,
    describes.raised_placing accepts follows, describes.pulsed_placing later accepts follows⟩
  · rw [follows.rowCount_of_accepts accepts, describes.rowCount]
    rfl
  · intro step word
    exact ⟨horizon.boundary, rfl, describes.written_placing accepts follows word⟩
  · rintro last ⟨⟩
    exact ⟨describes.step_eq ▸ follows.boundary_written accepts keeps, later⟩

end Placing

/-! ## Runs -/

/-- A new compilation is described by the horizon before the first update. -/
theorem describes_start {initial : Sequencer}
    (started : Sequencer.start channels config = .ok initial)
    (offset_finite : config.startOffset.isFinite = true) (offset_nonneg : 0 ≤ config.startOffset) :
    Describes channels config (start config) initial := by
  have starts := Sequencer.start_ok started
  refine ⟨starts.keeps, starts.ticks, ?_, starts.rowCount, Nat.zero_le _, ?_, ?_, ?_, ?_⟩
  · exact start_nonneg offset_finite offset_nonneg starts.rate_finite starts.rate_nonneg
  · intro step word
    exact absurd (starts.unwritten step) word
  · intro last impossible
    exact nomatch impossible
  · intro step up
    rw [starts.unwritten] at up
    exact absurd up (by decide)
  · intro last impossible
    exact nomatch impossible

/-- A run and the verdicts on it agree from a described sequencer on, and the horizon after the run
describes the sequencer after it.

Proof: by induction on the updates. A placed update leads to the next horizon, and a refused one
changes neither side. -/
theorem Describes.run (describes : Describes channels config horizon sequencer)
    (short : config.capacity < 2 ^ 53) (updates : List Update) :
    (sequencer.run updates).1 = (horizon.run channels config updates).1 ∧
      Describes channels config (horizon.run channels config updates).2
        (sequencer.run updates).2 := by
  induction updates generalizing horizon sequencer with
  | nil => exact ⟨rfl, describes⟩
  | cons update rest inductionHypothesis =>
    have agrees := describes.apply_outcome update
    cases applied : sequencer.apply update with
    | mk outcome next =>
      rw [applied] at agrees
      rw [Sequencer.run, applied, Horizon.run, ← agrees]
      cases outcome with
      | ok boundary =>
        obtain ⟨outcomes, last⟩ := inductionHypothesis (describes.place short applied)
        exact ⟨congrArg (.ok boundary :: ·) outcomes, last⟩
      | error fault =>
        obtain rfl := (Sequencer.apply_error applied).1
        obtain ⟨outcomes, last⟩ := inductionHypothesis describes
        exact ⟨congrArg (.error fault :: ·) outcomes, last⟩

/-- On a timeline of fewer than two to the 53rd words the outcomes of every run are the verdicts of
the horizon, and so is the outcome of every update after it. The map is arbitrary, and so are the
names and values of the updates: what they resolve to decides no more than whether they do.

Proof: the horizon at the start describes the new sequencer, and a run keeps it so by
`Describes.run`. What is described has the verdict as its outcome. -/
theorem run_spacing {initial : Sequencer}
    (started : Sequencer.start channels config = .ok initial)
    (offset_finite : config.startOffset.isFinite = true) (offset_nonneg : 0 ≤ config.startOffset)
    (short : config.capacity < 2 ^ 53) (updates : List Update) :
    (initial.run updates).1 = ((start config).run channels config updates).1 ∧
      ∀ update, ((initial.run updates).2.apply update).1 =
        ((start config).run channels config updates).2.verdict channels config update := by
  have describes := describes_start started offset_finite offset_nonneg
  obtain ⟨outcomes, described⟩ := describes.run short updates
  exact ⟨outcomes, described.apply_outcome⟩

/-- The short compilation has the outcomes that the horizon says. -/
theorem run_spacing_sample : ∃ initial,
    Sequencer.start Sequencer.Sample.channels Sequencer.Sample.config = .ok initial ∧
    Sequencer.Sample.config.startOffset.isFinite = true ∧
    0 ≤ Sequencer.Sample.config.startOffset ∧ Sequencer.Sample.config.capacity < 2 ^ 53 ∧
    (initial.run Sequencer.Sample.updates).1 =
      ((start Sequencer.Sample.config).run Sequencer.Sample.channels Sequencer.Sample.config
        Sequencer.Sample.updates).1 := by
  obtain ⟨initial, started, -⟩ := Sequencer.Sample.starts
  obtain ⟨finite, nonneg, short, -⟩ := Sequencer.Sample.timing
  exact ⟨initial, started, finite, nonneg, short,
    (run_spacing started finite nonneg short Sequencer.Sample.updates).1⟩

end Describes

end Horizon

end PulseProgram

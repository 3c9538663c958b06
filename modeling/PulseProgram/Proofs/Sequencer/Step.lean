import PulseProgram.Proofs.SynthTable.Pulses
import PulseProgram.Proofs.Update.LatchWords
import PulseProgram.Proofs.Timing.Cursor
import PulseProgram.Sequencer

/-!
# One update on a sequencer

Planning an update has a fixed number of ends, in the order of the checks. An update that
passes all checks is always committed: each write, each flag and the new row have a place
because of a check that was made before. What it leaves behind is said once, word by word.
An update that does not pass leaves the sequencer as it was.
-/

namespace PulseProgram.Sequencer

/-- How far an update moves the cursor, in ticks. The product of duration and rate is snapped on its
own, before it is added to the cursor. -/
def advance (sequencer : Sequencer) (update : Update) : Binary64 :=
  snapTicks (update.duration * sequencer.config.clockRate)

/-- Where an update moves the cursor. The sum is snapped once more, with the tolerance that belongs
to the size of the cursor. -/
def endTicks (sequencer : Sequencer) (update : Update) : Binary64 :=
  snapTicks (sequencer.ticks + sequencer.advance update)

/-- The step at which the latch words of an update begin. It counts back from the step of the
cursor, and stands at zero where the words would begin before the timeline. -/
def latchStart (sequencer : Sequencer) (update : Update) : Nat :=
  sequencer.step - update.latchLength

/-- The step at which the trigger pulse of a row begins, one width before the step of the cursor. -/
def pulseStart (sequencer : Sequencer) : Nat := sequencer.step - sequencer.table.triggerWidth

/-- There is room for a row, and its trigger pulse meets no other. The pulse has to lie on the
timeline as a whole, and none of its steps may be flagged already. -/
structure FreeRow (sequencer : Sequencer) : Prop where
  tableRoom : sequencer.table.rowCount < sequencer.table.capacity
  pulseRoom : sequencer.table.triggerWidth ≤ sequencer.step
  free : ∀ step, sequencer.pulseStart ≤ step → step < sequencer.step →
    (sequencer.timeline.wordAt step).carries Word.synthTrigger = false

/-- An update spans a tick, resolves to the given words and fits the timeline. These checks look at
the size of the timeline only, and at none of the words on it. -/
structure Timed (sequencer : Sequencer) (update : Update) (resolved : ResolvedUpdate) :
    Prop where
  spans : SpansTick (sequencer.advance update)
  resolves : update.resolve sequencer.channels = .ok resolved
  fits : fits sequencer.timeline.capacity sequencer.step (sequencer.endTicks update).floor = true

/-- All checks of an update pass: those of its timing, then that its latch words begin on the
timeline and meet nothing written, and last, if it names a synthesizer channel, that there is a free
row for it. -/
structure Accepts (sequencer : Sequencer) (update : Update) (resolved : ResolvedUpdate) : Prop
    extends sequencer.Timed update resolved where
  room : update.latchLength ≤ sequencer.step
  unwritten : ∀ step, sequencer.latchStart update ≤ step → step < sequencer.step →
    sequencer.timeline.wordAt step = 0#32
  row : update.synth.isEmpty = false → sequencer.FreeRow

/-- Where an accepted update is placed. All of the placement is fixed by the state before the update
and by what the update resolves to. -/
def placementOf (sequencer : Sequencer) (update : Update) (resolved : ResolvedUpdate) :
    Placement where
  step := sequencer.step
  blocks := resolved.latchBlocks
  row := resolved.synth.map (·, ⟨sequencer.pulseStart, sequencer.step⟩)
  duration := update.duration
  endTicks := sequencer.endTicks update

/-- The ends of planning an update, in the order of the checks. Each end carries the checks that
passed before it and the one that failed, so no two ends of one update are possible at once. An
update with several faults is rejected for the first of them. -/
inductive PlanEnds (sequencer : Sequencer) (update : Update) : Except Fault Placement → Prop where
  | tooShort (short : ¬SpansTick (sequencer.advance update)) :
      PlanEnds sequencer update (.error (.rejected (.durationTooShort update.duration
        (sequencer.advance update).floor sequencer.config.clockRate)))
  | unresolved {fault : Fault} (spans : SpansTick (sequencer.advance update))
      (refused : update.resolve sequencer.channels = .error fault) :
      PlanEnds sequencer update (.error fault)
  | overflow {resolved : ResolvedUpdate} (spans : SpansTick (sequencer.advance update))
      (resolves : update.resolve sequencer.channels = .ok resolved)
      (beyond : fits sequencer.timeline.capacity sequencer.step
        (sequencer.endTicks update).floor = false) :
      PlanEnds sequencer update (.error (.rejected (.bufferOverflow
        ((sequencer.endTicks update).floor.toUnsigned 64) sequencer.timeline.capacity)))
  | underflow {resolved : ResolvedUpdate} (timed : sequencer.Timed update resolved)
      (early : sequencer.step < update.latchLength) :
      PlanEnds sequencer update
        (.error (.rejected (.regionUnderflow sequencer.step update.latchLength)))
  | collision {resolved : ResolvedUpdate} (timed : sequencer.Timed update resolved)
      (room : update.latchLength ≤ sequencer.step)
      (written : ∃ step, sequencer.latchStart update ≤ step ∧ step < sequencer.step ∧
        sequencer.timeline.wordAt step ≠ 0#32) :
      PlanEnds sequencer update (.error (.rejected (.writeCollision sequencer.step
        ⟨sequencer.latchStart update, sequencer.step⟩)))
  | noRow {resolved : ResolvedUpdate} {fault : Fault} (timed : sequencer.Timed update resolved)
      (room : update.latchLength ≤ sequencer.step)
      (unwritten : ∀ step, sequencer.latchStart update ≤ step → step < sequencer.step →
        sequencer.timeline.wordAt step = 0#32)
      (named : update.synth.isEmpty = false)
      (refused : sequencer.table.check sequencer.timeline sequencer.step = .error fault) :
      PlanEnds sequencer update (.error fault)
  | accepted {resolved : ResolvedUpdate} (accepts : sequencer.Accepts update resolved) :
      PlanEnds sequencer update (.ok (sequencer.placementOf update resolved))

/-- An update whose steps fit begins on the timeline. Nothing is assumed about where it ends. -/
theorem lt_of_fits {capacity step : Nat} {endStep : Binary64}
    (fit : fits capacity step endStep = true) : step < capacity := by
  simp only [fits, Bool.and_eq_true, decide_eq_true_eq] at fit
  exact fit.1

/-- An update whose steps fit ends on a timeline of at most two to the 53rd words. Up to that size
the capacity is a whole number among the doubles, so the comparison of doubles is exact. -/
theorem floor_le_of_fits {capacity step : Nat} {endTicks : Binary64} (defined : endTicks ≠ .nan)
    (short : capacity ≤ 2 ^ 53) (fit : fits capacity step endTicks.floor = true) :
    ⌊endTicks.position⌋ ≤ (capacity : ℤ) := by
  simp only [fits, Bool.and_eq_true, Bool.not_eq_true', decide_eq_false_iff_not] at fit
  have within := fit.2
  have floored : endTicks.floor ≠ .nan := Binary64.toWhole_ne_nan defined
  rw [Binary64.lt_iff (Binary64.ofNat_ne_nan capacity) floored, Binary64.ofNat_position short,
    Binary64.floor_position, not_lt] at within
  exact_mod_cast within

/-- The first check fails exactly for an advance of less than a tick, and for one that is not
finite. -/
theorem spansTick_iff (advance : Binary64) :
    (!advance.floor.isFinite || decide (advance.floor < 1)) = false ↔ SpansTick advance := by
  simp [SpansTick]

/-- An update without a row passes this check, and one with a row does if its pulse is free. It
fails with a fault of the table and only for an update that names a synthesizer channel. -/
theorem planRow_ends {sequencer : Sequencer} {update : Update} {resolved : ResolvedUpdate}
    (parts : update.ResolvesTo sequencer.channels resolved)
    (inside : sequencer.step ≤ sequencer.timeline.capacity) :
    (sequencer.planRow resolved.synth =
        .ok (resolved.synth.map (·, ⟨sequencer.pulseStart, sequencer.step⟩)) ∧
      (update.synth.isEmpty = false → sequencer.FreeRow)) ∨
      ∃ fault, sequencer.planRow resolved.synth = .error fault ∧ update.synth.isEmpty = false ∧
        sequencer.table.check sequencer.timeline sequencer.step = .error fault := by
  cases row : resolved.synth with
  | none =>
    have unnamed : update.synth.isEmpty = true := by simpa [row] using parts.synth
    refine .inl ⟨rfl, fun named => ?_⟩
    rw [unnamed] at named
    exact nomatch named
  | some values =>
    have named : update.synth.isEmpty = false := by simpa [row] using parts.synth
    have ends := sequencer.table.check_ends inside
    rw [planRow]
    cases checked : sequencer.table.check sequencer.timeline sequencer.step with
    | error fault => exact .inr ⟨fault, rfl, named, rfl⟩
    | ok window =>
      rw [checked] at ends
      cases ends with
      | passed tableRoom pulseRoom free => exact .inl ⟨rfl, fun _ => ⟨tableRoom, pulseRoom, free⟩⟩

/-- Planning has exactly these ends. The state is arbitrary: neither a built map nor a cursor in
time is assumed.

Proof: follow the checks in their order. Every one that fails is an end, and every one that passes
goes into the evidence of the ends behind it. -/
theorem plan_ends (sequencer : Sequencer) (update : Update) :
    sequencer.PlanEnds update (sequencer.plan update) := by
  change sequencer.PlanEnds update
    (if (!(sequencer.advance update).floor.isFinite ||
      decide ((sequencer.advance update).floor < 1)) = true then _ else _)
  split
  · next short =>
    refine .tooShort fun spans => ?_
    rw [(spansTick_iff _).mpr spans] at short
    exact absurd short Bool.false_ne_true
  · next long =>
    have spans : SpansTick (sequencer.advance update) :=
      (spansTick_iff _).mp (Bool.eq_false_iff.mpr long)
    cases outcome : update.resolve sequencer.channels with
    | error fault => exact .unresolved spans outcome
    | ok resolved =>
      have parts := Update.resolve_ok outcome
      change sequencer.PlanEnds update (if (!fits sequencer.timeline.capacity sequencer.step
        (sequencer.endTicks update).floor) = true then _ else _)
      split
      · next beyond => exact .overflow spans outcome (by simpa using beyond)
      · next within =>
        have fit : fits sequencer.timeline.capacity sequencer.step
            (sequencer.endTicks update).floor = true := by simpa using within
        have timed : sequencer.Timed update resolved := ⟨spans, outcome, fit⟩
        have inside := (lt_of_fits fit).le
        rw [Timeline.regionBefore_of_le _ inside, parts.latchLength_eq]
        split
        · next early => exact .underflow timed early
        · next late =>
          have room := Nat.le_of_not_lt late
          rcases @Timeline.assertUnwritten_spec sequencer.timeline (sequencer.latchStart update)
              sequencer.step (Nat.sub_le _ _) inside with
            ⟨passed, unwritten⟩ | ⟨failed, written⟩
          · change sequencer.PlanEnds update (sequencer.timeline.assertUnwritten
              ⟨sequencer.latchStart update, sequencer.step⟩ >>= _)
            rw [passed]
            change sequencer.PlanEnds update (sequencer.planRow resolved.synth >>= _)
            rcases planRow_ends parts inside with ⟨planned, row⟩ | ⟨fault, planned, named, refused⟩
            · rw [planned]
              exact .accepted ⟨timed, room, unwritten, row⟩
            · rw [planned]
              exact .noRow timed room unwritten named refused
          · change sequencer.PlanEnds update (sequencer.timeline.assertUnwritten
              ⟨sequencer.latchStart update, sequencer.step⟩ >>= _)
            rw [failed]
            exact .collision timed room written

/-- Where the checks before the one of the row pass, the row decides. Either the update is planned
as a whole, or it names a synthesizer channel and fails with the fault of the table. -/
theorem plan_of_unwritten {sequencer : Sequencer} {update : Update} {resolved : ResolvedUpdate}
    (timed : sequencer.Timed update resolved) (room : update.latchLength ≤ sequencer.step)
    (unwritten : ∀ step, sequencer.latchStart update ≤ step → step < sequencer.step →
      sequencer.timeline.wordAt step = 0#32) :
    (sequencer.plan update = .ok (sequencer.placementOf update resolved) ∧
      sequencer.Accepts update resolved) ∨
    ∃ fault, sequencer.plan update = .error fault ∧ update.synth.isEmpty = false ∧
      sequencer.table.check sequencer.timeline sequencer.step = .error fault := by
  have ends := sequencer.plan_ends update
  generalize sequencer.plan update = outcome at ends
  cases ends with
  | tooShort short => exact absurd timed.spans short
  | unresolved _ refused =>
    rw [timed.resolves] at refused
    contradiction
  | overflow _ _ beyond =>
    rw [timed.fits] at beyond
    contradiction
  | underflow _ early => exact absurd room (Nat.not_le_of_lt early)
  | collision _ _ written =>
    obtain ⟨step, after, before, word⟩ := written
    exact absurd (unwritten step after before) word
  | noRow _ _ _ named refused => exact .inr ⟨_, rfl, named, refused⟩
  | @accepted other accepts =>
    have same := accepts.resolves.symm.trans timed.resolves
    obtain rfl := Except.ok.inj same
    exact .inl ⟨rfl, accepts⟩

/-- An update whose checks pass is planned. With `plan_ends`, the checks are also all that planning
looks at. -/
theorem Accepts.plan_eq {sequencer : Sequencer} {update : Update} {resolved : ResolvedUpdate}
    (accepts : sequencer.Accepts update resolved) :
    sequencer.plan update = .ok (sequencer.placementOf update resolved) := by
  rcases plan_of_unwritten accepts.toTimed accepts.room accepts.unwritten with
    ⟨planned, -⟩ | ⟨fault, -, named, refused⟩
  · exact planned
  · have free := accepts.row named
    have passed := SynthTable.check_of_free (lt_of_fits accepts.fits).le free.tableRoom
      free.pulseRoom free.free
    rw [refused] at passed
    contradiction

/-! ## Committing -/

/-- Editing the timeline where the edit has a place. Cursor, table and counts stay. -/
theorem editTimeline_ok {edit : Timeline → Option Timeline} {sequencer : Sequencer}
    {timeline : Timeline} (edited : edit sequencer.timeline = some timeline) :
    editTimeline edit sequencer = (.ok (), { sequencer with timeline }) := by
  rw [editTimeline, edited]

/-- Appending a row where the row and its pulse have a place. The pulse is flagged on the timeline
and the row stands in the table. -/
theorem appendRow_ok {sequencer : Sequencer} {values : SynthUpdate} {window : Span}
    {table : SynthTable} {timeline : Timeline}
    (pushed : sequencer.table.push? sequencer.timeline window values = some (table, timeline)) :
    appendRow (some (values, window)) sequencer = (.ok (), { sequencer with table, timeline }) := by
  simp only [appendRow, pushed]

/-- Blocks that have room below a step are all written, the first one right below it. Only the words
of their region change. The step need not be that of the cursor, and the words that were in the
region before are not asked for.

Proof: by induction on the blocks, each of which moves the step down by its own length. -/
theorem writeBelow_spec (blocks : List (List Word)) {step : Nat} {sequencer : Sequencer}
    (room : blocks.reverse.flatten.length ≤ step) (inside : step ≤ sequencer.timeline.capacity) :
    ∃ timeline, writeBelow step blocks sequencer = (.ok (), { sequencer with timeline }) ∧
      timeline.capacity = sequencer.timeline.capacity ∧
      ∀ place, timeline.wordAt place =
        if step - blocks.reverse.flatten.length ≤ place ∧ place < step then
          blocks.reverse.flatten[place - (step - blocks.reverse.flatten.length)]?.getD 0#32
        else sequencer.timeline.wordAt place := by
  induction blocks generalizing step sequencer with
  | nil =>
    refine ⟨sequencer.timeline, rfl, rfl, fun place => ?_⟩
    rw [if_neg]
    simp
  | cons block lower inductionHypothesis =>
    simp only [List.reverse_cons, List.flatten_append, List.flatten_singleton,
      List.length_append] at room ⊢
    have begins : stepBefore? step block.length = some (step - block.length) := by
      rw [stepBefore?, if_pos (by omega)]
    obtain ⟨written, wrote, capacity, words⟩ :=
      @Timeline.write?_spec sequencer.timeline (step - block.length) block (by omega)
    obtain ⟨timeline, rest, capacityRest, wordsRest⟩ :=
      @inductionHypothesis (step - block.length) { sequencer with timeline := written } (by omega)
        (by rw [capacity]; omega)
    refine ⟨timeline, ?_, capacityRest.trans capacity, fun place => ?_⟩
    · rw [writeBelow, begins]
      change (editTimeline _ >>= fun _ => writeBelow (step - block.length) lower) sequencer = _
      rw [Operation.bind_run_ok (editTimeline_ok wrote)]
      exact rest
    · rw [wordsRest]
      dsimp only
      rw [words]
      rcases Nat.lt_or_ge place (step - block.length) with below | above
      · rw [if_neg (by omega : ¬(step - block.length ≤ place ∧ place < _))]
        by_cases inLower : step - block.length - lower.reverse.flatten.length ≤ place
        · rw [if_pos ⟨inLower, below⟩, if_pos (by omega), List.getElem?_append_left (by omega)]
          congr 3
          omega
        · rw [if_neg (by omega), if_neg (by omega)]
      · rw [if_neg (by omega)]
        by_cases inBlock : place < step
        · rw [if_pos (by omega), if_pos (by omega), List.getElem?_append_right (by omega)]
          congr 2
          omega
        · rw [if_neg (by omega), if_neg (by omega)]

/-- What an accepted update leaves behind: the cursor, the runtime and the count moved on, the table
with its new row, and every word of the timeline. Latch words replace what was there, while the
flags of the boundary and of the pulse are joined to it. -/
structure Follows (sequencer : Sequencer) (update : Update) (resolved : ResolvedUpdate)
    (next : Sequencer) : Prop where
  channels : next.channels = sequencer.channels
  config : next.config = sequencer.config
  runtime : next.runtime = sequencer.runtime + update.duration
  ticks : next.ticks = sequencer.endTicks update
  updateCount : next.updateCount = sequencer.updateCount + 1
  table : next.table = match resolved.synth with
    | none => sequencer.table
    | some values =>
      { sequencer.table with rows := sequencer.table.rows.push (sequencer.table.merge values) }
  capacity : next.timeline.capacity = sequencer.timeline.capacity
  words : ∀ step, next.timeline.wordAt step =
    (if sequencer.latchStart update ≤ step ∧ step < sequencer.step then
        resolved.stacked[step - sequencer.latchStart update]?.getD 0#32
      else sequencer.timeline.wordAt step) |||
      (if step = sequencer.step then Word.epochTrigger else 0#32) |||
      (if update.synth.isEmpty = false ∧ sequencer.pulseStart ≤ step ∧ step < sequencer.step then
        Word.synthTrigger
      else 0#32)

namespace Follows

variable {sequencer next : Sequencer} {update : Update} {resolved : ResolvedUpdate}

/-- The length of a trigger pulse stays, whether or not the update adds a row. -/
theorem width (follows : sequencer.Follows update resolved next) :
    next.table.triggerWidth = sequencer.table.triggerWidth := by
  rw [follows.table]
  cases resolved.synth <;> rfl

/-- The size of the table stays, whether or not the update adds a row. -/
theorem tableCapacity (follows : sequencer.Follows update resolved next) :
    next.table.capacity = sequencer.table.capacity := by
  rw [follows.table]
  cases resolved.synth <;> rfl

/-- An update that names a synthesizer channel adds a row, and any other update adds none. -/
theorem rowCount_of_accepts (follows : sequencer.Follows update resolved next)
    (accepts : sequencer.Accepts update resolved) :
    next.table.rowCount =
      sequencer.table.rowCount + if update.synth.isEmpty = true then 0 else 1 := by
  have named := (Update.resolve_ok accepts.resolves).synth
  rw [follows.table]
  cases row : resolved.synth with
  | none =>
    have unnamed : update.synth.isEmpty = true := by simpa [row] using named
    rw [if_pos unnamed]
    rfl
  | some values =>
    have unnamed : ¬update.synth.isEmpty = true := by simpa [row] using named
    rw [if_neg unnamed]
    exact Array.size_push _

end Follows

/-- Laying a flag over some steps, as a word joined to each of them. Where the flag is not laid, the
word joined is zero. -/
theorem flag_word (word flag : Word) (inside : Prop) [Decidable inside] :
    (if inside then word ||| flag else word) = word ||| if inside then flag else 0#32 := by
  split
  · rfl
  · exact (BitVec.or_zero).symm

/-- The latch words and the boundary of an accepted update are written, and each word after that is
known. The words of the region replace those before, and the boundary is joined. -/
theorem latch_spec {sequencer : Sequencer} {update : Update} {resolved : ResolvedUpdate}
    (accepts : sequencer.Accepts update resolved) :
    ∃ latched marked, writeBelow sequencer.step resolved.latchBlocks sequencer =
        (.ok (), { sequencer with timeline := latched }) ∧
      latched.setFlag? ⟨sequencer.step, sequencer.step + 1⟩ Word.epochTrigger = some marked ∧
      marked.capacity = sequencer.timeline.capacity ∧
      ∀ step, marked.wordAt step =
        (if sequencer.latchStart update ≤ step ∧ step < sequencer.step then
            resolved.stacked[step - sequencer.latchStart update]?.getD 0#32
          else sequencer.timeline.wordAt step) |||
          (if step = sequencer.step then Word.epochTrigger else 0#32) := by
  have parts := Update.resolve_ok accepts.resolves
  have inside := lt_of_fits accepts.fits
  have length : resolved.latchBlocks.reverse.flatten.length = update.latchLength :=
    parts.length_stacked
  obtain ⟨latched, wrote, latchedCapacity, latchedWords⟩ :=
    @writeBelow_spec resolved.latchBlocks sequencer.step sequencer
      (length.trans_le accepts.room) inside.le
  obtain ⟨marked, flagged, markedCapacity, markedWords⟩ :=
    @Timeline.setFlag?_spec latched sequencer.step (sequencer.step + 1) Word.epochTrigger
      (Nat.le_succ _) (by omega)
  refine ⟨latched, marked, wrote, flagged, markedCapacity.trans latchedCapacity, fun step => ?_⟩
  have boundary : (sequencer.step ≤ step ∧ step < sequencer.step + 1) ↔ step = sequencer.step := by
    omega
  rw [markedWords, flag_word, if_congr boundary rfl rfl, latchedWords, length]
  rfl

/-- An accepted update is committed, and leaves behind what `Follows` says. No write is without a
place, for which no other invariant of the state is needed.

Proof: each write of the commit has a place because of a check. The words before the pulse is laid
are those of `latch_spec`, and the latch region and the boundary carry no trigger flag. -/
theorem commit_spec {sequencer : Sequencer} {update : Update} {resolved : ResolvedUpdate}
    (accepts : sequencer.Accepts update resolved) :
    ∃ next, commit (sequencer.placementOf update resolved) sequencer = (.ok (), next) ∧
      sequencer.Follows update resolved next := by
  have parts := Update.resolve_ok accepts.resolves
  have inside := lt_of_fits accepts.fits
  obtain ⟨latched, marked, wrote, flagged, capacity, words⟩ := latch_spec accepts
  let moved : Sequencer := { sequencer with
    runtime := sequencer.runtime + update.duration
    ticks := sequencer.endTicks update
    timeline := marked }
  have opened : commit (sequencer.placementOf update resolved) sequencer =
      (appendRow (resolved.synth.map (·, ⟨sequencer.pulseStart, sequencer.step⟩)) >>= fun _ =>
        .change fun moved => { moved with updateCount := moved.updateCount + 1 }) moved := by
    unfold commit
    rw [placementOf, Operation.bind_run_ok wrote, Operation.bind_run_ok (editTimeline_ok flagged)]
    rfl
  rw [opened]
  cases row : resolved.synth with
  | none =>
    have unnamed : update.synth.isEmpty = true := by simpa [row] using parts.synth
    refine ⟨_, rfl, ⟨rfl, rfl, rfl, rfl, rfl, by rw [row], capacity, fun step => ?_⟩⟩
    rw [if_neg (by simp [unnamed] : ¬(update.synth.isEmpty = false ∧ _)), BitVec.or_zero]
    exact words step
  | some values =>
    have named : update.synth.isEmpty = false := by simpa [row] using parts.synth
    obtain ⟨raised, pushed, raisedCapacity, raisedWords⟩ :=
      @SynthTable.push?_spec sequencer.table marked sequencer.pulseStart sequencer.step values
        (accepts.row named).tableRoom (Nat.sub_le _ _) (by omega)
    simp only [Option.map_some]
    rw [Operation.bind_run_ok (@appendRow_ok moved values _ _ _ pushed)]
    refine ⟨_, rfl, ⟨rfl, rfl, rfl, rfl, rfl, by rw [row], raisedCapacity.trans capacity,
      fun step => ?_⟩⟩
    have pulse : (update.synth.isEmpty = false ∧ sequencer.pulseStart ≤ step ∧
        step < sequencer.step) ↔ sequencer.pulseStart ≤ step ∧ step < sequencer.step := by
      simp [named]
    rw [if_congr pulse rfl rfl, ← words step, ← flag_word]
    exact raisedWords step

/-! ## Applying -/

/-- An update whose checks pass is placed at the cursor, and the state after it is the one that
`Follows` describes. -/
theorem apply_of_accepts {sequencer : Sequencer} {update : Update} {resolved : ResolvedUpdate}
    (planned : sequencer.plan update = .ok (sequencer.placementOf update resolved))
    (accepts : sequencer.Accepts update resolved) :
    ∃ next, sequencer.apply update = (.ok sequencer.step, next) ∧
      sequencer.Follows update resolved next := by
  obtain ⟨next, committed, follows⟩ := commit_spec accepts
  refine ⟨next, ?_, follows⟩
  have examined : Operation.examine (·.plan update) sequencer =
      (.ok (sequencer.placementOf update resolved), sequencer) := by
    rw [Operation.examine, planned]
  rw [apply, place, Operation.bind_run_ok examined, Operation.bind_run_ok committed]
  rfl

/-- An update that does not pass a check changes nothing, since planning reads the state only. -/
theorem apply_of_plan_error {sequencer : Sequencer} {update : Update} {fault : Fault}
    (refused : sequencer.plan update = .error fault) :
    sequencer.apply update = (.error fault, sequencer) := by
  have examined : Operation.examine (·.plan update) sequencer = (.error fault, sequencer) := by
    rw [Operation.examine, refused]
  rw [apply, place, Operation.bind_run_error examined]

/-- Applying an update ends as its checks do, in every state: committing adds no fault of its
own. -/
theorem apply_outcome (sequencer : Sequencer) (update : Update) :
    (sequencer.apply update).1 = (sequencer.plan update).map (·.step) := by
  have ends := sequencer.plan_ends update
  cases planned : sequencer.plan update with
  | error fault => rw [apply_of_plan_error planned]; rfl
  | ok placement =>
    rw [planned] at ends
    cases ends with
    | accepted accepts =>
      obtain ⟨next, applied, -⟩ := apply_of_accepts planned accepts
      rw [applied]
      rfl

/-- An update is placed exactly if its checks pass, and then as they say: at the step of the cursor,
with the words, the row and the cursor of `Follows`. -/
theorem apply_ok {sequencer next : Sequencer} {update : Update} {boundary : Nat}
    (placed : sequencer.apply update = (.ok boundary, next)) :
    boundary = sequencer.step ∧ ∃ resolved, sequencer.Accepts update resolved ∧
      sequencer.Follows update resolved next := by
  have ends := sequencer.plan_ends update
  cases planned : sequencer.plan update with
  | error fault =>
    rw [apply_of_plan_error planned] at placed
    exact nomatch (Prod.mk.inj placed).1
  | ok placement =>
    rw [planned] at ends
    cases ends with
    | accepted accepts =>
      obtain ⟨other, applied, follows⟩ := apply_of_accepts planned accepts
      obtain ⟨same, rfl⟩ := Prod.mk.inj (applied.symm.trans placed)
      exact ⟨(Except.ok.inj same).symm, _, accepts, follows⟩

/-- An update that is not placed fails one of its checks and changes nothing. The fault is that of
the check. -/
theorem apply_error {sequencer next : Sequencer} {update : Update} {fault : Fault}
    (refused : sequencer.apply update = (.error fault, next)) :
    next = sequencer ∧ sequencer.plan update = .error fault := by
  have outcome := sequencer.apply_outcome update
  rw [refused] at outcome
  cases planned : sequencer.plan update with
  | error cause =>
    rw [apply_of_plan_error planned] at refused
    obtain ⟨same, rfl⟩ := Prod.mk.inj refused
    exact ⟨rfl, congrArg Except.error (Except.error.inj same)⟩
  | ok placement =>
    rw [planned] at outcome
    exact nomatch outcome

end PulseProgram.Sequencer

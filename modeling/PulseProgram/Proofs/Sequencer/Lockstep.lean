import PulseProgram.Proofs.Sequencer.Superposition
import PulseProgram.Proofs.Update.Reordering

/-!
# Runs with the same names

Two runs whose updates last equally long and name the same channels go in lockstep: an update is
placed in one exactly if it is in the other, at the same boundary, and after it the cursors, the
numbers of rows, the written words and the triggers are the same. So the timing of a run tells
nothing about the values it gives. If the values agree too, the rows are the same, and so are
all words but those of the analog pairs of an update, whose order may differ.
-/

namespace PulseProgram.Sequencer

/-- Two sequencers that cannot be told apart by their timing. Of the words only three things are
compared: whether they are written, and the two triggers. Rows are compared by their number. -/
structure Lockstep (left right : Sequencer) : Prop where
  channels : left.channels = right.channels
  config : left.config = right.config
  runtime : left.runtime = right.runtime
  ticks : left.ticks = right.ticks
  updateCount : left.updateCount = right.updateCount
  capacity : left.timeline.capacity = right.timeline.capacity
  tableCapacity : left.table.capacity = right.table.capacity
  width : left.table.triggerWidth = right.table.triggerWidth
  rowCount : left.table.rowCount = right.table.rowCount
  /-- The same words are written. -/
  unwritten : ∀ step, left.timeline.wordAt step = 0#32 ↔ right.timeline.wordAt step = 0#32
  /-- The epoch trigger is up at the same steps. -/
  epoch : ∀ step, (left.timeline.wordAt step).carries Word.epochTrigger =
    (right.timeline.wordAt step).carries Word.epochTrigger
  /-- The synthesizer trigger is up at the same steps. -/
  synth : ∀ step, (left.timeline.wordAt step).carries Word.synthTrigger =
    (right.timeline.wordAt step).carries Word.synthTrigger

/-- The latch words that an accepted update writes are latch words indeed, at every step of its
region. This bounds neither values nor names beyond what resolving has checked. -/
theorem Accepts.latched {sequencer : Sequencer} {update : Update} {resolved : ResolvedUpdate}
    (accepts : sequencer.Accepts update resolved) {step : Nat}
    (after : sequencer.latchStart update ≤ step) (before : step < sequencer.step) :
    Word.IsLatch (resolved.stacked[step - sequencer.latchStart update]?.getD 0#32) := by
  have resolves := Update.resolve_ok accepts.resolves
  have length := resolves.length_stacked
  have room := accepts.room
  rw [latchStart] at after ⊢
  have inside : step - (sequencer.step - update.latchLength) < resolved.stacked.length := by omega
  rw [List.getElem?_eq_getElem inside, Option.getD_some]
  exact resolves.stacked_isLatch _ (List.getElem_mem inside)

/-- The triggers that an update lays over a word: the epoch trigger at its step, and the trigger of
its row, if it has one, over the steps of the pulse. -/
def triggers (sequencer : Sequencer) (update : Update) (step : Nat) : Word :=
  (if step = sequencer.step then Word.epochTrigger else 0#32) |||
    (if update.synth.isEmpty = false ∧ sequencer.pulseStart ≤ step ∧ step < sequencer.step then
      Word.synthTrigger
    else 0#32)

section Words

variable {sequencer next : Sequencer} {update : Update} {resolved : ResolvedUpdate}

/-- A word of an accepted update is its latch word or what was there, with its triggers. -/
theorem Follows.words_eq (follows : sequencer.Follows update resolved next) (step : Nat) :
    next.timeline.wordAt step =
      (if sequencer.latchStart update ≤ step ∧ step < sequencer.step then
          resolved.stacked[step - sequencer.latchStart update]?.getD 0#32
        else sequencer.timeline.wordAt step) ||| sequencer.triggers update step := by
  rw [follows.words, triggers, BitVec.or_assoc]

/-- A word stays unwritten if it was so and the update has no part there. The values of the update
do not come into it, since a latch word is never zero, whatever it was made from. -/
theorem Follows.unwritten_iff (follows : sequencer.Follows update resolved next)
    (accepts : sequencer.Accepts update resolved) (step : Nat) :
    next.timeline.wordAt step = 0#32 ↔ sequencer.timeline.wordAt step = 0#32 ∧
      ¬(sequencer.latchStart update ≤ step ∧ step < sequencer.step) ∧
      sequencer.triggers update step = 0#32 := by
  rw [follows.words_eq, BitVec.or_eq_zero_iff]
  by_cases region : sequencer.latchStart update ≤ step ∧ step < sequencer.step
  · have written := (accepts.latched region.1 region.2).nonzero
    simp [region, written]
  · simp [region]

/-- A trigger is seen where it was before and where the update lays it. It may be any flag that
latch words leave free, and within the region of the latch words nothing was there before. -/
theorem Follows.carries_eq (follows : sequencer.Follows update resolved next)
    (accepts : sequencer.Accepts update resolved) {flag : Word}
    (free : ∀ word, Word.IsLatch word → word.carries flag = false) (step : Nat) :
    (next.timeline.wordAt step).carries flag =
      ((sequencer.timeline.wordAt step).carries flag ||
        (sequencer.triggers update step).carries flag) := by
  rw [follows.words_eq, Word.carries_or]
  by_cases region : sequencer.latchStart update ≤ step ∧ step < sequencer.step
  · have blank : Word.carries 0#32 flag = false := by simp [Word.carries]
    rw [if_pos region, free _ (accepts.latched region.1 region.2),
      accepts.unwritten step region.1 region.2, blank]
  · rw [if_neg region]

end Words

namespace Lockstep

variable {left right leftNext rightNext : Sequencer} {first second : Update}
  {firstResolved secondResolved : ResolvedUpdate}

/-- A sequencer is in lockstep with itself, which is where two runs from one start begin. -/
theorem refl (sequencer : Sequencer) : Lockstep sequencer sequencer :=
  ⟨rfl, rfl, rfl, rfl, rfl, rfl, rfl, rfl, rfl, fun _ => .rfl, fun _ => rfl, fun _ => rfl⟩

/-- Lockstep looks the same from both sides, so what holds of the left run holds of the right
one. -/
theorem symm (lockstep : Lockstep left right) : Lockstep right left :=
  ⟨lockstep.channels.symm, lockstep.config.symm, lockstep.runtime.symm, lockstep.ticks.symm,
    lockstep.updateCount.symm, lockstep.capacity.symm, lockstep.tableCapacity.symm,
    lockstep.width.symm, lockstep.rowCount.symm, fun step => (lockstep.unwritten step).symm,
    fun step => (lockstep.epoch step).symm, fun step => (lockstep.synth step).symm⟩

/-- The next update would be placed at the same step on both sides. -/
theorem step_eq (lockstep : Lockstep left right) : left.step = right.step := by
  rw [step, step, lockstep.ticks]

/-- Updates of one duration advance both cursors by the same number of ticks. -/
theorem advance_eq (lockstep : Lockstep left right) (similar : first.Similar second) :
    left.advance first = right.advance second := by
  rw [advance, advance, similar.duration, lockstep.config]

/-- Updates of one duration lead both cursors to the same time, a rounded one or not. -/
theorem endTicks_eq (lockstep : Lockstep left right) (similar : first.Similar second) :
    left.endTicks first = right.endTicks second := by
  rw [endTicks, endTicks, lockstep.ticks, lockstep.advance_eq similar]

/-- Updates with the same names begin their latch words at the same step, as they have equally
many. -/
theorem latchStart_eq (lockstep : Lockstep left right) (similar : first.Similar second) :
    left.latchStart first = right.latchStart second := by
  rw [latchStart, latchStart, lockstep.step_eq, similar.latchLength_eq]

/-- A row would begin its pulse at the same step on both sides. -/
theorem pulseStart_eq (lockstep : Lockstep left right) : left.pulseStart = right.pulseStart := by
  rw [pulseStart, pulseStart, lockstep.step_eq, lockstep.width]

/-- Comparable updates pass the same checks. The words themselves may differ, since the checks only
ask whether a word is written and whether it has a trigger.

Proof: one check after the other, each of which reads only what is the same on both sides. -/
theorem accepts (lockstep : Lockstep left right) (comparable : first.Comparable second)
    (firstAccepts : left.Accepts first firstResolved) :
    ∃ secondResolved, right.Accepts second secondResolved := by
  have firstResolves : ∃ resolved, first.resolve right.channels = .ok resolved := by
    rw [← lockstep.channels]
    exact ⟨firstResolved, firstAccepts.resolves⟩
  have similar := comparable.toSimilar
  obtain ⟨secondResolved, resolves⟩ := comparable.resolves firstResolves
  refine ⟨secondResolved, ⟨?_, resolves, ?_⟩, ?_, ?_, ?_⟩
  · rw [← lockstep.advance_eq similar]
    exact firstAccepts.spans
  · rw [← lockstep.capacity, ← lockstep.step_eq, ← lockstep.endTicks_eq similar]
    exact firstAccepts.fits
  · rw [← similar.latchLength_eq, ← lockstep.step_eq]
    exact firstAccepts.room
  · intro step after before
    rw [← lockstep.latchStart_eq similar] at after
    rw [← lockstep.step_eq] at before
    exact (lockstep.unwritten step).mp (firstAccepts.unwritten step after before)
  · intro named
    rw [← Update.Similar.isEmpty_eq similar.synth] at named
    obtain ⟨tableRoom, pulseRoom, free⟩ := firstAccepts.row named
    refine ⟨?_, ?_, ?_⟩
    · rwa [← lockstep.rowCount, ← lockstep.tableCapacity]
    · rwa [← lockstep.width, ← lockstep.step_eq]
    · intro step after before
      rw [← lockstep.pulseStart_eq] at after
      rw [← lockstep.step_eq] at before
      rw [← lockstep.synth]
      exact free step after before

/-- Updates with the same names lay the same triggers over every word. -/
theorem triggers_eq (lockstep : Lockstep left right) (similar : first.Similar second)
    (step : Nat) : left.triggers first step = right.triggers second step := by
  rw [triggers, triggers, lockstep.step_eq, lockstep.pulseStart_eq,
    Update.Similar.isEmpty_eq similar.synth]

/-- Placing similar updates keeps the lockstep. The values that the two updates give need not be
related at all. -/
theorem place (lockstep : Lockstep left right) (similar : first.Similar second)
    (firstAccepts : left.Accepts first firstResolved)
    (secondAccepts : right.Accepts second secondResolved)
    (firstFollows : left.Follows first firstResolved leftNext)
    (secondFollows : right.Follows second secondResolved rightNext) :
    Lockstep leftNext rightNext where
  channels := by rw [firstFollows.channels, secondFollows.channels, lockstep.channels]
  config := by rw [firstFollows.config, secondFollows.config, lockstep.config]
  runtime := by
    rw [firstFollows.runtime, secondFollows.runtime, lockstep.runtime, similar.duration]
  ticks := by rw [firstFollows.ticks, secondFollows.ticks, lockstep.endTicks_eq similar]
  updateCount := by
    rw [firstFollows.updateCount, secondFollows.updateCount, lockstep.updateCount]
  capacity := by rw [firstFollows.capacity, secondFollows.capacity, lockstep.capacity]
  tableCapacity := by
    rw [firstFollows.tableCapacity, secondFollows.tableCapacity, lockstep.tableCapacity]
  width := by rw [firstFollows.width, secondFollows.width, lockstep.width]
  rowCount := by
    rw [firstFollows.rowCount_of_accepts firstAccepts,
      secondFollows.rowCount_of_accepts secondAccepts, lockstep.rowCount,
      Update.Similar.isEmpty_eq similar.synth]
  unwritten step := by
    rw [firstFollows.unwritten_iff firstAccepts, secondFollows.unwritten_iff secondAccepts,
      lockstep.unwritten, lockstep.latchStart_eq similar, lockstep.step_eq,
      lockstep.triggers_eq similar]
  epoch step := by
    have free : ∀ word, Word.IsLatch word → word.carries Word.epochTrigger = false := by
      intro word latch
      rw [Word.carries, latch.no_epoch]
      rfl
    rw [firstFollows.carries_eq firstAccepts free, secondFollows.carries_eq secondAccepts free,
      lockstep.epoch, lockstep.triggers_eq similar]
  synth step := by
    have free : ∀ word, Word.IsLatch word → word.carries Word.synthTrigger = false :=
      fun _ latch => latch.carries_synth
    rw [firstFollows.carries_eq firstAccepts free, secondFollows.carries_eq secondAccepts free,
      lockstep.synth, lockstep.triggers_eq similar]

/-- Comparable updates are placed at the same boundary or refused both, and the lockstep goes on.
The two faults of a refusal may differ.

Proof: what is placed on the left passes its checks on the right, and the other way round as
lockstep and comparing are both symmetric. Refused updates leave both sides as they are. -/
theorem apply (lockstep : Lockstep left right) (comparable : first.Comparable second) :
    (left.apply first).1.toOption = (right.apply second).1.toOption ∧
      Lockstep (left.apply first).2 (right.apply second).2 := by
  cases firstApplied : left.apply first with
  | mk firstOutcome leftNext =>
    cases secondApplied : right.apply second with
    | mk secondOutcome rightNext =>
      cases firstOutcome with
      | ok boundary =>
        obtain ⟨rfl, firstResolved, firstAccepts, firstFollows⟩ := apply_ok firstApplied
        obtain ⟨secondResolved, secondAccepts⟩ :=
          lockstep.accepts comparable firstAccepts
        obtain ⟨next, applied, secondFollows⟩ :=
          apply_of_accepts secondAccepts.plan_eq secondAccepts
        obtain ⟨rfl, rfl⟩ := Prod.mk.inj (applied.symm.trans secondApplied)
        exact ⟨congrArg some lockstep.step_eq,
          lockstep.place comparable.toSimilar firstAccepts secondAccepts firstFollows
            secondFollows⟩
      | error fault =>
        obtain ⟨rfl, refused⟩ := apply_error firstApplied
        cases secondOutcome with
        | error otherFault =>
          obtain ⟨rfl, -⟩ := apply_error secondApplied
          exact ⟨rfl, lockstep⟩
        | ok boundary =>
          obtain ⟨-, secondResolved, secondAccepts, -⟩ := apply_ok secondApplied
          obtain ⟨firstResolved, firstAccepts⟩ :=
            lockstep.symm.accepts comparable.symm secondAccepts
          rw [firstAccepts.plan_eq] at refused
          contradiction

/-- A run goes in lockstep with one of comparable updates, and what both place is related as the
updates are. The relation is any that makes updates comparable.

Proof: by induction on the two lists. Both updates at their heads are placed or neither is, so the
lists of placed updates grow together. -/
theorem run {Related : Update → Update → Prop}
    (compares : ∀ {first second}, Related first second → first.Comparable second)
    (lockstep : Lockstep left right) {firsts seconds : List Update}
    (related : List.Forall₂ Related firsts seconds) :
    (left.run firsts).1.map (·.toOption) = (right.run seconds).1.map (·.toOption) ∧
      Lockstep (left.run firsts).2 (right.run seconds).2 ∧
      List.Forall₂ (fun one other => one.boundary = other.boundary ∧
        Related one.update other.update) (left.placed firsts) (right.placed seconds) := by
  induction related generalizing left right with
  | nil => exact ⟨rfl, lockstep, .nil⟩
  | @cons first second firsts seconds relatedFirst relatedRest inductionHypothesis =>
    obtain ⟨sameOutcome, onward⟩ := lockstep.apply (compares relatedFirst)
    obtain ⟨sameOutcomes, last, samePlaced⟩ := inductionHypothesis onward
    rw [run_cons, run_cons]
    refine ⟨by rw [List.map_cons, List.map_cons, sameOutcome, sameOutcomes], last, ?_⟩
    rw [placed, placed]
    cases firstApplied : left.apply first with
    | mk firstOutcome leftNext =>
      cases secondApplied : right.apply second with
      | mk secondOutcome rightNext =>
        rw [firstApplied, secondApplied] at sameOutcome samePlaced
        cases firstOutcome with
        | ok boundary =>
          cases secondOutcome with
          | ok other => exact .cons ⟨Option.some.inj sameOutcome, relatedFirst⟩ samePlaced
          | error => contradiction
        | error =>
          cases secondOutcome with
          | ok => contradiction
          | error => exact samePlaced

end Lockstep

end PulseProgram.Sequencer

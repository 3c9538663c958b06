import PulseProgram.Operation
import PulseProgram.Timing
import PulseProgram.Update

/-!
# The sequencer

The sequencer compiles updates, one after the other, into a timeline of output
words and a synthesizer table. A cursor in virtual time says where the next
update takes effect:

1. The boundary is the whole part of the cursor in clock ticks.
2. The latch words of the update end right before the boundary. The line boards
   come last, and the analog pairs lie below them, the first one given next to
   them.
3. The word at the boundary carries the epoch trigger.
4. The cursor advances by the duration of the update.
5. If a synthesizer channel is named, a row is appended to the table and its
   trigger pulse is raised right before the boundary.

All checks come before the first word is written. `plan` makes the checks and
says what is to be written; `commit` writes it, piece by piece. A piece without a
place would be a fault that leaves the pieces before it written.
-/

namespace PulseProgram

/-- A compiled program: what is put out at the sample clock, and what the synthesizer is loaded with
before. Nothing in it refers to channels or updates any more. -/
structure Program where
  waveform : Waveform
  rows : List SynthRow
  clockRate : Binary64
  /-- The programmed time in seconds, the initial offset included. -/
  runtime : Binary64

namespace Program

/-- The number of words, one for each clock step of the playback. -/
def sampleCount (program : Program) : Nat := program.waveform.length

/-- The number of synthesizer rows, one for each update that named a synthesizer channel. -/
def rowCount (program : Program) : Nat := program.rows.length

end Program

/-- The state of a compilation. Cursor, words and rows are all that is kept of the updates before;
the updates themselves are not. -/
structure Sequencer where
  channels : ChannelMap
  config : Config
  /-- The cursor in seconds. -/
  runtime : Binary64
  /-- The cursor in clock ticks, possibly with a fraction. -/
  ticks : Binary64
  timeline : Timeline
  table : SynthTable
  updateCount : Nat

/-- What an update that passed all checks writes, and where the cursor goes. It is laid out as a
whole before the first word is written. -/
structure Placement where
  step : Nat
  /-- The latch words in blocks from the boundary down. -/
  blocks : List (List Word)
  /-- The values of the next row and its trigger pulse. -/
  row : Option (SynthUpdate × Span)
  duration : Binary64
  endTicks : Binary64

namespace Sequencer

/-- A compilation without updates. The clock rate is checked before there is a
timeline, and the timeline is made before the table. -/
def start (channels : ChannelMap) (config : Config) : Except Fault Sequencer := do
  rejecting config.validate
  let timeline ← storable (Timeline.unwritten? config.capacity)
  let table ← storable (SynthTable.empty? config.synthCapacity config.triggerWidth)
  return {
    channels
    config
    runtime := config.startOffset
    ticks := snapTicks (config.startOffset * config.clockRate)
    timeline
    table
    updateCount := 0 }

/-- The step of the cursor, which is where the next update has its boundary. A cursor before time
zero counts as being at step zero. -/
def step (sequencer : Sequencer) : Nat := stepAt sequencer.ticks

/-- The words before the cursor. They are what would be put out if the compilation ended here. -/
def waveform (sequencer : Sequencer) : Waveform := sequencer.timeline.view sequencer.step

/-- Whether the steps from a boundary to the end of its update fit the capacity. The end is compared
as a double, and an undefined one passes. -/
def fits (capacity step : Nat) (endStep : Binary64) : Bool :=
  decide (step < capacity) && !decide (Binary64.ofNat capacity < endStep)

/-- The row of an update, if it comes with one, and its checked trigger pulse. The values are not
merged with those of the row before yet. -/
def planRow (sequencer : Sequencer) :
    Option SynthUpdate → Except Fault (Option (SynthUpdate × Span))
  | none => .ok none
  | some values => do
    let window ← sequencer.table.check sequencer.timeline sequencer.step
    return some (values, window)

/-- Checks an update and lays out what it writes. The duration is checked first,
then names and values, then the room on the timeline, the words before the
boundary and the trigger pulse. -/
def plan (sequencer : Sequencer) (update : Update) : Except Fault Placement := do
  let clockRate := sequencer.config.clockRate
  let advance := snapTicks (update.duration * clockRate)
  if !advance.floor.isFinite || decide (advance.floor < 1) then
    .error (.rejected (.durationTooShort update.duration advance.floor clockRate))
  else
    let resolved ← update.resolve sequencer.channels
    let step := sequencer.step
    let endTicks := snapTicks (sequencer.ticks + advance)
    let capacity := sequencer.timeline.capacity
    if !fits capacity step endTicks.floor then
      .error (.rejected (.bufferOverflow (endTicks.floor.toUnsigned 64) capacity))
    else
      let region ← rejecting (sequencer.timeline.regionBefore step resolved.latchLength)
      sequencer.timeline.assertUnwritten region
      let row ← sequencer.planRow resolved.synth
      return { step, blocks := resolved.latchBlocks, row, duration := update.duration, endTicks }

/-! ## Writing a placement -/

/-- Changes the timeline; there is a fault if the change has no place on it, and then the sequencer
stays as it was. -/
def editTimeline (edit : Timeline → Option Timeline) : Operation Sequencer Fault Unit :=
  fun sequencer =>
    match edit sequencer.timeline with
    | some timeline => (.ok (), { sequencer with timeline })
    | none => (.error .outOfBounds, sequencer)

/-- The step that lies `length` steps before another, if there is one. There is none before the
first step of the timeline. -/
def stepBefore? (step length : Nat) : Option Nat :=
  if length ≤ step then some (step - length) else none

/-- Writes blocks of words below a step, each right below the one before. A block keeps the order of
its words, so the last word of the first block stands right before the step. -/
def writeBelow (step : Nat) : List (List Word) → Operation Sequencer Fault Unit
  | [] => pure ()
  | block :: lower => do
    let start ← Operation.check (inBounds (stepBefore? step block.length))
    editTimeline (·.write? start block)
    writeBelow start lower

/-- Moves the cursor. The runtime is added up in seconds and never snapped, and no check reads
it. -/
def moveCursor (duration endTicks : Binary64) : Operation Sequencer Fault Unit :=
  .change fun sequencer =>
    { sequencer with runtime := sequencer.runtime + duration, ticks := endTicks }

/-- Appends a row, if there is one, and raises its trigger pulse. Row and pulse come together or not
at all. -/
def appendRow : Option (SynthUpdate × Span) → Operation Sequencer Fault Unit
  | none => pure ()
  | some (values, window) => fun sequencer =>
    match sequencer.table.push? sequencer.timeline window values with
    | some (table, timeline) => (.ok (), { sequencer with table, timeline })
    | none => (.error .outOfBounds, sequencer)

/-- Writes what was laid out and advances the cursor. The parts are written in the order of the
module's list, and a part without a place leaves those before it written. -/
def commit (placement : Placement) : Operation Sequencer Fault Unit := do
  writeBelow placement.step placement.blocks
  editTimeline (·.setFlag? ⟨placement.step, placement.step + 1⟩ Word.epochTrigger)
  moveCursor placement.duration placement.endTicks
  appendRow placement.row
  .change fun sequencer => { sequencer with updateCount := sequencer.updateCount + 1 }

/-- Places an update at the cursor and ends with the boundary. Planning reads the state only, so a
rejected update changes nothing. -/
def place (update : Update) : Operation Sequencer Fault Nat := do
  let placement ← .examine (·.plan update)
  commit placement
  return placement.step

/-- Places an update at the cursor. The result is the boundary, or why the update
is not placed, together with the state that follows. -/
def apply (sequencer : Sequencer) (update : Update) : Except Fault Nat × Sequencer :=
  place update sequencer

/-- Ends the compilation. The program has the words before the cursor, but no more than the timeline
has. -/
def finish (sequencer : Sequencer) : Program where
  waveform := sequencer.timeline.view (min sequencer.step sequencer.timeline.capacity)
  rows := sequencer.table.rows.toList
  clockRate := sequencer.config.clockRate
  runtime := sequencer.runtime

/-- Places updates in order and stops at the first that is not placed, whose fault is the result. -/
def applyAll (sequencer : Sequencer) : List Update → Except Fault Sequencer
  | [] => .ok sequencer
  | update :: rest =>
    match sequencer.apply update with
    | (.ok _, next) => next.applyAll rest
    | (.error fault, _) => .error fault

end Sequencer

end PulseProgram

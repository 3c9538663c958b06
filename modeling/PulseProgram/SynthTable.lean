import PulseProgram.Timeline

/-!
# The synthesizer table

The synthesizer is loaded with rows before playback and steps to the next row on
every rising edge of its trigger. A row has a value for every synthesizer
channel. A channel that an update does not name keeps the value of the row
before, and the first row has zero before it; an explicit value, zero included,
always wins.

A row comes with a trigger pulse right before the boundary of its update. Two
pulses may touch but not overlap.
-/

namespace PulseProgram

/-- One value for each synthesizer channel, by address. -/
abbrev SynthRow := Vector Binary64 4

/-- The values asked for, by address; a channel without one keeps what it had. -/
abbrev SynthUpdate := Vector (Option Binary64) 4

/-- The row before the first one. No such row is in a table: it only gives the values that the first
row carries forward. -/
def SynthRow.initial : SynthRow := Vector.replicate 4 0

/-- The filled rows of a table of limited size. The width is fixed for the whole table, so all
pulses of a run are equally long. -/
structure SynthTable where
  capacity : Nat
  /-- The length of a trigger pulse in clock steps. -/
  triggerWidth : Nat
  rows : Array SynthRow

namespace SynthTable

/-- The most rows a table can have room for. The bytes of all its values, eight
each, are counted by a signed 64-bit number. -/
def largestCapacity : Nat := 0x3ffffffffffffff

/-- A table without rows, if it is not too large to be stored. -/
def empty? (capacity triggerWidth : Nat) : Option SynthTable :=
  if capacity ≤ largestCapacity then some ⟨capacity, triggerWidth, #[]⟩ else none

/-- The number of filled rows, which is also the index of the next one. -/
def rowCount (table : SynthTable) : Nat := table.rows.size

/-- The row an update makes of the last row. A value that is asked for wins, and every other channel
keeps the one of the last row. -/
def merge (table : SynthTable) (update : SynthUpdate) : SynthRow :=
  Vector.zipWith (fun carried requested => requested.getD carried)
    (table.rows.back?.getD SynthRow.initial) update

/-- The pulse of a new row that ends at a step, checked for room in the table, for
room before the step and for earlier pulses, in this order. -/
def check (table : SynthTable) (timeline : Timeline) (step : Nat) : Except Fault Span :=
  if table.capacity ≤ table.rowCount then
    .error (.rejected (.synthTableFull table.capacity))
  else do
    let window ← rejecting (timeline.regionBefore step table.triggerWidth)
    let taken ← inBounds (timeline.anyFlagged? window Word.synthTrigger)
    if taken then .error (.rejected (.synthTriggerCollision window)) else .ok window

/-- Appends the merged row and raises the trigger over its pulse. Nothing is
checked but that the row and the pulse have a place. -/
def push? (table : SynthTable) (timeline : Timeline) (window : Span) (update : SynthUpdate) :
    Option (SynthTable × Timeline) :=
  if table.rowCount < table.capacity then
    (timeline.setFlag? window Word.synthTrigger).map fun flagged =>
      ({ table with rows := table.rows.push (table.merge update) }, flagged)
  else none

end SynthTable

end PulseProgram

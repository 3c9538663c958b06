import PulseProgram.CompileError

/-!
# Ticks of the clock

Durations are given in seconds and played in whole clock ticks. A tick count that
lies within a relative tolerance of a whole number is taken as that number, so
that decimal durations land on exact steps; any other fraction is kept and
accumulates.
-/

namespace PulseProgram

/-- How close to a whole number a tick count has to be, relative to it. For counts below one the
tolerance is absolute. -/
def tickTolerance : Binary64 := 1e-9

/-- The nearest whole number if it is within the tolerance, else the count itself. A half is nearest
to the number farther from zero, which only matters for counts so large that the tolerance reaches
it. -/
def snapTicks (ticks : Binary64) : Binary64 :=
  if (ticks - ticks.round).abs ≤ tickTolerance * ticks.round.abs.larger 1 then ticks.round
  else ticks

/-- The clock step a tick count lies in. A count below zero or an undefined one lies in step
zero. -/
def stepAt (ticks : Binary64) : Nat := ticks.floor.toUnsigned 64

/-- Rows available in the synthesizer table by default. The device has one more
entry, which ends the table. -/
def defaultSynthCapacity : Nat := 32767

/-- The timing of one compiled run. Only the clock rate is checked; the other numbers are taken as
they are given. -/
structure Config where
  /-- The sample clock in Hz. -/
  clockRate : Binary64 := 1e6
  /-- The longest program in seconds. -/
  maxDuration : Binary64 := 100
  /-- Where the cursor starts, in seconds. The latch words of the first update and
  the first trigger pulse lie before it. -/
  startOffset : Binary64 := 100e-6
  /-- The shortest trigger pulse of the synthesizer in seconds. -/
  minTriggerWidth : Binary64 := 100e-6
  /-- The number of rows in the synthesizer table. -/
  synthCapacity : Nat := defaultSynthCapacity
deriving DecidableEq

namespace Config

/-- The default timing at another clock rate. -/
def withClockRate (clockRate : Binary64) : Config := { clockRate }

/-- The length of the timeline in words. A fraction of a word at the end counts as a word. -/
def capacity (config : Config) : Nat :=
  (config.maxDuration * config.clockRate).ceil.toUnsigned 64

/-- The trigger pulse in clock steps. The product is rounded up and, unlike the times of the cursor,
not snapped before. -/
def triggerWidth (config : Config) : Nat :=
  (config.minTriggerWidth * config.clockRate).ceil.toUnsigned 64

/-- The clock has to run: its rate is finite and more than zero. -/
def validate (config : Config) : Except CompileError Unit :=
  if !config.clockRate.isFinite || decide (config.clockRate ≤ 0) then
    .error (.invalidClockRate config.clockRate)
  else .ok ()

end Config

end PulseProgram

import PulseProgram.Daq.Library

/-!
# Tasks of the data acquisition library

A task is created, given a channel, a clock and samples, started, waited for,
stopped and finally cleared. Whoever creates a task clears it, also after a
failure; a failure to clear is logged and otherwise without consequence.
-/

namespace PulseProgram

/-- A task the library has created, known by its handle. -/
structure DaqTask where
  handle : TaskHandle
deriving DecidableEq

namespace DaqTask

variable {δ : Type} [DaqLibrary δ]

/-- Samples are clocked by rising edges. -/
def risingEdge : Int32 := 10280

/-- The clock stops after the samples given. -/
def finiteSamples : Int32 := 10178

/-- All lines together are one channel. -/
def oneChannelForAllLines : Int32 := 1

/-- The samples of a channel follow each other. -/
def groupedByChannel : Nat := 0

/-- The status of a wait that ended before the task did. -/
def waitTimedOut : Int32 := -200560

/-- Creates a task, which is given an empty name. -/
def create : Operation δ PlaybackError DaqTask := do
  DaqLibrary.checkText (δ := δ) ""
  let reply ← DaqLibrary.call (.createTask "")
  return ⟨reply.task⟩

/-- Starts a task that has its channel, its clock and its samples. -/
def start (task : DaqTask) : Operation δ PlaybackError Unit :=
  DaqLibrary.command (.startTask task.handle)

/-- Stops a task, which is still to be cleared. -/
def stop (task : DaqTask) : Operation δ PlaybackError Unit :=
  DaqLibrary.command (.stopTask task.handle)

/-- Gives a task back to the library. Its handle means nothing after that. -/
def clear (task : DaqTask) : Operation δ PlaybackError Unit :=
  DaqLibrary.command (.clearTask task.handle)

/-- Waits for the end of a task. Only the status of a wait that ended too early is
a timeout. -/
def waitUntilDone (task : DaqTask) (timeout : Binary64) : Operation δ PlaybackError Unit :=
  (DaqLibrary.command (.waitUntilTaskDone task.handle timeout)).withCause fun
    | .daq code text => if code = waitTimedOut then .timeout timeout else .daq code text
    | other => other

/-- Clocks a number of samples at a rate. The task stops by itself after the last one. -/
def configureClock (task : DaqTask) (source : String) (rate : Binary64) (samples : Nat) :
    Operation δ PlaybackError Unit := do
  DaqLibrary.checkText source
  DaqLibrary.command (.sampleClock task.handle source rate risingEdge finiteSamples samples)

/-- Puts out words on lines, which together make one channel. -/
def addOutput (task : DaqTask) (lines : String) : Operation δ PlaybackError Unit := do
  DaqLibrary.checkText lines
  DaqLibrary.command (.digitalOutput task.handle lines "" oneChannelForAllLines)

/-- A count reported in 32 bits with sign, read as 64 bits without. -/
def reportedCount (written : Int32) : Nat := written.toInt64.toUInt64.toNat

/-- Hands over the samples without starting the task. The result is the number of
samples the library says it took. -/
def write (task : DaqTask) (samples : Waveform) (timeout : Binary64) :
    Operation δ PlaybackError Nat := do
  let reply ← DaqLibrary.call
    (.writeDigital task.handle (.ofNat samples.length) false timeout groupedByChannel samples)
  return reportedCount reply.written

/-- Creates a task, uses it and clears it. The outcome is that of the use, and a failure to clear
only leaves its line in the log. -/
def withTask (body : DaqTask → Operation δ PlaybackError Unit) : Operation δ PlaybackError Unit := do
  let task ← create
  (body task).thenAlways task.clear

end DaqTask

end PulseProgram

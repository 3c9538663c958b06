import PulseProgram.Daq.Task

/-!
# The clocked output of a data acquisition device

The 32 bits of a word drive 32 lines of the device, which come in four banks of
eight: bit `8 * b + l` drives line `l` of bank `b`. One task plays one waveform.
-/

namespace PulseProgram

/-- A device and the library that drives it. -/
structure DaqOutput (δ : Type) where
  device : String
  library : δ

namespace DaqOutput

variable {δ : Type} [DaqLibrary δ]

/-- The lines of a device that carry a word, from bit zero on. -/
def wordLines (device : String) : String :=
  ",".intercalate ((List.range 4).map fun bank =>
    device ++ "/port" ++ toString bank ++ "/line0:7")

/-- Plays a waveform on a device. How many samples the library says it took makes no
difference. -/
def playOn (device : String) (waveform : Waveform) (clockRate timeout : Binary64) :
    Operation δ PlaybackError Unit :=
  DaqTask.withTask fun task => do
    task.addOutput (wordLines device)
    task.configureClock "" clockRate waveform.length
    let _ ← task.write waveform timeout
    task.start
    task.waitUntilDone timeout
    task.stop

/-- Carries out an operation on the library of an output, whose device stays. -/
def withLibrary {α : Type} (operation : Operation δ PlaybackError α) :
    Operation (DaqOutput δ) PlaybackError α :=
  operation.onPart DaqOutput.library fun output library => { output with library }

/-- Resets the device of an output. -/
def reset : Operation (DaqOutput δ) PlaybackError Unit := fun output =>
  withLibrary (DaqLibrary.resetDevice output.device) output

instance : ClockedOutput (DaqOutput δ) where
  play waveform clockRate timeout := fun output =>
    withLibrary (playOn output.device waveform clockRate timeout) output

end DaqOutput

end PulseProgram

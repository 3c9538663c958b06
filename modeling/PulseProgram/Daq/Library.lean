import PulseProgram.Playback

/-!
# The data acquisition library

The clocked output is driven through a library of calls. A call tells its status,
which is negative if it failed, and fills in what its caller asked for. After a
failed call the library can be asked once for a text that says more; this text
goes into a log and into the error.

The library is any state that answers calls. Texts handed to it end at the first
NUL, so one that contains a NUL is refused without a call.
-/

namespace PulseProgram

/-- How the library names a task. -/
abbrev TaskHandle := Nat

/-- The calls of the library with their arguments. What the caller wants to have filled in is not an
argument but part of the reply. -/
inductive DaqCall where
  | createTask (name : String)
  | startTask (task : TaskHandle)
  | stopTask (task : TaskHandle)
  | clearTask (task : TaskHandle)
  | waitUntilTaskDone (task : TaskHandle) (timeout : Binary64)
  | resetDevice (name : String)
  | sampleClock (task : TaskHandle) (source : String) (rate : Binary64) (edge mode : Int32)
      (samples : Nat)
  | digitalOutput (task : TaskHandle) (lines name : String) (grouping : Int32)
  | writeDigital (task : TaskHandle) (length : Int32) (autoStart : Bool) (timeout : Binary64)
      (layout : Nat) (samples : Waveform)
  | extendedErrorInfo (bufferSize : Nat)

/-- What the library answers. A call fills in only what it is there for. -/
structure DaqReply where
  status : Int32 := 0
  /-- The task that was created. -/
  task : TaskHandle := 0
  /-- How many samples the library says it took. -/
  written : Int32 := 0
  /-- The buffer of a text, up to and beyond its NUL. -/
  buffer : Text.Bytes := []

/-- A library, and the log its errors go to. Nothing is assumed of how it answers. -/
class DaqLibrary (δ : Type) where
  perform : DaqCall → δ → DaqReply × δ
  /-- Appends to the log. -/
  appendToLog : String → δ → δ

namespace DaqLibrary

variable {δ : Type} [DaqLibrary δ]

/-- The size of the buffer for the text about an error, its NUL included. -/
def errorBufferSize : Nat := 2048

/-- The text in a buffer, up to its NUL. A buffer without one is text as a whole. -/
def bufferText (buffer : Text.Bytes) : String :=
  String.ofList (Text.decodeLossy (buffer.takeWhile (· ≠ 0)))

/-- The line of the log for an error. -/
def logLine (text : String) : String := "DAQmx Error: " ++ text ++ "\n"

/-- Performs a call. A failed one is looked into and logged, with one inquiry whose own status does
not count. -/
def call (request : DaqCall) : Operation δ PlaybackError DaqReply := fun library =>
  let (reply, answered) := perform request library
  if reply.status < 0 then
    let (info, asked) := perform (.extendedErrorInfo errorBufferSize) answered
    let text := bufferText info.buffer
    (.error (.daq reply.status text), appendToLog (logLine text) asked)
  else (.ok reply, answered)

/-- Performs a call whose reply tells nothing but its status. -/
def command (request : DaqCall) : Operation δ PlaybackError Unit := do
  let _ ← call request
  return ()

/-- A text that the library can be handed. The refusal has the code zero, as no call was made. -/
def checkText (text : String) : Operation δ PlaybackError Unit :=
  .check (if text.toList.contains '\x00' then
    .error (.daq 0 (Text.quoted text ++ " contains a NUL byte"))
  else .ok ())

/-- Resets a device, whose name must be a text that can be handed over. -/
def resetDevice (name : String) : Operation δ PlaybackError Unit := do
  checkText name
  command (.resetDevice name)

end DaqLibrary

end PulseProgram

import PulseProgram.Daq.Output

/-!
# A scripted data acquisition library

A library without a device. It answers as a script says, which may be exchanged at
any time, and keeps the calls that were made and what went into the log.
-/

namespace PulseProgram

/-- The name of a call within the library. -/
def DaqCall.name : DaqCall → String
  | .createTask .. => "CreateTask"
  | .startTask .. => "StartTask"
  | .stopTask .. => "StopTask"
  | .clearTask .. => "ClearTask"
  | .waitUntilTaskDone .. => "WaitUntilTaskDone"
  | .resetDevice .. => "ResetDevice"
  | .sampleClock .. => "CfgSampClkTiming"
  | .digitalOutput .. => "CreateDOChan"
  | .writeDigital .. => "WriteDigitalU32"
  | .extendedErrorInfo .. => "GetExtendedErrorInfo"

/-- What the library answers. Statuses go by the names of the calls and not by their arguments. -/
structure DaqScript where
  /-- The status of the calls with these names; all others succeed. -/
  statuses : List (String × Int32) := []
  /-- The text about an error. -/
  errorText : Text.Bytes := []
  /-- How many samples the library says it took; all of them if nothing is said. -/
  written : Option Int32 := none

/-- A library that follows a script. Calls and log are kept in order. -/
structure ScriptedDaq where
  script : DaqScript := {}
  calls : Array DaqCall := #[]
  log : Array String := #[]

namespace ScriptedDaq

/-- The only task there ever is. -/
def task : TaskHandle := 7

/-- A text as it fits into a buffer with its NUL. What is too long is cut. -/
def fitted (size : Nat) (text : Text.Bytes) : Text.Bytes := text.take (size - 1) ++ [0]

/-- What the script says about a call. A failed call fills in its reply as well. -/
def reply (script : DaqScript) (call : DaqCall) : DaqReply :=
  let status := (script.statuses.lookup call.name).getD 0
  match call with
  | .createTask _ => { status, task }
  | .writeDigital _ length _ _ _ _ => { status, written := script.written.getD length }
  | .extendedErrorInfo size => { status, buffer := fitted size script.errorText }
  | _ => { status }

instance : DaqLibrary ScriptedDaq where
  perform call library :=
    (reply library.script call, { library with calls := library.calls.push call })
  appendToLog text library := { library with log := library.log.push text }

end ScriptedDaq

end PulseProgram

import PulseProgram.Synthesizer.Command
import PulseProgram.Synthesizer.Status

/-!
# Programming the synthesizer

A synthesizer takes commands and tells its status. There are two kinds: a device
behind a serial link, and one that is only simulated, which takes every command
and never fails. Whatever is done with one can be tried out on the other.

For a sequenced run the table is written row by row, four channels each, and is
then armed. The last row is written once more behind the table as the entry that
stops it.
-/

namespace PulseProgram

/-- Something that takes commands. An operation says how the device is left, also where it fails. -/
class Synthesizer (τ : Type) where
  /-- Sends a command; if it is answered the answer has to be an acceptance. -/
  send : Command → Operation τ SynthError Unit
  /-- Asks for the status. -/
  status : Operation τ SynthError (List String)

namespace Synthesizer

/-- Waits for the answer to the command just sent. Every other reply is a failure, told with what
its code means. -/
def awaitAcceptance {σ : Type} [SerialLink σ] : Operation σ SynthError Unit := do
  let reply ← SerialLink.readLine.withCause SynthError.link
  if reply = acceptance then return ()
  else .check (.error (.unexpectedResponse reply (describeErrorCode reply)))

/-- A device behind a serial link. A silent command ends as soon as it is sent, and nothing is read
for it. -/
instance overLink {σ : Type} [SerialLink σ] : Synthesizer σ where
  send command := do
    (SerialLink.writeLine command.text).withCause SynthError.link
    if command.answered then awaitAcceptance else return ()
  status := .withCause SynthError.link do
    SerialLink.writeLine Command.queryStatus
    SerialLink.readLines statusLines

/-- A synthesizer that is not there. It has no state and accepts every command. -/
structure Simulated where
deriving DecidableEq

instance simulated : Synthesizer Simulated where
  send _ := return ()
  status := return simulatedStatus

variable {τ : Type} [Synthesizer τ]

/-- Sends a command if it could be formed. A command that could not be formed costs no traffic. -/
def request (command : Except SynthError Command) : Operation τ SynthError Unit := do
  send (← .check command)

/-- Puts the device into the state that programming relies on: it does not echo, keeps its phase and
applies values at once. -/
def setUp : Operation τ SynthError Unit := do
  send .echoOff
  send (.phaseContinuous true)
  send (.simultaneousUpdate false)

/-- Restarts the device and sets it up again, as the restart undoes the settings. -/
def restart : Operation τ SynthError Unit := do
  send .restart
  setUp

/-- Whether the device tells its status and has the firmware that is known to
work. -/
def ping (synthesizer : τ) : Bool × τ :=
  match status synthesizer with
  | (.ok lines, after) => (decide (firmwareVersion lines = some supportedFirmware), after)
  | (.error _, after) => (false, after)

/-- The entries of one row, a channel each. Values beyond the channels of the device are left
out. -/
def rowEntries (index : Nat) (terminal : Bool) (row : List Binary64) : List TableEntry :=
  (row.take channelCount).mapIdx fun channel megahertz =>
    { channel, index, megahertz, phase := 0#16, amplitude := fullAmplitude, terminal }

/-- The entries of a table in the order they are written. Behind the last row its values are
repeated in the entries that stop the table; a table without rows has no such entries. -/
def tableEntries (rows : List (List Binary64)) : List TableEntry :=
  (rows.mapIdx fun index row => rowEntries index false row).flatten ++
    (rows.getLast?.map (rowEntries rows.length true)).getD []

/-- Writes entries one after the other and stops at the first that cannot be formed or sent. -/
def writeEntries : List TableEntry → Operation τ SynthError Unit
  | [] => return ()
  | entry :: rest => do
    request (Command.tableEntry entry)
    writeEntries rest

/-- Loads a table and arms it. The command that arms comes last, so a table that breaks off is never
run. -/
def programTable (rows : List (List Binary64)) : Operation τ SynthError Unit := do
  setUp
  send .defineTable
  writeEntries (tableEntries rows)
  send .runTable

end Synthesizer

end PulseProgram

import PulseProgram.Playback
import PulseProgram.Serial.FailingLink
import PulseProgram.Serial.ScriptedDevice

/-!
# A bench for trying out playback

A bench has a link with a scripted device at its other end and a clocked output.
What goes on at the link is in one transcript: attempts to connect, the lines of
the dialogue and the closing. An output that only records marks its
playback in the same transcript, so the transcript shows the order of events.
-/

namespace PulseProgram

/-- A link to a scripted device that may break. -/
abbrev RehearsalLink := FailingLink (ScriptedDevice Script)

namespace RehearsalLink

/-- A new link to a device that goes on with its script and its transcript. Bytes
left from an earlier link are gone, and what breaks does so anew. -/
def reopen (pending : Text.Bytes) (breakdown : Option Breakdown) (link : RehearsalLink) :
    RehearsalLink where
  link := { link.link with unfinished := [], input := pending }
  breakdown

/-- Adds an entry to the transcript of the device, broken or not. -/
def note (entry : String) (link : RehearsalLink) : RehearsalLink :=
  { link with link := link.link.note entry }

/-- The transcript so far, over all links that were opened. -/
def transcript (link : RehearsalLink) : List String := link.link.transcript

end RehearsalLink

/-- A bench with an output of type `ο`. The link stands by from the beginning and is renewed when it
is opened. -/
structure Bench (ο : Type) where
  link : RehearsalLink
  /-- What every new link has received before its first command. -/
  pending : Text.Bytes := []
  /-- How every new link breaks. -/
  breakdown : Option Breakdown := none
  /-- The reasons why the next attempts to connect fail, where they do. -/
  refusals : List (Option String) := []
  output : ο

namespace Bench

variable {ο α : Type}

/-- The mark of an attempt to connect. -/
def connectMark : String := "<connect>"

/-- Carries out an operation on the link and leaves the rest of the bench alone. -/
def onLink (operation : Operation RehearsalLink String α) : Operation (Bench ο) String α :=
  operation.onPart Bench.link fun bench link => { bench with link }

/-- Attempts to connect. Each attempt is in the transcript and uses up one planned refusal. -/
def connect : Operation (Bench ο) String Unit := fun bench =>
  let noted := { bench with
    link := bench.link.note connectMark
    refusals := bench.refusals.tail }
  match bench.refusals.head? with
  | some (some reason) => (.error reason, noted)
  | _ => (.ok (), { noted with link := noted.link.reopen noted.pending noted.breakdown })

instance : SynthesizerConnection (Bench ο) where
  readByte := onLink SerialLink.readByte
  write bytes := onLink (SerialLink.write bytes)
  flush := onLink SerialLink.flush
  clearInput := onLink SerialLink.clearInput
  connect := connect
  close bench := { bench with link := bench.link.note ScriptedDevice.closedMark }

end Bench

/-- What was put out, and with which clock and time limit. -/
structure Played where
  waveform : Waveform
  clockRate : Binary64
  timeout : Binary64

/-- An output that only records. It keeps the failed playbacks, too. -/
structure Recorder where
  played : Array Played := #[]
  /-- Whether the next playbacks fail. -/
  failures : List Bool := []

namespace Recorder

/-- The mark of a playback. -/
def playMark : String := "<play>"

instance : ClockedOutput (Bench Recorder) where
  play waveform clockRate timeout := fun bench =>
    let noted := { bench with
      link := bench.link.note playMark
      output := {
        played := bench.output.played.push { waveform, clockRate, timeout }
        failures := bench.output.failures.tail } }
    (if bench.output.failures.head?.getD false then .error (.timeout timeout) else .ok (), noted)

end Recorder

/-- A bench whose output is driven like a real one. -/
instance {ο : Type} [ClockedOutput ο] : ClockedOutput (Bench ο) where
  play waveform clockRate timeout :=
    (ClockedOutput.play waveform clockRate timeout).onPart Bench.output
      fun bench output => { bench with output }

end PulseProgram

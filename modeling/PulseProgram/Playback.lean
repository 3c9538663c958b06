import PulseProgram.Sequencer
import PulseProgram.Synthesizer.Programming

/-!
# Playback of compiled programs

A program is played on a setup: a clocked output that puts out the words and,
possibly, a synthesizer behind a link. The synthesizer is fully programmed before
the output starts, since the words carry its trigger pulses. The link is opened
for each program that has rows and closed again before the output starts, whether
or not programming succeeds; a program whose rows could not be loaded is not
played.

A simulation keeps the last program to be looked at.
-/

namespace PulseProgram

/-- Why a program was not played to its end, by the device that is to blame. -/
inductive PlaybackError where
  /-- The synthesizer could not be programmed. -/
  | synthesizer (cause : SynthError)
  /-- The library of the output reported an error. -/
  | daq (code : Int32) (text : String)
  /-- The output was still running when the time was up. -/
  | timeout (seconds : Binary64)
deriving DecidableEq

/-- The message of a failed playback. -/
def PlaybackError.message : PlaybackError → String
  | .synthesizer cause => "Synthesizer programming failed: " ++ cause.message
  | .daq code text => "DAQmx error " ++ toString code.toInt ++ ": " ++ text
  | .timeout seconds => "Clocked output did not finish within " ++ seconds.text ++ " s"

/-- The time allowed for playback: the programmed time rounded up to whole seconds,
and a tenth of a second to get started. -/
def playbackTimeout (runtime : Binary64) : Binary64 := runtime.ceil + 0.1

/-- A device that puts out words at a fixed rate. The call ends when the playback has. -/
class ClockedOutput (ω : Type) where
  /-- Puts out all words and waits for the end, at most `timeout` seconds. -/
  play (waveform : Waveform) (clockRate timeout : Binary64) : Operation ω PlaybackError Unit

/-- A serial link to the synthesizer that has to be opened and closed. Closing cannot fail. -/
class SynthesizerConnection (ω : Type) extends SerialLink ω where
  connect : Operation ω String Unit
  close : ω → ω

namespace Program

variable {ω : Type}

/-- The rows as the synthesizer takes them, four values each. -/
def table (program : Program) : List (List Binary64) := program.rows.map Vector.toList

/-- Puts out the words of a program, at its rate and with the time that it is allowed. -/
def putOut [ClockedOutput ω] (program : Program) : Operation ω PlaybackError Unit :=
  ClockedOutput.play program.waveform program.clockRate (playbackTimeout program.runtime)

/-- Opens the link, loads the rows of a program and closes the link again. If the link cannot be
opened it is not closed either. -/
def loadRows [SynthesizerConnection ω] (program : Program) : Operation ω SynthError Unit := do
  SynthesizerConnection.connect.withCause fun reason => .link (.failed reason)
  (Synthesizer.programTable program.table).thenAlways
    (.change SynthesizerConnection.close : Operation ω SynthError Unit)

/-- Plays a program on a setup with a synthesizer. Without rows there is nothing to load, and the
link is not touched. -/
def play [SynthesizerConnection ω] [ClockedOutput ω] (program : Program) :
    Operation ω PlaybackError Unit := do
  if program.rows.isEmpty then program.putOut
  else
    program.loadRows.withCause PlaybackError.synthesizer
    program.putOut

end Program

/-- A setup that only keeps what it is given, and only the latest of it. -/
structure Simulation where
  /-- The last program played. -/
  last : Option Program := none
  /-- How many programs were played. -/
  executions : Nat := 0

/-- Takes a program, which cannot fail. -/
def Simulation.play (program : Program) : Operation Simulation PlaybackError Unit :=
  .change fun simulation => { last := some program, executions := simulation.executions + 1 }

end PulseProgram

import PulseProgram.Synthesizer.SynthError

/-!
# Commands of the synthesizer

A command is one line of text, and the device either answers it or keeps silent.
Frequencies are given in megahertz, phases in turns and amplitudes in volts.

Entries of the table are lines of fixed columns with hexadecimal fields, the
frequency in tenths of a hertz. An entry is written for one channel at one index;
an entry with the flag `00` stops the table and one with `ff` goes on at the next
trigger.
-/

namespace PulseProgram

/-- A line for the device. Whether it is answered is part of the command, since a silent command
must not be waited for. -/
structure Command where
  text : String
  /-- Whether the device answers. -/
  answered : Bool
deriving DecidableEq

namespace Synthesizer

/-- The number of channels, which are counted from zero. -/
def channelCount : Nat := 4

/-- The highest index of the table. In the longest table the entry that stops it stands there. -/
def lastTableIndex : Nat := 0x7fff

/-- The amplitude of a channel that is not attenuated. A gain beyond it is refused. -/
def fullAmplitude : BitVec 16 := 1023#16

/-- A channel of the device. This is checked first in every command that names a channel. -/
def checkChannel (channel : Nat) : Except SynthError Unit :=
  if channel < channelCount then .ok () else .error (.invalidChannel channel)

/-- A frequency in tenths of a hertz, rounded to a whole number of them. The range is checked after
rounding. -/
def frequencyWord (megahertz : Binary64) : Except SynthError (BitVec 32) :=
  let word := (megahertz * 1e7).round
  if !word.isFinite || decide (word < 0) || decide (Binary64.ofNat 0xffffffff < word) then
    .error (.frequencyOutOfRange megahertz)
  else .ok (BitVec.ofNat 32 (word.toUnsigned 32))

/-- One entry of the table. Phase and amplitude are given as the numbers that the device takes, and
the frequency is converted when the entry is written. -/
structure TableEntry where
  channel : Nat
  index : Nat
  megahertz : Binary64
  phase : BitVec 16
  amplitude : BitVec 16
  /-- Whether the table stops here. -/
  terminal : Bool

end Synthesizer

namespace Command

open Synthesizer

/-- Hexadecimal digits, at least as many as the field is wide. A number that needs more digits makes
the field wider. -/
def hexField (width value : Nat) : String :=
  String.ofList (Binary64.padded width (Nat.toDigits 16 value))

/-- Restarts the device, which keeps silent about it. -/
def restart : Command := ⟨"R", false⟩

/-- Stops the device from sending back what it receives. -/
def echoOff : Command := ⟨"E d", false⟩

/-- Makes the present settings those that hold after power-up. -/
def save : Command := ⟨"S", true⟩

/-- Keeps or clears the phase when the frequency changes. -/
def phaseContinuous (continuous : Bool) : Command := ⟨if continuous then "M n" else "M a", true⟩

/-- Holds new values back until they are asked for, or applies them at once. -/
def simultaneousUpdate (held : Bool) : Command := ⟨if held then "I m" else "I a", true⟩

/-- Applies the values that are held back. -/
def applyUpdate : Command := ⟨"I p", true⟩

/-- Opens the table for writing. -/
def defineTable : Command := ⟨"m 0", false⟩

/-- Steps through the table from now on, one entry per trigger. -/
def runTable : Command := ⟨"m t", false⟩

/-- Asks for the status. -/
def queryStatus : String := "QUE"

/-- Sets the frequency of a channel, with six decimals of a megahertz. What is refused is a
frequency that is negative or not finite. -/
def frequency (channel : Nat) (megahertz : Binary64) : Except SynthError Command := do
  checkChannel channel
  if !megahertz.isFinite || decide (megahertz < 0) then
    .error (.frequencyOutOfRange megahertz)
  else return ⟨"F" ++ toString channel ++ " " ++ megahertz.fixedText 6, true⟩

/-- Sets the phase of a channel, in steps of which a turn has 16383. Nothing is checked but the
channel. -/
def phase (channel : Nat) (turns : Binary64) : Except SynthError Command := do
  checkChannel channel
  return ⟨"P" ++ toString channel ++ " " ++ toString (turns * 16383).round.toSigned, true⟩

/-- Sets the amplitude of a channel, in steps of which 0.51 volts have 1024. The
device would take a number out of range without complaint. -/
def gain (channel : Nat) (volts : Binary64) : Except SynthError Command := do
  checkChannel channel
  let steps := (volts / 0.51 * 1024).floor
  if decide (0 ≤ steps) && decide (steps ≤ Binary64.ofNat fullAmplitude.toNat) then
    return ⟨"V" ++ toString channel ++ " " ++ toString (steps.toUnsigned 16), true⟩
  else .error (.amplitudeOutOfRange volts)

/-- Writes an entry of the table, in lower case and with all fields at full width. The channel is
checked first, then the index, then the frequency. -/
def tableEntry (entry : TableEntry) : Except SynthError Command := do
  checkChannel entry.channel
  if lastTableIndex < entry.index then
    .error (.tableIndexOutOfRange entry.index lastTableIndex)
  else
    let word ← frequencyWord entry.megahertz
    return {
      text := "t" ++ toString entry.channel ++ " " ++ hexField 4 entry.index ++ " " ++
        hexField 8 word.toNat ++ "," ++ hexField 4 entry.phase.toNat ++ "," ++
        hexField 4 entry.amplitude.toNat ++ "," ++ (if entry.terminal then "00" else "ff")
      answered := false }

end Command

end PulseProgram

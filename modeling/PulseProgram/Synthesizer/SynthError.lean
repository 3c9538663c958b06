import PulseProgram.Binary64.Decimal
import PulseProgram.Serial.Link

/-!
# What goes wrong with the synthesizer

A setting that the device cannot take is refused before anything is sent. All
other failures are those of the link and replies that are not an acceptance.
-/

namespace PulseProgram

/-- The causes of a failure: of the link, of a reply, or of a setting that the device has no number
for. -/
inductive SynthError where
  /-- The dialogue broke off. -/
  | link (cause : LinkError)
  /-- The device did not accept a command. -/
  | unexpectedResponse (code description : String)
  | invalidChannel (channel : Nat)
  | frequencyOutOfRange (megahertz : Binary64)
  | amplitudeOutOfRange (volts : Binary64)
  | tableIndexOutOfRange (index last : Nat)
deriving DecidableEq

/-- The message of a failure. -/
def SynthError.message : SynthError → String
  | .link cause => "Serial link error: " ++ cause.message
  | .unexpectedResponse code description =>
    "Erroneous reply from device: " ++ code ++ ", " ++ description
  | .invalidChannel channel =>
    "Channel " ++ toString channel ++ " does not exist, the 409B has channels 0 to 3"
  | .frequencyOutOfRange megahertz =>
    "Frequency " ++ megahertz.text ++ " MHz does not fit a 32-bit frequency word"
  | .amplitudeOutOfRange volts => "Amplitude out of range " ++ volts.text
  | .tableIndexOutOfRange index last =>
    "Table index " ++ toString index ++ " is beyond the last table entry " ++ toString last

end PulseProgram

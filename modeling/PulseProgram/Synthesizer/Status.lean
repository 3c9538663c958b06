import PulseProgram.Text.Blank

/-!
# What the synthesizer says

Most commands are answered with `OK` or with an error code. A status query is
answered with one line for each channel and then a line for the whole device,
whose last field is the version of the firmware.
-/

namespace PulseProgram.Synthesizer

/-- The answer to a command that was carried out. -/
def acceptance : String := "OK"

/-- What an error code means. Any other reply is told to be unrecognized. -/
def describeErrorCode (code : String) : String :=
  match code with
  | "?0" => "Unrecognized Command"
  | "?1" => "Bad Frequency"
  | "?2" => "Bad AM Command"
  | "?3" => "Input line too long"
  | "?4" => "Bad Phase"
  | "?5" => "Bad Time"
  | "?6" => "Bad Mode"
  | "?7" => "Bad Amp"
  | "?8" => "Bad Constant"
  | "?f" => "Bad Byte"
  | _ => "Unrecognized reply"

/-- The digits of hexadecimal numbers, in either case. -/
def isHexDigit (char : Char) : Bool :=
  ('0' ≤ char && char ≤ '9') || ('a' ≤ char && char ≤ 'f') || ('A' ≤ char && char ≤ 'F')

/-- The form of the line for the whole device, with `x` for a hexadecimal digit. -/
def deviceLineForm : List Char := "xx xxxxxx xxxx xxxx xx".toList

/-- Whether a line has a form, character by character and to the end of both. -/
def hasForm : List Char → List Char → Bool
  | [], [] => true
  | expected :: form, char :: rest =>
    (if expected = 'x' then isHexDigit char else decide (char = expected)) && hasForm form rest
  | _, _ => false

/-- The last field of a line that has the form of the line for the whole device;
blank characters around the line do not count. -/
def versionOfLine (line : String) : Option String :=
  let chars := Text.trim line.toList
  if hasForm deviceLineForm chars then some (String.ofList (chars.drop 20)) else none

/-- The version of the firmware, from the first line of a status that tells it. -/
def firmwareVersion (status : List String) : Option String := status.findSome? versionOfLine

/-- The version that is known to work. It is compared as text. -/
def supportedFirmware : String := "21"

/-- The status lines that a device sends: four for the channels, one for the whole
device, and one that ends the reply. -/
def statusLines : Nat := 6

/-- The status of a synthesizer that is not there. -/
def simulatedStatus : List String :=
  List.replicate 4 "00989680 2000 01F5 0000 00000000 00000000 000301" ++
    ["80 BC0000 0000 0102 21"]

end PulseProgram.Synthesizer

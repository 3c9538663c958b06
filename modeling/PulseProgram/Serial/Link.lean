import PulseProgram.Operation
import PulseProgram.Text.Blank
import PulseProgram.Text.Utf8

/-!
# Serial links

A serial link carries bytes both ways and can drop what it received and nobody
read. Any of its calls may fail at any time.

A dialogue over the link goes line by line. A command is a line that ends with a
carriage return and a line feed; everything received before it is stale and is
dropped first, so a line read after a command answers that command. A reply ends
at the first line feed, its blank tail does not count, and it has at most 256
bytes before that line feed: a device that sends without end is given up.
-/

namespace PulseProgram

/-- A byte stream with a device at its other end. Every call may fail with a reason in words; that
no byte comes in time is not a failure of the call. -/
class SerialLink (σ : Type) where
  /-- The next byte received, or nothing if none comes in time. -/
  readByte : Operation σ String (Option UInt8)
  /-- Hands over bytes, all of them or none. -/
  write : Text.Bytes → Operation σ String Unit
  /-- Waits until the bytes handed over are sent. -/
  flush : Operation σ String Unit
  /-- Drops the bytes received and not yet read. -/
  clearInput : Operation σ String Unit

/-- Why a dialogue breaks off. Only a call that fails has a reason of its own. -/
inductive LinkError where
  /-- The device sends nothing. -/
  | timedOut
  /-- The reply does not end. -/
  | lineTooLong
  /-- A call of the link fails. -/
  | failed (reason : String)
deriving DecidableEq

/-- The message of a broken dialogue. -/
def LinkError.message : LinkError → String
  | .timedOut => "no reply from device"
  | .lineTooLong => "reply line too long"
  | .failed reason => reason

namespace SerialLink

variable {σ : Type} [SerialLink σ]

/-- The most bytes a reply line may have before its line feed. -/
def longestLine : Nat := 256

/-- The text of a received line without its blank tail. Bytes that are no text are replaced and do
not make the line fail. -/
def lineText (bytes : Text.Bytes) : String :=
  String.ofList (Text.trimRight (Text.decodeLossy bytes))

/-- Receives the next byte of a line of which the bytes `received` are there, the
latest first. A line feed ends the line, and `goOn` takes any other byte. -/
def receive (received : Text.Bytes) (goOn : UInt8 → Operation σ LinkError String) :
    Operation σ LinkError String := do
  match ← readByte.withCause LinkError.failed with
  | none => .check (.error .timedOut)
  | some byte => if byte = 0x0a then return lineText received.reverse else goOn byte

/-- Reads on in a line, with room left for so many bytes. The line feed needs no room, so one byte
more is read at most. -/
def readLineFrom (received : Text.Bytes) : (room : Nat) → Operation σ LinkError String
  | 0 => receive received fun _ => .check (.error .lineTooLong)
  | room + 1 => receive received fun byte => readLineFrom (byte :: received) room

/-- Reads one line. What is read is dropped if the line does not end in time or has no end. -/
def readLine : Operation σ LinkError String := readLineFrom [] longestLine

/-- Reads a number of lines, all of them or none. -/
def readLines : Nat → Operation σ LinkError (List String)
  | 0 => return []
  | count + 1 => do
    let line ← readLine
    let rest ← readLines count
    return line :: rest

/-- The bytes that send a line: its text and a carriage return with a line feed. -/
def lineBytes (line : String) : Text.Bytes := Text.encode line ++ [0x0d, 0x0a]

/-- Sends one line. What was received before is dropped first, and the line counts as sent when the
link has flushed it. -/
def writeLine (line : String) : Operation σ LinkError Unit :=
  .withCause LinkError.failed do
    clearInput
    write (lineBytes line)
    flush

end SerialLink

end PulseProgram

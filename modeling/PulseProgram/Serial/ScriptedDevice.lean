import PulseProgram.Serial.Link

/-!
# A device in memory

A scripted device stands at the other end of a link without any hardware. It
takes the bytes that are written one at a time. Each line feed completes a line,
which goes to a responder; the reply, if there is one, becomes readable input,
closed by a carriage return and a line feed. Bytes after the last line feed stay
with the device until their line is complete.

Since the device goes byte by byte, it does not matter how the bytes are cut into
writes, nor for reading how the input is cut into reads.
-/

namespace PulseProgram

/-- Something that answers lines and may remember them. Its state is all that a reply can depend on
besides the line. -/
class Responder (ρ : Type) where
  /-- The reply to a line, if there is one. -/
  respond : String → ρ → Option String × ρ

/-- A rule that always gives the same reply to the same line. -/
instance : Responder (String → Option String) where
  respond := fun line rule => (rule line, rule)

/-- A device and what passed through it. Every byte that was written is part of a line of the record
or of the unfinished line. -/
structure ScriptedDevice (ρ : Type) where
  responder : ρ
  /-- The bytes of the line that is not complete yet. -/
  unfinished : Text.Bytes := []
  /-- The bytes that were sent back and not yet read. -/
  input : Text.Bytes := []
  /-- The complete lines received and the marks between them, the latest first. -/
  record : List String := []

namespace ScriptedDevice

variable {ρ : Type}

/-- The mark left in the transcript when the link is closed. -/
def closedMark : String := "<closed>"

/-- The complete lines received and the marks between them, in order. -/
def transcript (device : ScriptedDevice ρ) : List String := device.record.reverse

/-- Adds an entry to the transcript, which need not be a line of the dialogue. -/
def note (entry : String) (device : ScriptedDevice ρ) : ScriptedDevice ρ :=
  { device with record := entry :: device.record }

/-- Queues bytes as if the device had sent them unasked, behind those that wait. -/
def push (bytes : Text.Bytes) (device : ScriptedDevice ρ) : ScriptedDevice ρ :=
  { device with input := device.input ++ bytes }

/-- Closes the link, which only leaves a mark. -/
def close (device : ScriptedDevice ρ) : ScriptedDevice ρ := device.note closedMark

/-- Drops the bytes that were sent back and not yet read. The unfinished line stays. -/
def clear (device : ScriptedDevice ρ) : ScriptedDevice ρ := { device with input := [] }

/-- Reads up to `count` bytes, fewer where fewer wait. -/
def read (count : Nat) (device : ScriptedDevice ρ) : Text.Bytes × ScriptedDevice ρ :=
  (device.input.take count, { device with input := device.input.drop count })

/-- The bytes sent back for a reply. No reply sends no bytes, while an empty one sends the end of a
line. -/
def replyBytes : Option String → Text.Bytes
  | none => []
  | some reply => SerialLink.lineBytes reply

variable [Responder ρ]

/-- Answers a complete line. The line goes into the transcript and its reply behind what waits to be
read. -/
def answer (line : String) (device : ScriptedDevice ρ) : ScriptedDevice ρ :=
  let (reply, responder) := Responder.respond line device.responder
  { responder
    unfinished := []
    input := device.input ++ replyBytes reply
    record := line :: device.record }

/-- Takes one byte. Only a line feed makes the device answer; a carriage return is a byte like
others. -/
def takeByte (device : ScriptedDevice ρ) (byte : UInt8) : ScriptedDevice ρ :=
  if byte = 0x0a then device.answer (SerialLink.lineText (device.unfinished ++ [byte]))
  else { device with unfinished := device.unfinished ++ [byte] }

/-- Takes all bytes of a write, one after the other. -/
def write (bytes : Text.Bytes) (device : ScriptedDevice ρ) : ScriptedDevice ρ :=
  bytes.foldl takeByte device

/-- Cutting a write in two changes nothing: neither the lines nor the replies depend on it. -/
theorem write_append (first last : Text.Bytes) (device : ScriptedDevice ρ) :
    device.write (first ++ last) = (device.write first).write last := by
  simp only [write, List.foldl_append]

instance : SerialLink (ScriptedDevice ρ) where
  readByte := fun device => (.ok device.input.head?, { device with input := device.input.tail })
  write bytes := .change (write bytes)
  flush := .change id
  clearInput := .change clear

end ScriptedDevice

/-- Replies written down in advance. They depend on the line and on how often it was sent before. -/
structure Script where
  /-- Replies to certain lines, used in turn; the last one is used again and
  again. -/
  replies : List (String × List (Option String)) := []
  /-- The reply to every other line. -/
  otherwise : Option String := none

namespace Script

/-- The next reply to a line and what is left of the replies. A line without
replies of its own gets the common one. -/
def next (otherwise : Option String) (line : String) :
    List (String × List (Option String)) → Option String × List (String × List (Option String))
  | [] => (otherwise, [])
  | entry :: rest =>
    if entry.1 = line then
      match entry.2 with
      | [] => (otherwise, entry :: rest)
      | [last] => (last, entry :: rest)
      | reply :: later => (reply, (entry.1, later) :: rest)
    else
      let (reply, left) := next otherwise line rest
      (reply, entry :: left)

instance : Responder Script where
  respond := fun line script =>
    let (reply, left) := next script.otherwise line script.replies
    (reply, { script with replies := left })

end Script

end PulseProgram

import PulseProgram.Serial.ScriptedDevice

/-!
# Writes and reads in pieces

A scripted device goes byte by byte. It may as well be taken as a device that keeps all bytes of
a write and then answers the complete lines among them, the first one first, until no line feed
is left; on every device that was opened and used the two are the same. So it does not matter
how a stream of bytes is cut into writes, be it inside a character or between a carriage return
and its line feed: the stream alone determines the lines that are received, the order in which
the responder is asked about them, and what waits for the rest of its line.
-/

namespace PulseProgram

/-- A responder with the lines that it was asked about. It replies as the responder does, so
whatever holds for all responders holds for logged ones as well. -/
structure Logged (ρ : Type) where
  responder : ρ
  asked : List String

instance {ρ : Type} [Responder ρ] : Responder (Logged ρ) where
  respond := fun line logged =>
    let (reply, responder) := Responder.respond line logged.responder
    (reply, ⟨responder, logged.asked ++ [line]⟩)

namespace ScriptedDevice

variable {ρ : Type}

/-! ## Using a device -/

/-- What is done to a device from outside, in any order. Closing it is left out: nothing is done to
a device after that. -/
inductive Use where
  | write (bytes : Text.Bytes)
  | read (count : Nat)
  | clear
  | push (bytes : Text.Bytes)

/-- The bytes that a use writes. -/
def Use.written : Use → Text.Bytes
  | .write bytes => bytes
  | _ => []

/-- A device to which nothing was written yet, with a transcript that may go on from earlier. -/
def opened (responder : ρ) (earlier : List String) : ScriptedDevice ρ :=
  { responder, record := earlier.reverse }

/-- The same device, which also keeps what its responder is asked. -/
def logging (asked : List String) (device : ScriptedDevice ρ) : ScriptedDevice (Logged ρ) where
  responder := ⟨device.responder, asked⟩
  unfinished := device.unfinished
  input := device.input
  record := device.record

/-- Bytes that are read in two pieces are those read at once. There may be fewer of them than were
asked for, and nothing may come between the two reads. -/
theorem read_add (first second : Nat) (device : ScriptedDevice ρ) :
    device.read (first + second) =
      ((device.read first).1 ++ ((device.read first).2.read second).1,
        ((device.read first).2.read second).2) := by
  simp [read, List.take_add, List.drop_drop]

/-! ## The lines of a stream -/

/-- Bytes cut behind each of their line feeds. A piece contains no other line feed, so there is only
one such cut. -/
structure Cut (bytes : Text.Bytes) (lines : List Text.Bytes) (tail : Text.Bytes) : Prop where
  whole : lines.flatten ++ tail = bytes
  ended : ∀ line ∈ lines, ∃ text, 0x0a ∉ text ∧ line = text ++ [0x0a]
  unended : 0x0a ∉ tail

namespace Cut

variable {bytes tail : Text.Bytes} {lines : List Text.Bytes}

/-- A line feed ends the line that waits, be it empty or not. -/
theorem lineFeed (cut : Cut bytes lines tail) :
    Cut (bytes ++ [0x0a]) (lines ++ [tail ++ [0x0a]]) [] where
  whole := by simp [← cut.whole]
  ended := by
    intro line listed
    rcases List.mem_append.mp listed with earlier | last
    · exact cut.ended line earlier
    · exact ⟨tail, cut.unended, List.mem_singleton.mp last⟩
  unended := by simp

/-- Any other byte goes into the line that waits. -/
theorem otherByte (cut : Cut bytes lines tail) {byte : UInt8} (other : byte ≠ 0x0a) :
    Cut (bytes ++ [byte]) lines (tail ++ [byte]) where
  whole := by simp [← cut.whole]
  ended := cut.ended
  unended := by simp [cut.unended, Ne.symm other]

end Cut

section Answering

variable [Responder ρ]

/-- Uses a device. -/
def use (device : ScriptedDevice ρ) : Use → ScriptedDevice ρ
  | .write bytes => device.write bytes
  | .read count => (device.read count).2
  | .clear => device.clear
  | .push bytes => device.push bytes

/-- Uses a device again and again. -/
def useAll (device : ScriptedDevice ρ) (uses : List Use) : ScriptedDevice ρ :=
  uses.foldl use device

/-! ## Lines taken as a whole -/

/-- Bytes without a line feed wait for the rest of their line. The responder is not asked, and the
bytes that wait already are left as they are. -/
theorem write_unended {bytes : Text.Bytes} (unended : 0x0a ∉ bytes) (device : ScriptedDevice ρ) :
    device.write bytes = { device with unfinished := device.unfinished ++ bytes } := by
  induction bytes generalizing device with
  | nil => simp [write]
  | cons byte bytes inductionHypothesis =>
    obtain ⟨more, unended⟩ : 0x0a ≠ byte ∧ 0x0a ∉ bytes := by simpa using unended
    have next : device.write (byte :: bytes) = (device.takeByte byte).write bytes := rfl
    rw [next, takeByte, if_neg (Ne.symm more), inductionHypothesis unended]
    simp

/-- The rest of a line completes it. What waited belongs to the line, whatever write it came
with. -/
theorem write_line {text : Text.Bytes} (unended : 0x0a ∉ text) (device : ScriptedDevice ρ) :
    device.write (text ++ [0x0a]) =
      device.answer (SerialLink.lineText (device.unfinished ++ (text ++ [0x0a]))) := by
  rw [write_append, write_unended unended]
  simp [write, takeByte, answer]

/-- The device before any of the bytes that wait came. -/
def atLineStart (device : ScriptedDevice ρ) : ScriptedDevice ρ := { device with unfinished := [] }

/-- The bytes that wait may be taken once more. A device is therefore the same as one at the start
of a line to which they are written now. -/
theorem write_atLineStart {device : ScriptedDevice ρ} (unended : 0x0a ∉ device.unfinished) :
    device.atLineStart.write device.unfinished = device := by
  rw [write_unended unended]
  rfl

/-- Answers the complete lines among the bytes that wait, the first one first, until none is left.
Every turn takes a line feed away, so there is a last one. -/
def answerComplete (device : ScriptedDevice ρ) : ScriptedDevice ρ :=
  match found : device.unfinished.findIdx? (· = 0x0a) with
  | none => device
  | some last =>
    answerComplete
      { device.answer (SerialLink.lineText (device.unfinished.take (last + 1))) with
        unfinished := device.unfinished.drop (last + 1) }
termination_by device.unfinished.length
decreasing_by
  obtain ⟨inside, -⟩ := List.findIdx?_eq_some_iff_getElem.mp found
  rw [List.length_drop]
  omega

/-- Going through the bytes that wait one at a time answers the same lines.

Proof: by induction on the turns. The bytes up to the first line feed are one line, which the device
answers when it comes to that line feed; the other bytes wait for the next turn. -/
theorem answerComplete_eq (device : ScriptedDevice ρ) :
    answerComplete device = device.atLineStart.write device.unfinished := by
  fun_induction answerComplete device with
  | case1 device found =>
    have unended : 0x0a ∉ device.unfinished := by
      intro listed
      exact absurd (List.findIdx?_eq_none_iff.mp found _ listed) (by simp)
    rw [write_atLineStart unended]
  | case2 device last found inductionHypothesis =>
    obtain ⟨inside, feed, before⟩ := List.findIdx?_eq_some_iff_getElem.mp found
    have line : device.unfinished.take (last + 1) = device.unfinished.take last ++ [0x0a] := by
      rw [List.take_succ_eq_append_getElem inside, of_decide_eq_true feed]
    have unended : 0x0a ∉ device.unfinished.take last := by
      intro listed
      obtain ⟨number, bound, same⟩ := List.mem_take_iff_getElem.mp listed
      exact before number (by omega) (decide_eq_true same)
    have answered : device.atLineStart.write (device.unfinished.take (last + 1)) =
        device.answer (SerialLink.lineText (device.unfinished.take (last + 1))) := by
      rw [line, write_line unended]
      rfl
    have split := write_append (device.unfinished.take (last + 1))
      (device.unfinished.drop (last + 1)) device.atLineStart
    rw [List.take_append_drop, answered] at split
    rw [inductionHypothesis, split]
    rfl

/-- A write is taken as a whole: its bytes are kept, and then the complete lines are answered. A
device on which a whole line waits would answer it at its next write, so that is excluded. -/
theorem write_eq_answerComplete {device : ScriptedDevice ρ} (unended : 0x0a ∉ device.unfinished)
    (bytes : Text.Bytes) : device.write bytes =
      answerComplete { device with unfinished := device.unfinished ++ bytes } := by
  have kept := write_atLineStart unended
  rw [answerComplete_eq, write_append]
  exact congrArg (write bytes) kept.symm

/-! ## What is received and asked -/

/-- All of a stream is accounted for: each line that it completes was asked about and is in the
transcript behind the earlier entries, and the rest of it waits. The logged device is the same
device, with its questions. -/
def Accounts (earlier : List String) (stream : Text.Bytes) (device : ScriptedDevice ρ)
    (logged : ScriptedDevice (Logged ρ)) : Prop :=
  ∃ lines, Cut stream lines device.unfinished ∧
    device.transcript = earlier ++ lines.map SerialLink.lineText ∧
    logged = device.logging (lines.map SerialLink.lineText)

namespace Accounts

variable {earlier : List String} {stream : Text.Bytes} {device : ScriptedDevice ρ}
  {logged : ScriptedDevice (Logged ρ)}

omit [Responder ρ] in
/-- Before anything is written, nothing is to be accounted for. -/
theorem opened (responder : ρ) (earlier : List String) :
    Accounts earlier [] (opened responder earlier)
      (ScriptedDevice.opened (⟨responder, []⟩ : Logged ρ) earlier) :=
  ⟨[], ⟨rfl, nofun, nofun⟩, by simp [ScriptedDevice.opened, transcript], rfl⟩

omit [Responder ρ] in
/-- What waits of a stream has no line feed. -/
theorem unended (accounts : Accounts earlier stream device logged) : 0x0a ∉ device.unfinished := by
  obtain ⟨lines, cut, -⟩ := accounts
  exact cut.unended

/-- A line feed completes a line, which is asked about and recorded. Any other byte waits. -/
theorem takeByte (accounts : Accounts earlier stream device logged) (byte : UInt8) :
    Accounts earlier (stream ++ [byte]) (device.takeByte byte) (logged.takeByte byte) := by
  obtain ⟨lines, cut, told, rfl⟩ := accounts
  by_cases ends : byte = 0x0a
  · subst ends
    have recorded : (device.takeByte 0x0a).transcript =
        device.transcript ++ [SerialLink.lineText (device.unfinished ++ [0x0a])] := by
      simp [ScriptedDevice.takeByte, answer, transcript]
    refine ⟨lines ++ [device.unfinished ++ [0x0a]], cut.lineFeed, ?_, ?_⟩
    · rw [recorded, told, List.append_assoc, List.map_append]
      rfl
    · rw [List.map_append]
      rfl
  · refine ⟨lines, ?_, ?_, ?_⟩
    · simpa [ScriptedDevice.takeByte, ends] using cut.otherByte ends
    · simpa [ScriptedDevice.takeByte, transcript, ends] using told
    · simp [ScriptedDevice.takeByte, logging, ends]

/-- A write goes on with the stream, byte by byte. -/
theorem write (accounts : Accounts earlier stream device logged) (bytes : Text.Bytes) :
    Accounts earlier (stream ++ bytes) (device.write bytes) (logged.write bytes) := by
  induction bytes generalizing stream device logged with
  | nil => exact (List.append_nil stream).symm ▸ accounts
  | cons byte bytes inductionHypothesis =>
    have next := inductionHypothesis (accounts.takeByte byte)
    rw [List.append_assoc] at next
    exact next

/-- Only writes go on with the stream. Reading, clearing and pushing change what there is to be read
and nothing else. -/
theorem use (accounts : Accounts earlier stream device logged) (next : Use) :
    Accounts earlier (stream ++ next.written) (device.use next) (logged.use next) := by
  cases next with
  | write bytes => exact accounts.write bytes
  | read count | clear | push bytes =>
    obtain ⟨lines, cut, told, rfl⟩ := accounts
    exact ⟨lines, (List.append_nil stream).symm ▸ cut, told, rfl⟩

/-- Used again and again, a device has accounted for all bytes that were written to it. -/
theorem useAll (accounts : Accounts earlier stream device logged) (uses : List Use) :
    Accounts earlier (stream ++ uses.flatMap Use.written) (device.useAll uses)
      (logged.useAll uses) := by
  induction uses generalizing stream device logged with
  | nil => exact (List.append_nil stream).symm ▸ accounts
  | cons next uses inductionHypothesis =>
    rw [List.flatMap_cons, ← List.append_assoc]
    exact inductionHypothesis (accounts.use next)

end Accounts

/-! ## Pieces -/

/-- Bytes that are written in pieces are as good as written at once. Pieces may be empty, and a cut
may go through a character or through the end of a line. -/
theorem useAll_writes (pieces : List Text.Bytes) (device : ScriptedDevice ρ) :
    device.useAll (pieces.map .write) = device.write pieces.flatten := by
  induction pieces generalizing device with
  | nil => rfl
  | cons piece pieces inductionHypothesis =>
    calc device.useAll ((piece :: pieces).map .write)
        = (device.write piece).useAll (pieces.map .write) := rfl
      _ = (device.write piece).write pieces.flatten := inductionHypothesis _
      _ = device.write (piece :: pieces).flatten := by rw [List.flatten_cons, write_append]

/-- How a device that was opened and used since then takes what comes next, and what it has of
all that was written. -/
structure Seamless (responder : ρ) (earlier : List String) (uses : List Use)
    (device : ScriptedDevice ρ) : Prop where
  /-- Bytes written in pieces leave the device that they leave if written at once, and the
  responder is asked the same. -/
  writes : ∀ pieces : List Text.Bytes,
    device.useAll (pieces.map .write) = device.write pieces.flatten ∧
      ∀ asked, (device.logging asked).useAll (pieces.map .write) =
        (device.logging asked).write pieces.flatten
  /-- A write keeps all its bytes and answers the complete lines then, until none is left. -/
  whole : ∀ bytes, device.write bytes =
    answerComplete { device with unfinished := device.unfinished ++ bytes }
  /-- No line feed waits after a write. -/
  unended : ∀ bytes, 0x0a ∉ (device.write bytes).unfinished
  /-- Of the bytes written since the device was opened, each piece up to a line feed gave one
  entry of the transcript and one question to the responder, in order, and the rest waits. -/
  lines : ∃ lines, Cut (uses.flatMap Use.written) lines device.unfinished ∧
    device.transcript = earlier ++ lines.map SerialLink.lineText ∧
    (opened (⟨responder, []⟩ : Logged ρ) earlier).useAll uses =
      device.logging (lines.map SerialLink.lineText)
  /-- Two reads give the bytes that one read of both sizes gives, and leave the same device. -/
  reads : ∀ first second, device.read (first + second) =
    ((device.read first).1 ++ ((device.read first).2.read second).1,
      ((device.read first).2.read second).2)

/-- However a device was used, it does not notice into what pieces a stream is cut. Nothing is
assumed of the responder, which may remember all that it was asked, or of the bytes, which need not
be text.

Proof: what was written since the device was opened is accounted for, by induction on the uses, so
no line feed waits. A write may then be taken as a whole, and pieces of it one after the other. -/
theorem pieces_unnoticed (responder : ρ) (earlier : List String) (uses : List Use) :
    Seamless responder earlier uses ((opened responder earlier).useAll uses) := by
  have accounts : Accounts earlier (uses.flatMap Use.written)
      ((opened responder earlier).useAll uses)
      ((opened (⟨responder, []⟩ : Logged ρ) earlier).useAll uses) :=
    (Accounts.opened responder earlier).useAll uses
  exact {
    writes := fun pieces => ⟨useAll_writes pieces _, fun asked => useAll_writes pieces _⟩
    whole := write_eq_answerComplete accounts.unended
    unended := fun bytes => (accounts.write bytes).unended
    lines := accounts
    reads := fun first second => read_add first second _ }

end Answering

end ScriptedDevice

end PulseProgram

import PulseProgram.Channel
import PulseProgram.Word

/-!
# Digital words

A digital update sets all three line boards: one payload per board, made of
the identifier of the board and the states of its sixteen lines. Lines that are
not listed are low, lines beyond the last board are left out, and a line listed
more than once is high if any entry says so.
-/

namespace PulseProgram.Word

/-- The identifier bits of each line board, in the order of the boards. They descend, and none of
them is zero. -/
def lineBoardId : List Word := [0x30000#32, 0x20000#32, 0x10000#32]

/-- The bits of the board identifier, right above those of the lines. -/
def lineBoardMask : Word := 0x30000#32

/-- Words put out for a digital update, whatever the number of lines: a pair for each board. -/
def digitalWords : Nat := 2 * Channel.lineBoards

/-- The bit of a line within its board. Lines of different boards share their bits. -/
def lineBit (address : Nat) : Word := 1#32 <<< (address % Channel.linesPerBoard)

/-- The payload of one board: its identifier and the bits of its high lines. Entries for other
boards and entries that are low make no difference. -/
def boardPayload (board : Nat) (id : Word) (lines : List (Nat × Bool)) : Word :=
  lines.foldl
    (fun payload line =>
      if line.1 / Channel.linesPerBoard = board && line.2 then payload ||| lineBit line.1
      else payload)
    id

/-- The latch pairs of the three boards in the order they are put out, for every list of lines. -/
def encodeBoards (lines : List (Nat × Bool)) : List LatchPair :=
  lineBoardId.mapIdx fun board id => LatchPair.of (boardPayload board id lines)

/-- The six words that put the listed lines on the boards. -/
def encodeDigital (lines : List (Nat × Bool)) : List Word :=
  (encodeBoards lines).flatMap LatchPair.words

/-- The high lines of one word, whatever its flags; none if the identifier belongs to no board. They
are told by their addresses among all lines. -/
def highLines (word : Word) : List Nat :=
  match lineBoardId.findIdx? (· = word &&& lineBoardMask) with
  | none => []
  | some board =>
    ((List.range Channel.linesPerBoard).filter fun line => word.carries (lineBit line)).map
      (board * Channel.linesPerBoard + ·)

/-- The addresses of the high lines in ascending order, each once. Words are
matched to boards by their identifiers, so both words of a pair may be given. -/
def decodeDigital (words : List Word) : List Nat :=
  (List.range (Channel.lineBoards * Channel.linesPerBoard)).filter fun address =>
    words.any fun word => decide (address ∈ highLines word)

end PulseProgram.Word

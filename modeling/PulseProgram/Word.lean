/-!
# Output words

One word is put out per clock step.

| bits  | meaning                                                                  |
|-------|--------------------------------------------------------------------------|
| 31    | strobe: the boards latch the payload while it is set                     |
| 30    | epoch trigger, set at the boundary of every update                       |
| 28    | synthesizer trigger, held before the boundary of an update with a row    |
| 20-23 | converter board select                                                   |
| 16-18 | analog channel within the board                                          |
| 16-17 | line board identifier                                                    |
| 0-15  | analog code, or the states of sixteen lines                              |

A payload is put out twice, first with the strobe and then without, which makes
one latch pulse. The trigger bits are laid over words independently of their
payload.
-/

namespace PulseProgram

/-- One clock step of the output, with the bits of the table above. -/
abbrev Word := BitVec 32

namespace Word

/-- The boards latch while this bit is set. -/
def strobe : Word := 0x80000000#32

/-- Marks the boundary of an update, at the very step of the boundary. -/
def epochTrigger : Word := 0x40000000#32

/-- Steps the synthesizer to its next row on a rising edge. It is raised over the steps of a pulse,
which may have payloads in them. -/
def synthTrigger : Word := 0x10000000#32

/-- The bits that are not payload: strobe and triggers. -/
def flagMask : Word := strobe ||| epochTrigger ||| synthTrigger

/-- Whether any bit of the flag is set. For a flag of one bit this is the bit. -/
def carries (word flag : Word) : Bool := word &&& flag != 0#32

/-- Whether the boards latch this word. -/
def isStrobed (word : Word) : Bool := word.carries strobe

/-- The word without its flags: which board and channel it is for, and what it gives to them. -/
def payload (word : Word) : Word := word &&& ~~~flagMask

end Word

/-- A payload as it is put out: with the strobe, then without. -/
structure LatchPair where
  strobed : Word
  plain : Word
deriving DecidableEq

namespace LatchPair

/-- The pair that latches a payload. The two words differ in the strobe only, as a payload does not
have it. -/
def of (payload : Word) : LatchPair := ⟨payload ||| Word.strobe, payload⟩

/-- The two words in the order they are put out. -/
def words (pair : LatchPair) : List Word := [pair.strobed, pair.plain]

end LatchPair

end PulseProgram

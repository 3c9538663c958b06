import PulseProgram.CompileError
import PulseProgram.Word

/-!
# Analog words

A voltage between -10 and 10 is scaled onto a 16-bit code, dropping the fraction.
The payload holds the code, the channel within its board and the select bits of
the board. Values outside the range, and undefined ones, have no code; they are
rejected and never clamped.
-/

namespace PulseProgram.Word

/-- The lowest voltage. -/
def analogMin : Binary64 := -10

/-- The highest voltage. -/
def analogMax : Binary64 := 10

/-- The highest code, which stands for the highest voltage. -/
def analogFullScale : Binary64 := 65535

/-- The voltage between neighbouring codes, rounded to a double. -/
def analogStep : Binary64 := (analogMax - analogMin) / analogFullScale

/-- The bits of the code, the lowest sixteen. -/
def analogCodeMask : Word := 0xffff#32

/-- The bits of the channel within its board, right above those of the code. -/
def analogChannelMask : Word := 0x70000#32

/-- The bits of the board select. With the bits of code and channel they make up the payload. -/
def analogBoardMask : Word := 0xf00000#32

/-- The select bits of each converter board, in the order of the boards. They are different for all
of them. -/
def analogBoardSelect : List Word := [0x900000#32, 0x100000#32, 0xe00000#32, 0x600000#32]

/-- Words put out for one analog value: its payload with the strobe and without. -/
def analogWords : Nat := 2

/-- The code of a voltage, before it is cut to its field. The three operations round one after the
other, and the fraction is dropped at the end. -/
def analogCode (value : Binary64) : Nat :=
  ((value - analogMin) * analogFullScale / (analogMax - analogMin)).toUnsigned 32

/-- The payload for a code on an analog channel. The three parts lie in bits of their own, so their
sum is their union. -/
def analogPayload (address : Nat) (code : Word) : Word :=
  (code &&& analogCodeMask) +
    (analogBoardSelect[address / Channel.analogPerBoard]?).getD 0#32 +
    (BitVec.ofNat 32 (address % Channel.analogPerBoard)) * 0x10000#32

/-- The pair of words that puts a voltage on an analog channel. The address is
checked before the value. -/
def encodeAnalog (address : Nat) (value : Binary64) : Except CompileError LatchPair :=
  if Channel.analogCount ≤ address then
    .error (.invalidAddress ("#" ++ toString address) .analog address Channel.analogCount)
  else if !value.isFinite || decide (value < analogMin) || decide (analogMax < value) then
    .error (.analogOutOfRange ("#" ++ toString address) value analogMin analogMax)
  else .ok (LatchPair.of (analogPayload address (BitVec.ofNat 32 (analogCode value))))

/-- The address and voltage of an analog word, whatever its flags; none if the select bits belong to
no converter board. The voltage is that of the code and not the one that was encoded. -/
def decodeAnalog (word : Word) : Option (Nat × Binary64) :=
  (analogBoardSelect.findIdx? (· = word &&& analogBoardMask)).map fun board =>
    (board * Channel.analogPerBoard + ((word &&& analogChannelMask) >>> 16).toNat,
      Binary64.ofNat (word &&& analogCodeMask).toNat * analogStep + analogMin)

end PulseProgram.Word

import PulseProgram.ChannelMap
import PulseProgram.SynthTable
import PulseProgram.Word.Analog
import PulseProgram.Word.Digital

/-!
# Updates

An update names channels that change together and says for how long the new state
holds. Resolving an update finds the addresses of its names and encodes its
values. The lists are gone through in the order analog, digital, synthesizer, and
the first entry that does not fit rejects the update: a name given before, a name
that is not registered or of another kind, a value without a code.
-/

namespace PulseProgram

/-- Changes that take effect together, and how long they hold, in seconds. The lists are in the
order that the caller gave them. -/
structure Update where
  duration : Binary64
  analog : List (String × Binary64) := []
  digital : List (String × Bool) := []
  synth : List (String × Binary64) := []
deriving DecidableEq

/-- An update with its names resolved and its values encoded. The duration is not part of it. -/
structure ResolvedUpdate where
  /-- One pair per analog entry, in the order given. -/
  analog : List LatchPair
  /-- The words of the line boards, if any line is named. -/
  digital : Option (List Word)
  /-- The values of the next row, if any synthesizer channel is named. -/
  synth : Option SynthUpdate

namespace ResolvedUpdate

/-- The latch words in blocks from the boundary down: the line boards, and then the analog pairs in
the order given. -/
def latchBlocks (resolved : ResolvedUpdate) : List (List Word) :=
  resolved.digital.toList ++ resolved.analog.map LatchPair.words

/-- The number of latch words, which are those of all blocks together. -/
def latchLength (resolved : ResolvedUpdate) : Nat :=
  Word.analogWords * resolved.analog.length +
    (if resolved.digital.isSome then Word.digitalWords else 0)

end ResolvedUpdate

namespace Update

/-- Goes through named entries, refusing a name that was seen before. The names seen are handed on,
so that one list can go on where another has ended. -/
def resolveEntries {α σ : Type} (enter : σ → String → α → Except Fault σ) :
    σ → List String → List (String × α) → Except Fault (σ × List String)
  | entered, seen, [] => .ok (entered, seen)
  | entered, seen, (name, value) :: rest =>
    if name ∈ seen then .error (.rejected (.duplicateChannel name))
    else do
      let next ← enter entered name value
      resolveEntries enter next (name :: seen) rest

/-- Encodes the value of an analog channel. A value that is out of range is told of the name and not
of the address. -/
def enterAnalog (map : ChannelMap) (pairs : List LatchPair) (name : String)
    (value : Binary64) : Except Fault (List LatchPair) := do
  let address ← rejecting (map.resolve name .analog)
  let pair ← rejecting ((Word.encodeAnalog address value).mapError (·.forChannel name))
  return pairs ++ [pair]

/-- Finds the line of a digital channel. Its state needs no check. -/
def enterDigital (map : ChannelMap) (lines : List (Nat × Bool)) (name : String)
    (high : Bool) : Except Fault (List (Nat × Bool)) := do
  let address ← rejecting (map.resolve name .digital)
  return lines ++ [(address, high)]

/-- Finds the place of a synthesizer channel in the row. A place that is taken counts as the name
given twice, although it can be another name for it. -/
def enterSynth (map : ChannelMap) (row : SynthUpdate) (name : String)
    (value : Binary64) : Except Fault SynthUpdate := do
  let address ← rejecting (map.resolve name .synth)
  if inside : address < 4 then
    if row[address].isSome then .error (.rejected (.duplicateChannel name))
    else return row.set address (some value)
  else .error .outOfBounds

/-- Resolves all names and encodes all values. A list without entries leaves its part out, so that
an update without digital names has no words for the line boards and one without synthesizer names
has no row. -/
def resolve (map : ChannelMap) (update : Update) : Except Fault ResolvedUpdate := do
  let (pairs, seen) ← resolveEntries (enterAnalog map) [] [] update.analog
  let (lines, seen) ← resolveEntries (enterDigital map) [] seen update.digital
  let (row, _) ← resolveEntries (enterSynth map) (Vector.replicate 4 none) seen update.synth
  return {
    analog := pairs
    digital := if update.digital.isEmpty then none else some (Word.encodeDigital lines)
    synth := if update.synth.isEmpty then none else some row }

end Update

end PulseProgram

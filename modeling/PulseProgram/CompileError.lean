import PulseProgram.Binary64.Decimal
import PulseProgram.Channel
import PulseProgram.Span
import PulseProgram.Text.Quoted

/-!
# Why an update or a registration is rejected

Each cause carries what its message tells. A rejection is always a mistake of the
caller; it changes nothing and nothing is retried.
-/

namespace PulseProgram

/-- The causes of a rejection, each with what its message tells of the update, the name or the
channel. -/
inductive CompileError where
  /-- The update spans less than one clock tick. -/
  | durationTooShort (duration ticks clockRate : Binary64)
  /-- A latch word would fall on a word that is already written. -/
  | writeCollision (step : Nat) (region : Span)
  /-- The trigger pulse would overlap the pulse of an earlier row. -/
  | synthTriggerCollision (window : Span)
  /-- The value has no code. -/
  | analogOutOfRange (channel : String) (value low high : Binary64)
  /-- The words before the step would begin before the timeline does. -/
  | regionUnderflow (step length : Nat)
  /-- The step lies behind the end of the timeline. -/
  | bufferOverflow (step capacity : Nat)
  /-- No row is left. -/
  | synthTableFull (capacity : Nat)
  /-- No channel has this name. -/
  | unknownChannel (name : String) (registered : List String)
  /-- The channel is of another kind than the list it is given in. -/
  | channelKindMismatch (name : String) (expected actual : ChannelKind)
  /-- One update names the channel twice. -/
  | duplicateChannel (name : String)
  /-- The name is not an identifier. -/
  | invalidChannelName (name : String)
  /-- The name is taken. -/
  | channelAlreadyRegistered (name : String)
  /-- The address is taken by a channel of the same kind. -/
  | addressAlreadyRegistered (name : String) (kind : ChannelKind) (address : Nat) (owner : String)
  /-- The address is beyond the outputs of the kind. -/
  | invalidAddress (name : String) (kind : ChannelKind) (address limit : Nat)
  /-- The clock does not run. -/
  | invalidClockRate (rate : Binary64)
deriving DecidableEq

/-- The message of a rejection. -/
def CompileError.message : CompileError → String
  | .durationTooShort duration ticks clockRate =>
    "Update duration " ++ duration.text ++ " s spans " ++ ticks.text ++ " ticks at " ++
      clockRate.text ++ " Hz, at least 1 is required"
  | .writeCollision step region =>
    "Update at step " ++ toString step ++ " would overwrite already written words in " ++
      region.text
  | .synthTriggerCollision window =>
    "Synthesizer trigger window " ++ window.text ++
      " already carries a trigger from a previous row"
  | .analogOutOfRange channel value low high =>
    "Value " ++ value.text ++ " for analog channel " ++ channel ++ " is outside [" ++
      low.text ++ ", " ++ high.text ++ "]"
  | .regionUnderflow step length =>
    "Region of " ++ toString length ++ " words ending at step " ++ toString step ++
      " starts before the beginning of the timeline"
  | .bufferOverflow step capacity =>
    "Step " ++ toString step ++ " lies beyond the timeline capacity of " ++
      toString capacity ++ " words"
  | .synthTableFull capacity =>
    "Synthesizer table is full (" ++ toString capacity ++ " rows)"
  | .unknownChannel name registered =>
    "Channel " ++ name ++ " is not registered. Registered channels are " ++
      Text.quotedList registered
  | .channelKindMismatch name expected actual =>
    "Channel " ++ name ++ " is a " ++ actual.text ++ " channel, not a " ++ expected.text ++
      " channel"
  | .duplicateChannel name =>
    "Channel " ++ name ++ " appears more than once in the same update"
  | .invalidChannelName name =>
    "Channel name " ++ Text.quoted name ++ " is not a valid identifier"
  | .channelAlreadyRegistered name => "Channel " ++ name ++ " already registered"
  | .addressAlreadyRegistered name kind address owner =>
    "Cannot register " ++ kind.text ++ " channel " ++ name ++ " at address " ++
      toString address ++ ", already taken by " ++ owner
  | .invalidAddress name kind address limit =>
    "Address " ++ toString address ++ " is invalid for " ++ kind.text ++ " channel " ++ name ++
      " (expected < " ++ toString limit ++ ")"
  | .invalidClockRate rate =>
    "Clock rate " ++ rate.text ++ " Hz must be finite and positive"

/-- The rejection of an analog value, told of the channel with this name. Other rejections stay as
they are. -/
def CompileError.forChannel (name : String) : CompileError → CompileError
  | .analogOutOfRange _ value low high => .analogOutOfRange name value low high
  | other => other

/-- How an operation on a timeline or a table ends when it does not succeed: with
a rejection, with a place outside the timeline or the table, or with one that would
be too large to be stored. -/
inductive Fault where
  | rejected (cause : CompileError)
  | outOfBounds
  | tooLarge
deriving DecidableEq

/-- A check whose failure is a rejection. -/
def rejecting {α : Type} : Except CompileError α → Except Fault α
  | .ok value => .ok value
  | .error cause => .error (.rejected cause)

/-- An access whose failure is a place out of bounds. -/
def inBounds {α : Type} : Option α → Except Fault α
  | some value => .ok value
  | none => .error .outOfBounds

/-- A creation whose failure is a size that cannot be stored. -/
def storable {α : Type} : Option α → Except Fault α
  | some value => .ok value
  | none => .error .tooLarge

end PulseProgram

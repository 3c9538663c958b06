import PulseProgram.Proofs.Outcome
import PulseProgram.Update

/-!
# What resolving can be refused for

Resolving looks at names and values only. So it is refused for a name or for a value, and never
for anything that depends on the time of the update or on the updates before.
-/

namespace PulseProgram

/-- Whether a fault is about the name or the value of an entry. An access without a place is counted
among these, as resolving might make one at the place of a synthesizer entry. -/
def Fault.concernsEntry : Fault → Bool
  | .rejected (.analogOutOfRange ..) => true
  | .rejected (.unknownChannel ..) => true
  | .rejected (.channelKindMismatch ..) => true
  | .rejected (.duplicateChannel _) => true
  | .rejected (.invalidAddress ..) => true
  | .outOfBounds => true
  | _ => false

/-- If an outcome is a fault, the fault is about an entry. -/
def RefusesEntry {α : Type} (outcome : Except Fault α) : Prop :=
  ∀ fault, outcome = .error fault → fault.concernsEntry = true

namespace RefusesEntry

variable {α β σ : Type}

/-- A success is no fault. -/
theorem ok (value : α) : RefusesEntry (.ok value) := by
  intro fault impossible
  contradiction

/-- A fault about an entry is about an entry, whatever result it stands in place of. -/
theorem error {fault : Fault} (concerns : fault.concernsEntry = true) :
    RefusesEntry (.error fault : Except Fault α) := by
  intro other same
  obtain rfl := Except.error.inj same
  exact concerns

/-- A chain refuses entries if its parts do. The later part is asked for all values, also those that
the first one never gives. -/
theorem bind {first : Except Fault α} {next : α → Except Fault β} (refuses : RefusesEntry first)
    (others : ∀ value, RefusesEntry (next value)) : RefusesEntry (first >>= next) := by
  cases first with
  | ok value => exact others value
  | error fault => exact error (refuses fault rfl)

/-- A name is refused if it is not registered or of another kind. -/
theorem resolve (map : ChannelMap) (name : String) (kind : ChannelKind) :
    RefusesEntry (rejecting (map.resolve name kind)) := by
  unfold ChannelMap.resolve ChannelMap.channel
  split
  · exact error rfl
  · split
    · exact ok _
    · exact error rfl

/-- A value is refused if its address or the value itself is out of range. -/
theorem encodeAnalog (address : Nat) (value : Binary64) (name : String) :
    RefusesEntry
      (rejecting ((Word.encodeAnalog address value).mapError (·.forChannel name))) := by
  unfold Word.encodeAnalog
  split
  · exact error rfl
  · split
    · exact error rfl
    · exact ok _

/-- Going through entries refuses an entry if entering one does, or for its name. A name that comes
twice is one more reason. -/
theorem resolveEntries {enter : σ → String → α → Except Fault σ}
    (refuses : ∀ entered name value, RefusesEntry (enter entered name value))
    (entered : σ) (seen : List String) (entries : List (String × α)) :
    RefusesEntry (Update.resolveEntries enter entered seen entries) := by
  induction entries generalizing entered seen with
  | nil => exact ok _
  | cons entry rest inductionHypothesis =>
    obtain ⟨name, value⟩ := entry
    rw [Update.resolveEntries]
    split
    · exact error rfl
    · exact (refuses entered name value).bind fun next => inductionHypothesis next _

end RefusesEntry

/-- Resolving an update refuses entries only. So a fault about time or room tells that all names and
values were right. -/
theorem Update.resolve_refuses (map : ChannelMap) (update : Update) :
    RefusesEntry (update.resolve map) := by
  have analog (pairs : List LatchPair) (name : String) (value : Binary64) :
      RefusesEntry (enterAnalog map pairs name value) :=
    (RefusesEntry.resolve map name .analog).bind fun address =>
      (RefusesEntry.encodeAnalog address value name).bind fun _ => .ok _
  have digital (lines : List (Nat × Bool)) (name : String) (high : Bool) :
      RefusesEntry (enterDigital map lines name high) :=
    (RefusesEntry.resolve map name .digital).bind fun _ => .ok _
  have synth (row : SynthUpdate) (name : String) (value : Binary64) :
      RefusesEntry (enterSynth map row name value) := by
    refine (RefusesEntry.resolve map name .synth).bind fun address => ?_
    split
    · split
      · exact .error rfl
      · exact .ok _
    · exact .error rfl
  refine (RefusesEntry.resolveEntries analog _ _ _).bind fun _ => ?_
  refine (RefusesEntry.resolveEntries digital _ _ _).bind fun _ => ?_
  exact (RefusesEntry.resolveEntries synth _ _ _).bind fun _ => .ok _

end PulseProgram

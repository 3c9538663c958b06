import Mathlib.Data.List.Forall2
import PulseProgram.Proofs.ChannelMap.Registration
import PulseProgram.Proofs.Update.Names
import PulseProgram.Proofs.Word.Voltage

/-!
# Which entry an update is refused for

The entries of an update are looked at in the order analog, digital, synthesizer. Of each it is
asked whether its name was given before, then whether the name is registered, then whether it is
of the kind of its list, and of an analog entry at last whether its value is a voltage. On a built
map the first complaint is what resolving ends with, and without a complaint it succeeds. No other
check can fail there: the address of an analog channel has a code, and a synthesizer channel that
is named for the first time has a place in the row, which is free.
-/

namespace PulseProgram

instance (value : Binary64) : Decidable (Word.IsVoltage value) :=
  decidable_of_iff _ (Word.check_iff value)

/-! ## Outcomes and complaints -/

section Answers

variable {α β : Type}

/-- An outcome is the rejection complained of, or without a complaint a success of which something
holds. So it says what the outcome is in every case, failures included. -/
def Answers (complaint : Option CompileError) (outcome : Except Fault α) (holds : α → Prop) :
    Prop :=
  match complaint with
  | some cause => outcome = .error (.rejected cause)
  | none => ∃ value, outcome = .ok value ∧ holds value

namespace Answers

/-- Without a complaint a success answers, if what is asked of it holds. -/
theorem ok {holds : α → Prop} {value : α} (held : holds value) :
    Answers none (.ok value) holds := ⟨value, rfl, held⟩

/-- A complaint is answered by its rejection. -/
theorem rejected {holds : α → Prop} (cause : CompileError) :
    Answers (some cause) (.error (.rejected cause)) holds := rfl

/-- Of a chain the first complaint counts. The later part is looked at only if the first one gives
no complaint, and for the value that came of it. -/
theorem bind {complaint later : Option CompileError} {first : Except Fault α}
    {next : α → Except Fault β} {between : α → Prop} {holds : β → Prop}
    (answers : Answers complaint first between)
    (goesOn : ∀ value, between value → Answers later (next value) holds) :
    Answers (complaint.or later) (first >>= next) holds := by
  cases complaint with
  | some cause =>
    obtain rfl : first = .error (.rejected cause) := answers
    exact rejected cause
  | none =>
    obtain ⟨value, rfl, held⟩ := answers
    exact goesOn value held

/-- What is asked of a success holds of it. -/
theorem of_ok {complaint : Option CompileError} {outcome : Except Fault α} {holds : α → Prop}
    {value : α} (answers : Answers complaint outcome holds) (succeeds : outcome = .ok value) :
    holds value := by
  subst succeeds
  cases complaint with
  | some cause => exact nomatch answers
  | none =>
    obtain ⟨other, same, held⟩ := answers
    obtain rfl := Except.ok.inj same
    exact held

/-- An outcome is a fault exactly if there is a complaint, and then it is that rejection. -/
theorem error_iff {complaint : Option CompileError} {outcome : Except Fault α} {holds : α → Prop}
    (answers : Answers complaint outcome holds) (fault : Fault) :
    outcome = .error fault ↔ ∃ cause, complaint = some cause ∧ fault = .rejected cause := by
  cases complaint with
  | some cause =>
    obtain rfl : outcome = .error (.rejected cause) := answers
    simp [eq_comm]
  | none =>
    obtain ⟨value, rfl, -⟩ := answers
    simp

/-- An outcome is a success exactly if there is no complaint. So complaints decide it alone. -/
theorem ok_iff {complaint : Option CompileError} {outcome : Except Fault α} {holds : α → Prop}
    (answers : Answers complaint outcome holds) :
    (∃ value, outcome = .ok value) ↔ complaint = none := by
  cases complaint with
  | some cause =>
    obtain rfl : outcome = .error (.rejected cause) := answers
    simp
  | none =>
    obtain ⟨value, rfl, -⟩ := answers
    simp

end Answers

end Answers

namespace Update

/-! ## Complaints about entries -/

/-- An entry as it is looked at: its name, the kind of its list, and its value if it is analog. -/
structure Entry where
  name : String
  kind : ChannelKind
  voltage : Option Binary64

/-- An entry of the analog list, which has a value to be looked at. -/
def analogEntry (entry : String × Binary64) : Entry := ⟨entry.1, .analog, some entry.2⟩

/-- An entry of the digital list. Its state cannot be out of range. -/
def digitalEntry (entry : String × Bool) : Entry := ⟨entry.1, .digital, none⟩

/-- An entry of the synthesizer list. Its value is not looked at when the update is resolved. -/
def synthEntry (entry : String × Binary64) : Entry := ⟨entry.1, .synth, none⟩

/-- All entries in the order in which they are looked at. -/
def entries (update : Update) : List Entry :=
  update.analog.map analogEntry ++
    (update.digital.map digitalEntry ++ update.synth.map synthEntry)

/-- The complaint about a name that is not registered, or not as a channel of the kind. -/
def nameComplaint? (map : ChannelMap) (name : String) (kind : ChannelKind) :
    Option CompileError :=
  match map.get? name with
  | none => some (.unknownChannel name map.names)
  | some found =>
    if found.kind = kind then none else some (.channelKindMismatch name kind found.kind)

/-- The complaint about a value that is no voltage. -/
def valueComplaint? (name : String) (value : Binary64) : Option CompileError :=
  if Word.IsVoltage value then none
  else some (.analogOutOfRange name value Word.analogMin Word.analogMax)

/-- The complaint about an entry whose name was not given before. -/
def Entry.complaint? (map : ChannelMap) (entry : Entry) : Option CompileError :=
  (nameComplaint? map entry.name entry.kind).or (entry.voltage.bind (valueComplaint? entry.name))

/-- The first complaint about entries, of which some names were given before. It makes no use of
what resolving does. -/
def firstComplaint? (map : ChannelMap) : (given : List String) → List Entry → Option CompileError
  | _, [] => none
  | given, entry :: rest =>
    if entry.name ∈ given then some (.duplicateChannel entry.name)
    else (entry.complaint? map).or (firstComplaint? map (entry.name :: given) rest)

/-- Of entries after others the names of those others were given before. So the lists of an update
may be gone through one by one. -/
theorem firstComplaint?_append (map : ChannelMap) (given : List String)
    (first last : List Entry) :
    firstComplaint? map given (first ++ last) =
      (firstComplaint? map given first).or
        (firstComplaint? map ((first.map (·.name)).reverse ++ given) last) := by
  induction first generalizing given with
  | nil => rfl
  | cons entry rest inductionHypothesis =>
    rw [List.cons_append, firstComplaint?, firstComplaint?]
    split
    · rfl
    · rw [inductionHypothesis, Option.or_assoc, List.map_cons, List.reverse_cons,
        List.append_assoc, List.singleton_append]

variable {map : ChannelMap}

/-- There is no complaint about a name exactly if it is registered as a channel of the kind. A name
stands for one channel, so its kind is told by it. -/
theorem nameComplaint?_eq_none_iff (wellFormed : ChannelMap.WellFormed map.channels)
    {name : String} {kind : ChannelKind} : nameComplaint? map name kind = none ↔
      ∃ address, ⟨name, kind, address⟩ ∈ map.channels := by
  unfold nameComplaint?
  constructor
  · intro none
    split at none
    · contradiction
    next found known =>
      split at none
      next same =>
        obtain ⟨held, rfl⟩ := wellFormed.get?_eq_some_iff.mp known
        obtain rfl := same
        exact ⟨found.address, held⟩
      · contradiction
  · rintro ⟨address, held⟩
    rw [wellFormed.get?_eq_some_iff.mpr ⟨held, rfl⟩]
    simp

/-- Entries give no complaint exactly if no name comes twice, each is registered as a channel of the
kind, and each analog value is a voltage. The order of the entries does not matter for that. -/
theorem firstComplaint?_eq_none_iff (wellFormed : ChannelMap.WellFormed map.channels)
    (given : List String) (entries : List Entry) :
    firstComplaint? map given entries = none ↔
      (entries.map (·.name)).Nodup ∧ (∀ entry ∈ entries, entry.name ∉ given) ∧
        ∀ entry ∈ entries, (∃ address, ⟨entry.name, entry.kind, address⟩ ∈ map.channels) ∧
          ∀ value, entry.voltage = some value → Word.IsVoltage value := by
  induction entries generalizing given with
  | nil => simp [firstComplaint?]
  | cons entry rest inductionHypothesis =>
    have value : entry.voltage.bind (valueComplaint? entry.name) = none ↔
        ∀ value, entry.voltage = some value → Word.IsVoltage value := by
      cases entry.voltage <;> simp [valueComplaint?]
    rw [firstComplaint?, List.map_cons, List.nodup_cons, List.forall_mem_cons,
      List.forall_mem_cons]
    by_cases again : entry.name ∈ given
    · simp [again]
    · rw [if_neg again, Option.or_eq_none_iff, Entry.complaint?, Option.or_eq_none_iff,
        nameComplaint?_eq_none_iff wellFormed, value, inductionHypothesis]
      simp only [List.mem_cons, not_or, List.mem_map, not_exists, not_and]
      constructor
      · rintro ⟨own, distinct, fresh, others⟩
        exact ⟨⟨fun other listed => (fresh other listed).1, distinct⟩,
          ⟨again, fun other listed => (fresh other listed).2⟩, own, others⟩
      · rintro ⟨⟨once, distinct⟩, ⟨-, fresh⟩, own, others⟩
        exact ⟨own, distinct, fun other listed => ⟨once other listed, fresh other listed⟩, others⟩

/-! ## Entering the entries -/

/-- A name resolves to an address that it was registered with, unless there is a complaint about
it. -/
theorem answers_resolve (wellFormed : ChannelMap.WellFormed map.channels) (name : String)
    (kind : ChannelKind) :
    Answers (nameComplaint? map name kind) (rejecting (map.resolve name kind))
      fun address => ⟨name, kind, address⟩ ∈ map.channels := by
  cases known : map.get? name with
  | none =>
    rw [nameComplaint?, ChannelMap.resolve, ChannelMap.channel, known]
    exact .rejected _
  | some found =>
    by_cases same : found.kind = kind
    · obtain ⟨held, rfl⟩ := wellFormed.get?_eq_some_iff.mp known
      obtain rfl := same
      have none : nameComplaint? map found.name found.kind = none := by
        rw [nameComplaint?, known]
        exact if_pos rfl
      rw [none, wellFormed.resolve_ok_iff.mpr held]
      exact .ok held
    · simpa [nameComplaint?, ChannelMap.resolve, ChannelMap.channel, known, same, Except.map,
        rejecting] using Answers.rejected _

/-- At the address of an analog channel a value is encoded, unless it is no voltage. The address has
been in range since the channel was registered. -/
theorem answers_encodeAnalog {address : Nat} (inside : address < Channel.analogCount)
    (name : String) (value : Binary64) :
    Answers (valueComplaint? name value)
      (rejecting ((Word.encodeAnalog address value).mapError (·.forChannel name)))
      fun _ => True := by
  rw [Word.encodeAnalog, if_neg (Nat.not_le_of_lt inside), valueComplaint?]
  by_cases voltage : Word.IsVoltage value
  · rw [if_pos voltage, (Word.check_iff value).mpr voltage]
    exact .ok trivial
  · have refused := (Bool.not_eq_false _).mp (mt (Word.check_iff value).mp voltage)
    rw [if_neg voltage, if_pos refused]
    exact .rejected _

/-- Entering an analog entry comes to the complaint about it. -/
theorem answers_enterAnalog (wellFormed : ChannelMap.WellFormed map.channels)
    (pairs : List LatchPair) (entry : String × Binary64) :
    Answers ((analogEntry entry).complaint? map) (enterAnalog map pairs entry.1 entry.2)
      fun _ => True := by
  refine (answers_resolve wellFormed entry.1 .analog).bind fun address held => ?_
  have inside : address < Channel.analogCount := wellFormed.analog _ held rfl
  have encoded := answers_encodeAnalog inside entry.1 entry.2
  rw [← Option.or_none (o := Option.bind _ _)]
  exact encoded.bind fun _ _ => .ok trivial

/-- Entering a digital entry comes to the complaint about it, which can only be about its name. -/
theorem answers_enterDigital (wellFormed : ChannelMap.WellFormed map.channels)
    (lines : List (Nat × Bool)) (entry : String × Bool) :
    Answers ((digitalEntry entry).complaint? map) (enterDigital map lines entry.1 entry.2)
      fun _ => True :=
  (answers_resolve wellFormed entry.1 .digital).bind fun _ _ => .ok trivial

/-- Each place that is taken is that of a channel whose name was given. -/
def PlacesGiven (map : ChannelMap) (row : SynthUpdate) (given : List String) : Prop :=
  ∀ (address : Nat) (inside : address < 4), row[address].isSome = true →
    ∃ name ∈ given, ⟨name, .synth, address⟩ ∈ map.channels

/-- In an empty row no place is taken. -/
theorem placesGiven_replicate (map : ChannelMap) (given : List String) :
    PlacesGiven map (Vector.replicate 4 none) given := by
  intro address inside taken
  simp at taken

/-- The place of a name that was not given before is free, since no other name is for it. -/
theorem PlacesGiven.free (wellFormed : ChannelMap.WellFormed map.channels) {row : SynthUpdate}
    {given : List String} (placesGiven : PlacesGiven map row given) {name : String}
    (fresh : name ∉ given) {address : Nat} (held : ⟨name, .synth, address⟩ ∈ map.channels)
    (inside : address < 4) : row[address] = none := by
  cases taken : row[address] with
  | none => rfl
  | some value =>
    obtain ⟨other, listed, otherHeld⟩ := placesGiven address inside (by rw [taken]; rfl)
    obtain ⟨rfl, -⟩ := Channel.mk.inj (wellFormed.eq_of_address otherHeld held rfl rfl)
    exact absurd listed fresh

/-- Entering a synthesizer value takes the place of its channel. For a name that was not given
before the place is free, so it can be refused for its name only. -/
theorem answers_enterSynth (wellFormed : ChannelMap.WellFormed map.channels) {row : SynthUpdate}
    {given : List String} (placesGiven : PlacesGiven map row given)
    (entry : String × Binary64) (fresh : entry.1 ∉ given) :
    Answers ((synthEntry entry).complaint? map) (enterSynth map row entry.1 entry.2)
      fun next => PlacesGiven map next (entry.1 :: given) := by
  refine (answers_resolve wellFormed entry.1 .synth).bind fun address held => ?_
  have inside : address < 4 := wellFormed.synth _ held rfl
  rw [dif_pos inside, placesGiven.free wellFormed fresh held inside]
  refine .ok ?_
  intro place placeInside taken
  by_cases own : address = place
  · subst own
    exact ⟨entry.1, List.mem_cons_self, held⟩
  · rw [Vector.getElem_set_ne inside placeInside own] at taken
    obtain ⟨name, listed, nameHeld⟩ := placesGiven place placeInside taken
    exact ⟨name, List.mem_cons_of_mem _ listed, nameHeld⟩

/-- If entries are entered one by one unless there is a complaint, and what is entered stays sound,
entries in turn are gone through up to the first complaint. It holds for entries of any list, and
the names that were given grow as they are looked at. -/
theorem answers_resolveEntries {α σ : Type} {enter : σ → String → α → Except Fault σ}
    (entryOf : String × α → Entry) (named : ∀ entry, (entryOf entry).name = entry.1)
    (Sound : σ → List String → Prop)
    (enters : ∀ state given, Sound state given → ∀ entry, entry.1 ∉ given →
      Answers ((entryOf entry).complaint? map) (enter state entry.1 entry.2)
        fun next => Sound next (entry.1 :: given))
    (listed : List (String × α)) (state : σ) (given : List String) (sound : Sound state given) :
    Answers (firstComplaint? map given (listed.map entryOf)) (resolveEntries enter state given listed)
      fun result => Sound result.1 result.2 ∧
        result.2 = ((listed.map entryOf).map (·.name)).reverse ++ given := by
  induction listed generalizing state given with
  | nil => exact .ok ⟨sound, rfl⟩
  | cons entry rest inductionHypothesis =>
    rw [List.map_cons, firstComplaint?, named, resolveEntries]
    split
    · exact .rejected _
    next fresh =>
      refine (enters state given sound entry fresh).bind fun next soundNext => ?_
      have remaining := inductionHypothesis next _ soundNext
      rw [List.map_cons, List.reverse_cons, List.append_assoc, List.singleton_append, named]
      exact remaining

/-- Resolving an update comes to the first complaint about its entries. The three lists are gone
through one after the other, each with the names of those before it given. -/
theorem answers_resolve_update (wellFormed : ChannelMap.WellFormed map.channels)
    (update : Update) :
    Answers (firstComplaint? map [] update.entries) (update.resolve map) fun _ => True := by
  have analog := answers_resolveEntries analogEntry (fun _ => rfl) (fun _ _ => True)
    (fun pairs _ _ entry _ => answers_enterAnalog wellFormed pairs entry) update.analog
  have digital := answers_resolveEntries digitalEntry (fun _ => rfl) (fun _ _ => True)
    (fun lines _ _ entry _ => answers_enterDigital wellFormed lines entry) update.digital
  have synth := answers_resolveEntries synthEntry (fun _ => rfl) (PlacesGiven map)
    (fun _ _ placesGiven entry fresh => answers_enterSynth wellFormed placesGiven entry fresh)
    update.synth
  rw [entries, firstComplaint?_append, firstComplaint?_append]
  refine (analog [] [] trivial).bind ?_
  rintro ⟨pairs, given⟩ ⟨-, rfl⟩
  refine (digital [] _ trivial).bind ?_
  rintro ⟨lines, given⟩ ⟨-, rfl⟩
  rw [← Option.or_none (o := firstComplaint? map _ (update.synth.map synthEntry))]
  exact (synth _ _ (placesGiven_replicate map _)).bind fun _ _ => .ok trivial

/-! ## What resolving comes to -/

/-- What the entries of an update are resolved to. -/
structure Encoded (map : ChannelMap) (update : Update) (resolved : ResolvedUpdate) : Prop where
  /-- There is one pair for each analog entry, in the order given. -/
  analog : List.Forall₂ (fun entry pair => ∃ address, ⟨entry.1, .analog, address⟩ ∈ map.channels ∧
    Word.encodeAnalog address entry.2 = .ok pair) update.analog resolved.analog
  /-- The line boards are set if any line is named, as the entries say. -/
  digital : ∃ lines, List.Forall₂ (fun entry line => ⟨entry.1, .digital, line.1⟩ ∈ map.channels ∧
      line.2 = entry.2) update.digital lines ∧
    resolved.digital = if update.digital.isEmpty then none else some (Word.encodeDigital lines)
  /-- The synthesizer is asked for a row if any of its channels is named, and exactly the named
  ones have a value in it. -/
  synth : ∃ values : SynthUpdate,
    resolved.synth = (if update.synth.isEmpty then none else some values) ∧
    ∀ (address : Fin 4) value, values[address] = some value ↔
      ∃ name, (name, value) ∈ update.synth ∧ ⟨name, .synth, address.val⟩ ∈ map.channels

/-- A list all of whose elements have an image is related to its images one by one, so none is left
out. -/
theorem forall₂_filterMap {α β : Type} {image : α → Option β} {items : List α}
    (defined : ∀ item ∈ items, ∃ result, image item = some result) :
    List.Forall₂ (fun item result => image item = some result) items (items.filterMap image) := by
  induction items with
  | nil => exact .nil
  | cons first rest inductionHypothesis =>
    rw [List.forall_mem_cons] at defined
    obtain ⟨⟨result, same⟩, others⟩ := defined
    rw [List.filterMap_cons_some same]
    exact .cons same (inductionHypothesis others)

/-- An update that resolves is encoded entry by entry, and nothing else is in what it resolves
to. -/
theorem encoded_of_ok (wellFormed : ChannelMap.WellFormed map.channels) {update : Update}
    {resolved : ResolvedUpdate} (accepted : update.resolve map = .ok resolved) :
    Encoded map update resolved := by
  have resolves := resolve_ok accepted
  have complaint := (answers_resolve_update wellFormed update).ok_iff.mp ⟨resolved, accepted⟩
  obtain ⟨-, -, registered⟩ := (firstComplaint?_eq_none_iff wellFormed [] _).mp complaint
  constructor
  · have pairs : List.Forall₂ (fun entry pair => analogPair? map entry = some pair) update.analog
        resolved.analog := by
      have same : List.Forall₂ (· = ·) (update.analog.map (analogPair? map))
          (resolved.analog.map some) := by
        rw [List.forall₂_eq_eq_eq]
        exact resolves.analog
      rwa [List.forall₂_map_left_iff, List.forall₂_map_right_iff] at same
    refine pairs.imp fun entry pair same => ?_
    obtain ⟨address, found, encoded⟩ := analogPair?_eq_some_iff.mp same
    exact ⟨address, wellFormed.resolve_ok_iff.mp found, encoded⟩
  · refine ⟨_, (forall₂_filterMap ?_).imp fun entry line same => ?_, resolves.digital⟩
    · intro entry listed
      have present : digitalEntry entry ∈ update.entries :=
        List.mem_append_right _ (List.mem_append_left _ (List.mem_map_of_mem listed))
      obtain ⟨⟨address, held⟩, -⟩ := registered _ present
      exact ⟨(address, entry.2),
        digitalLine?_eq_some_iff.mpr ⟨wellFormed.resolve_ok_iff.mpr held, rfl⟩⟩
    · obtain ⟨found, state⟩ := digitalLine?_eq_some_iff.mp same
      exact ⟨wellFormed.resolve_ok_iff.mp found, state⟩
  · obtain ⟨values, row, places⟩ := resolve_synth accepted
    refine ⟨values, row, fun address value => ?_⟩
    simp only [← wellFormed.resolve_ok_iff]
    rw [← given?_eq_some_iff accepted, ← (places address address.isLt).1]
    rfl

/-- What resolving an update comes to, its failures included. -/
structure ResolvesExactly (map : ChannelMap) (update : Update) : Prop where
  /-- An update resolves exactly if all its names are distinct and registered as channels of
  their kinds, and all its analog values are voltages. -/
  succeeds : (∃ resolved, update.resolve map = .ok resolved) ↔
    (update.entries.map (·.name)).Nodup ∧
      (∀ entry ∈ update.entries, ∃ address, ⟨entry.name, entry.kind, address⟩ ∈ map.channels) ∧
      ∀ entry ∈ update.analog, Word.IsVoltage entry.2
  /-- It fails exactly with the first complaint. -/
  fails : ∀ fault, update.resolve map = .error fault ↔
    ∃ cause, firstComplaint? map [] update.entries = some cause ∧ fault = .rejected cause
  /-- No address of an analog channel is refused when a value is encoded. -/
  coded : ∀ name address, map.resolve name .analog = .ok address →
    ∀ value text kind refused limit,
      Word.encodeAnalog address value ≠ .error (.invalidAddress text kind refused limit)
  /-- However far the synthesizer entries are gone through, the channel of a name that was not
  given before has a place in the row, and it is free. -/
  free : ∀ listed row before given,
    resolveEntries (enterSynth map) (Vector.replicate 4 none) before listed = .ok (row, given) →
    ∀ name ∉ given, ∀ address, map.resolve name .synth = .ok address →
      ∃ inside : address < 4, row[address] = none
  encoded : ∀ resolved, update.resolve map = .ok resolved → Encoded map update resolved

/-- On a built map resolving accepts exactly the updates whose names and values fit, and else tells
the first entry that does not. Nothing is assumed of the update: names may be repeated in or across
the lists, and values may be infinite or undefined.

Proof: the channels of a built map are well formed, so resolving comes to the first complaint. The
two checks that could fail besides are about an address and a place, and both are in range on such a
map. -/
theorem resolve_exact {map : ChannelMap} (built : map.Built) (update : Update) :
    ResolvesExactly map update := by
  have wellFormed := built.wellFormed
  have answers := answers_resolve_update wellFormed update
  refine ⟨?_, answers.error_iff, ?_, ?_, fun resolved => encoded_of_ok wellFormed⟩
  · have voltages : (∀ entry ∈ update.entries, ∀ value, entry.voltage = some value →
        Word.IsVoltage value) ↔ ∀ entry ∈ update.analog, Word.IsVoltage entry.2 := by
      simp only [entries, List.forall_mem_append, List.forall_mem_map]
      simp [analogEntry, digitalEntry, synthEntry]
    rw [answers.ok_iff, firstComplaint?_eq_none_iff wellFormed, ← voltages]
    simp only [List.not_mem_nil, not_false_eq_true, implies_true, true_and, forall_and]
  · intro name address found value text kind refused limit
    have inside : address < Channel.analogCount :=
      wellFormed.analog _ (wellFormed.resolve_ok_iff.mp found) rfl
    rw [Word.encodeAnalog, if_neg (Nat.not_le_of_lt inside)]
    split <;> simp
  · intro listed row before given gone name fresh address found
    have held := wellFormed.resolve_ok_iff.mp found
    have inside : address < 4 := wellFormed.synth _ held rfl
    have entered := answers_resolveEntries synthEntry (fun _ => rfl) (PlacesGiven map)
      (fun _ _ placesGiven entry fresh => answers_enterSynth wellFormed placesGiven entry fresh)
      listed _ before (placesGiven_replicate map before)
    exact ⟨inside, (entered.of_ok gone).1.free wellFormed fresh held inside⟩

/-- A map with a channel of each kind. -/
def sampleMap : ChannelMap :=
  ChannelMap.empty.attemptAll [⟨"a", .analog, 0⟩, ⟨"d", .digital, 3⟩, ⟨"f", .synth, 0⟩]

/-- Of the last two entries the first is of another kind too, and the second is not registered. -/
def sampleUpdate : Update where
  duration := 1
  analog := [("a", 10)]
  digital := [("d", true)]
  synth := [("d", 1), ("g", 1)]

/-- Without them the update resolves; with them it is refused for the repetition. -/
theorem resolve_exact_sample : sampleMap.Built ∧
    (∃ resolved, { sampleUpdate with synth := [] }.resolve sampleMap = .ok resolved) ∧
    sampleUpdate.resolve sampleMap = .error (.rejected (.duplicateChannel "d")) := by
  have built : sampleMap.Built := ChannelMap.Built.empty.attemptAll _
  refine ⟨built, ?_, ?_⟩
  · have held : sampleMap.channels =
        [⟨"a", .analog, 0⟩, ⟨"d", .digital, 3⟩, ⟨"f", .synth, 0⟩] := by
      decide +kernel
    refine (resolve_exact built _).succeeds.mpr ⟨by decide +kernel, ?_, by decide +kernel⟩
    rw [held]
    simp [sampleUpdate, entries, analogEntry, digitalEntry]
  · exact ((resolve_exact built sampleUpdate).fails _).mpr ⟨_, by decide +kernel, rfl⟩

end Update

end PulseProgram

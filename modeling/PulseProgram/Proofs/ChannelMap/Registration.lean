import PulseProgram.Proofs.ChannelMap.Built
import PulseProgram.Proofs.Outcome
import PulseProgram.Settings

/-!
# Registrations in turn

Channels are requested one after the other, and a request that is refused leaves the map as it
was. Whatever is requested, the map holds the requests that succeeded, in their order; it is well
formed, a request succeeds exactly if it keeps the map so, and a name resolves to the address of
the request that succeeded with that name and kind.

The tables of the settings are requests in turn that must all succeed.
-/

namespace PulseProgram

namespace ChannelMap

/-- Registers a channel with its own name, kind and address. -/
def add (map : ChannelMap) (requested : Channel) : Except CompileError ChannelMap :=
  map.register requested.name requested.kind requested.address

/-- The map after a request, whether or not it succeeds. -/
def attempt (map : ChannelMap) (requested : Channel) : ChannelMap :=
  match map.add requested with
  | .ok next => next
  | .error _ => map

/-- The map after requests in turn. -/
def attemptAll (map : ChannelMap) (requests : List Channel) : ChannelMap :=
  requests.foldl attempt map

/-- Those of the requests in turn that succeed. -/
def succeeding (map : ChannelMap) : List Channel → List Channel
  | [] => []
  | requested :: rest =>
    match map.add requested with
    | .ok next => requested :: next.succeeding rest
    | .error _ => map.succeeding rest

/-- Adds channels in turn, up to the first that is refused. -/
def addAll (map : ChannelMap) (channels : List Channel) : Except CompileError ChannelMap :=
  channels.foldlM add map

/-- Every channel can be added in turn. Each is added to what those before it have led to. -/
def EachAdded (map : ChannelMap) (channels : List Channel) : Prop :=
  ∀ earlier entry later, channels = earlier ++ entry :: later →
    ∃ next, (map.attemptAll earlier).add entry = .ok next

/-! ## One request -/

/-- A request succeeds exactly if the map admits its channel, which it then has at its end. -/
theorem add_ok_iff {map next : ChannelMap} {requested : Channel} :
    map.add requested = .ok next ↔
      Admits map.channels requested ∧ next = ⟨map.channels ++ [requested]⟩ :=
  register_ok_iff

/-- A request that succeeds leads to the map with its channel. -/
theorem attempt_of_ok {map next : ChannelMap} {requested : Channel}
    (added : map.add requested = .ok next) : map.attempt requested = next := by
  rw [attempt, added]

/-- A request that fails leaves the map as it is. -/
theorem attempt_of_error {map : ChannelMap} {requested : Channel} {cause : CompileError}
    (refused : map.add requested = .error cause) : map.attempt requested = map := by
  rw [attempt, refused]

/-- On a well-formed map a request succeeds exactly if it keeps the map well formed. So nothing is
refused that a map could hold. -/
theorem WellFormed.exists_add_iff {map : ChannelMap} (wellFormed : WellFormed map.channels)
    (requested : Channel) :
    (∃ next, map.add requested = .ok next) ↔ WellFormed (map.channels ++ [requested]) := by
  rw [wellFormed_concat_iff, and_iff_right wellFormed]
  constructor
  · rintro ⟨next, added⟩
    exact (add_ok_iff.mp added).1
  · intro admits
    exact ⟨_, add_ok_iff.mpr ⟨admits, rfl⟩⟩

/-- A request leads from a built map to a built map. -/
theorem Built.attempt {map : ChannelMap} (built : map.Built) (requested : Channel) :
    (map.attempt requested).Built := by
  cases outcome : map.add requested with
  | ok next =>
    rw [attempt_of_ok outcome]
    exact .register built outcome
  | error cause =>
    rwa [attempt_of_error outcome]

/-! ## Requests in turn -/

/-- Requests in turn lead from a built map to a built map, whichever of them fail. -/
theorem Built.attemptAll {map : ChannelMap} (built : map.Built) (requests : List Channel) :
    (map.attemptAll requests).Built := by
  induction requests generalizing map with
  | nil => exact built
  | cons requested rest inductionHypothesis => exact inductionHypothesis (built.attempt requested)

/-- The requests that succeed are added to those before them, in their order. Nothing is assumed of
the map or of the requests. -/
theorem attemptAll_channels (map : ChannelMap) (requests : List Channel) :
    (map.attemptAll requests).channels = map.channels ++ map.succeeding requests := by
  induction requests generalizing map with
  | nil => exact (List.append_nil _).symm
  | cons requested rest inductionHypothesis =>
    have goesOn : map.attemptAll (requested :: rest) = (map.attempt requested).attemptAll rest := rfl
    rw [goesOn, inductionHypothesis, succeeding]
    cases outcome : map.add requested with
    | ok next =>
      obtain ⟨-, rfl⟩ := add_ok_iff.mp outcome
      rw [attempt_of_ok outcome]
      exact List.append_assoc ..
    | error cause => rw [attempt_of_error outcome]

/-- The requests that succeed lead to the same map without the others. A refused request leaves no
trace that a later one could depend on. -/
theorem attemptAll_succeeding (map : ChannelMap) (requests : List Channel) :
    map.attemptAll (map.succeeding requests) = map.attemptAll requests := by
  induction requests generalizing map with
  | nil => rfl
  | cons requested rest inductionHypothesis =>
    have goesOn : map.attemptAll (requested :: rest) = (map.attempt requested).attemptAll rest := rfl
    rw [goesOn, succeeding]
    cases outcome : map.add requested with
    | ok next =>
      rw [attempt_of_ok outcome, ← inductionHypothesis]
      change (map.attempt requested).attemptAll _ = _
      rw [attempt_of_ok outcome]
    | error cause =>
      rw [attempt_of_error outcome]
      exact inductionHypothesis map

/-- All channels are added exactly if each of them can be in turn. It is by induction on the
channels: the first one is added to the map itself, and the others to what it leads to. -/
theorem exists_addAll_iff (map : ChannelMap) (channels : List Channel) :
    (∃ next, map.addAll channels = .ok next) ↔ map.EachAdded channels := by
  induction channels generalizing map with
  | nil =>
    constructor
    · rintro - earlier entry later impossible
      simp at impossible
    · intro
      exact ⟨map, rfl⟩
  | cons first rest inductionHypothesis =>
    constructor
    · rintro ⟨next, added⟩ earlier entry later split
      obtain ⟨between, addedFirst, addedRest⟩ := bind_ok_iff.mp added
      cases earlier with
      | nil =>
        obtain ⟨rfl, -⟩ := List.cons.inj split
        exact ⟨between, addedFirst⟩
      | cons _ earlier =>
        obtain ⟨rfl, remaining⟩ := List.cons.inj split
        have reached :=
          (inductionHypothesis between).mp ⟨next, addedRest⟩ earlier entry later remaining
        rwa [← attempt_of_ok addedFirst] at reached
    · intro each
      obtain ⟨between, addedFirst⟩ := each [] first rest rfl
      have eachLater : between.EachAdded rest := by
        rintro earlier entry later rfl
        have reached := each (first :: earlier) entry later rfl
        rwa [← attempt_of_ok addedFirst]
      obtain ⟨next, addedRest⟩ := (inductionHypothesis between).mpr eachLater
      exact ⟨next, bind_ok_iff.mpr ⟨between, addedFirst, addedRest⟩⟩

/-- What is added goes to the end, and nothing is left out or added twice. -/
theorem addAll_channels {map next : ChannelMap} {channels : List Channel}
    (added : map.addAll channels = .ok next) : next.channels = map.channels ++ channels := by
  induction channels generalizing map with
  | nil =>
    obtain rfl := Except.ok.inj added
    exact (List.append_nil _).symm
  | cons first rest inductionHypothesis =>
    obtain ⟨between, addedFirst, addedRest⟩ := bind_ok_iff.mp added
    obtain ⟨-, rfl⟩ := add_ok_iff.mp addedFirst
    rw [inductionHypothesis addedRest, List.append_assoc, List.singleton_append]

/-- What holds of a map that requests in turn have led to, in terms of the requests that
succeeded. -/
structure Maintained (requests : List Channel) (map : ChannelMap) : Prop where
  /-- The map holds the requests that succeeded, in their order. -/
  holds : map.channels = empty.succeeding requests
  wellFormed : WellFormed map.channels
  /-- A further request succeeds exactly if it keeps the map well formed. -/
  accepts : ∀ requested, (∃ next, map.add requested = .ok next) ↔
    WellFormed (map.channels ++ [requested])
  /-- A request that fails changes nothing. -/
  refuses : ∀ requested cause, map.add requested = .error cause → map.attempt requested = map
  /-- The map is the same without the requests that failed. -/
  pruned : map = empty.attemptAll (empty.succeeding requests)
  resolves : ∀ name kind address, map.resolve name kind = .ok address ↔
    ⟨name, kind, address⟩ ∈ empty.succeeding requests

end ChannelMap

namespace Settings

open ChannelMap

/-- The entries of a table as channels of a kind. -/
def channelsOf (kind : ChannelKind) (table : AddressTable) : List Channel :=
  table.map fun entry => ⟨entry.1, kind, entry.2⟩

/-- The channels of all tables in the order in which they are registered. -/
def channels (settings : Settings) : List Channel :=
  channelsOf .analog settings.analog ++
    (channelsOf .digital settings.digital ++ channelsOf .synth settings.synth)

/-- Registering the entries of a table is adding their channels in turn. -/
theorem registerAll_eq (kind : ChannelKind) (map : ChannelMap) (table : AddressTable) :
    registerAll kind map table = map.addAll (channelsOf kind table) := by
  rw [addAll, channelsOf, List.foldlM_map]
  rfl

/-- The map of the settings is built from their channels in turn. -/
theorem channelMap_eq (settings : Settings) :
    settings.channelMap = empty.addAll settings.channels := by
  rw [addAll, channels, List.foldlM_append]
  simp only [List.foldlM_append, channelMap, registerAll_eq, addAll]

end Settings

namespace ChannelMap

/-- After any requests the map holds those that succeeded and is well formed. The settings have a
map exactly if each of their channels can be registered in turn, and it holds all of them. Requests
and settings are arbitrary: names may be repeated or malformed and addresses out of range.

Proof: the map is built, so it is well formed, and each of the other facts is one about a single
registration or an induction on the requests. -/
theorem registrations_maintain (requests : List Channel) (settings : Settings) :
    Maintained requests (empty.attemptAll requests) ∧
      ((∃ map, settings.channelMap = .ok map) ↔ empty.EachAdded settings.channels) ∧
      ∀ map, settings.channelMap = .ok map → map.channels = settings.channels := by
  have holds : (empty.attemptAll requests).channels = empty.succeeding requests :=
    attemptAll_channels empty requests
  have wellFormed := (Built.empty.attemptAll requests).wellFormed
  refine ⟨⟨holds, wellFormed, wellFormed.exists_add_iff, ?_, ?_, ?_⟩, ?_, ?_⟩
  · intro requested cause refused
    exact attempt_of_error refused
  · exact (attemptAll_succeeding empty requests).symm
  · intro name kind address
    rw [wellFormed.resolve_ok_iff, holds]
  · rw [Settings.channelMap_eq, exists_addAll_iff]
  · intro map added
    rw [Settings.channelMap_eq] at added
    have all : map.channels = empty.channels ++ settings.channels := addAll_channels added
    exact all

end ChannelMap

end PulseProgram

import Mathlib.Data.List.Pairwise
import Mathlib.Tactic.ByContra
import PulseProgram.ChannelMap

/-!
# Maps built by registration

A channel map is built by registering channels one at a time, beginning with none. A channel is
registered exactly if the channels with it at the end are still well formed: their names are
identifiers and distinct, no two channels of a kind share an address, and analog and synthesizer
addresses are in range. So a name of a built map resolves as a kind to an address exactly if it
was registered with both.
-/

namespace PulseProgram

/-- A letter or underscore and after it letters, digits and underscores only, all of them ASCII.
This is said of the characters of the name and not through the check. -/
def IsIdentifier (name : String) : Prop :=
  ∃ first rest, name.toList = first :: rest ∧ (first.isAlpha ∨ first = '_') ∧
    ∀ char ∈ rest, char.isAlphanum ∨ char = '_'

/-- The form of a name is checked for what makes an identifier. The empty name is none. -/
theorem isIdentifier_iff (name : String) : isIdentifier name = true ↔ IsIdentifier name := by
  have alpha (char : Char) : char.isAlpha = true ↔
      ('A' ≤ char ∧ char ≤ 'Z') ∨ ('a' ≤ char ∧ char ≤ 'z') :=
    (Bool.or_eq_true_iff ..).trans (or_congr decide_eq_true_iff
      ((Bool.and_eq_true_iff ..).trans (and_congr decide_eq_true_iff decide_eq_true_iff)))
  have digit (char : Char) : char.isDigit = true ↔ '0' ≤ char ∧ char ≤ '9' :=
    (Bool.and_eq_true_iff ..).trans (and_congr decide_eq_true_iff decide_eq_true_iff)
  have alphanum (char : Char) : char.isAlphanum = true ↔ char.isAlpha = true ∨ char.isDigit = true :=
    Bool.or_eq_true_iff ..
  have start (char : Char) : isNameStart char = true ↔ char.isAlpha ∨ char = '_' := by
    simp [isNameStart, alpha]
  have goesOn (char : Char) : isNameChar char = true ↔ char.isAlphanum ∨ char = '_' := by
    rw [isNameChar, Bool.or_eq_true, start, or_right_comm, alphanum, digit]
    simp
  unfold isIdentifier IsIdentifier
  cases name.toList with
  | nil => simp
  | cons first rest =>
    rw [Bool.and_eq_true, start, List.all_eq_true]
    simp only [goesOn]
    constructor
    · rintro ⟨begins, continues⟩
      exact ⟨first, rest, rfl, begins, continues⟩
    · rintro ⟨_, _, same, begins, continues⟩
      obtain ⟨rfl, rfl⟩ := List.cons.inj same
      exact ⟨begins, continues⟩

namespace ChannelMap

/-- Channels as a map may hold them, whatever order they are in. -/
structure WellFormed (channels : List Channel) : Prop where
  identifiers : ∀ channel ∈ channels, IsIdentifier channel.name
  /-- No two channels have the same name, of whatever kinds they are. -/
  names : channels.Pairwise fun first second => first.name ≠ second.name
  /-- No two channels of one kind have the same address. -/
  addresses : channels.Pairwise fun first second =>
    first.kind = second.kind → first.address ≠ second.address
  analog : ∀ channel ∈ channels, channel.kind = .analog → channel.address < 32
  synth : ∀ channel ∈ channels, channel.kind = .synth → channel.address < 4

/-- What is asked of one more channel. -/
structure Admits (channels : List Channel) (added : Channel) : Prop where
  identifier : IsIdentifier added.name
  name : ∀ channel ∈ channels, channel.name ≠ added.name
  address : ∀ channel ∈ channels, channel.kind = added.kind → channel.address ≠ added.address
  analog : added.kind = .analog → added.address < 32
  synth : added.kind = .synth → added.address < 4

/-- No channels are well formed. -/
theorem wellFormed_nil : WellFormed [] := by
  constructor <;> simp

/-- Channels stay well formed with exactly those channels that they admit. So the checks of one
registration are all that well-formedness asks, and they ask no more. -/
theorem wellFormed_concat_iff {channels : List Channel} {added : Channel} :
    WellFormed (channels ++ [added]) ↔ WellFormed channels ∧ Admits channels added := by
  constructor
  · rintro ⟨identifiers, names, addresses, analog, synth⟩
    simp only [List.forall_mem_append, List.forall_mem_singleton] at identifiers analog synth
    obtain ⟨oldNames, -, newName⟩ := List.pairwise_append.mp names
    obtain ⟨oldAddresses, -, newAddress⟩ := List.pairwise_append.mp addresses
    have alone := List.mem_singleton_self added
    exact ⟨⟨identifiers.1, oldNames, oldAddresses, analog.1, synth.1⟩,
      ⟨identifiers.2, fun channel held => newName channel held added alone,
        fun channel held => newAddress channel held added alone, analog.2, synth.2⟩⟩
  · rintro ⟨⟨identifiers, names, addresses, analog, synth⟩, admits⟩
    constructor
    · exact List.forall_mem_append.mpr ⟨identifiers, by simpa using admits.identifier⟩
    · exact List.pairwise_append.mpr ⟨names, List.pairwise_singleton .., by simpa using admits.name⟩
    · exact List.pairwise_append.mpr
        ⟨addresses, List.pairwise_singleton .., by simpa using admits.address⟩
    · exact List.forall_mem_append.mpr ⟨analog, by simpa using admits.analog⟩
    · exact List.forall_mem_append.mpr ⟨synth, by simpa using admits.synth⟩

/-- No limit of a kind is reached exactly if the addresses of that kind are in range. Digital
channels have no limit. -/
theorem addressLimit_none_iff {kind : ChannelKind} {address : Nat} :
    kind.addressLimit.filter (· ≤ address) = none ↔
      (kind = .analog → address < 32) ∧ (kind = .synth → address < 4) := by
  have analogLimit : Channel.analogCount = 32 := rfl
  have synthLimit : Channel.synthCount = 4 := rfl
  cases kind <;>
    simp [ChannelKind.addressLimit, Option.filter_eq_none_iff, analogLimit, synthLimit]

/-- A channel is registered, at the end, exactly if the map admits it. Nothing is assumed of the
map, so a success is told by the checks alone.

Proof: the checks are taken one after the other. Each that fails refutes one condition, and where
all pass the conditions hold. -/
theorem register_ok_iff {map next : ChannelMap} {name : String} {kind : ChannelKind}
    {address : Nat} :
    map.register name kind address = .ok next ↔
      Admits map.channels ⟨name, kind, address⟩ ∧
        next = ⟨map.channels ++ [⟨name, kind, address⟩]⟩ := by
  have free : (map.get? name).isSome = true ↔ ∃ channel ∈ map.channels, channel.name = name := by
    simp [get?, List.find?_isSome]
  have unowned : (map.channels.find? fun channel =>
      decide (channel.kind = kind) && decide (channel.address = address)) = none ↔
      ∀ channel ∈ map.channels, channel.kind = kind → channel.address ≠ address := by
    simp [List.find?_eq_none]
  unfold register
  constructor
  · intro registered
    split at registered
    · contradiction
    next identifier =>
      split at registered
      · contradiction
      next fresh =>
        split at registered
        · contradiction
        next within =>
          split at registered
          · contradiction
          next vacant =>
            obtain ⟨analog, synth⟩ := addressLimit_none_iff.mp within
            refine ⟨⟨?_, ?_, unowned.mp vacant, analog, synth⟩, (Except.ok.inj registered).symm⟩
            · simpa [isIdentifier_iff] using identifier
            · simpa [free] using fresh
  · rintro ⟨⟨identifier, unused, vacant, analog, synth⟩, rfl⟩
    have named : (!isIdentifier name) = false := by
      simpa [isIdentifier_iff] using identifier
    have fresh : ¬(map.get? name).isSome = true := by
      simpa [free] using unused
    rw [named, if_neg Bool.false_ne_true, if_neg fresh, addressLimit_none_iff.mpr ⟨analog, synth⟩,
      unowned.mpr vacant]

/-- The maps that registrations lead to. A refused registration leads nowhere. -/
inductive Built : ChannelMap → Prop where
  | empty : Built .empty
  | register {map next : ChannelMap} {name : String} {kind : ChannelKind} {address : Nat}
      (built : Built map) (registered : map.register name kind address = .ok next) : Built next

/-- The channels of a built map are well formed, since every registration keeps them so. -/
theorem Built.wellFormed {map : ChannelMap} (built : map.Built) : WellFormed map.channels := by
  induction built with
  | empty => exact wellFormed_nil
  | register built registered inductionHypothesis =>
    obtain ⟨admits, rfl⟩ := register_ok_iff.mp registered
    exact wellFormed_concat_iff.mpr ⟨inductionHypothesis, admits⟩

/-! ## Resolving names -/

/-- Where names are distinct, a name finds just the channel that has it. Without that, only the
first of several channels would be found. -/
theorem find?_eq_some_iff {channels : List Channel}
    (names : channels.Pairwise fun first second => first.name ≠ second.name) {name : String}
    {channel : Channel} :
    channels.find? (·.name = name) = some channel ↔ channel ∈ channels ∧ channel.name = name := by
  induction channels with
  | nil => simp
  | cons first rest inductionHypothesis =>
    obtain ⟨apart, names⟩ := List.pairwise_cons.mp names
    by_cases own : first.name = name
    · rw [List.find?_cons_of_pos (by simpa using own), List.mem_cons]
      constructor
      · intro same
        obtain rfl := Option.some.inj same
        exact ⟨.inl rfl, own⟩
      · rintro ⟨rfl | later, other⟩
        · rfl
        · exact absurd (own.trans other.symm) (apart channel later)
    · rw [List.find?_cons_of_neg (by simpa using own), inductionHypothesis names, List.mem_cons]
      constructor
      · rintro ⟨later, named⟩
        exact ⟨.inr later, named⟩
      · rintro ⟨rfl | later, named⟩
        · exact absurd named own
        · exact ⟨later, named⟩

/-- A well-formed map gives for a name just the channel that has it. -/
theorem WellFormed.get?_eq_some_iff {map : ChannelMap} (wellFormed : WellFormed map.channels)
    {name : String} {channel : Channel} :
    map.get? name = some channel ↔ channel ∈ map.channels ∧ channel.name = name :=
  find?_eq_some_iff wellFormed.names

/-- A name resolves as a kind to an address exactly if it was registered with both. In particular a
name of another kind does not resolve, whatever its address. -/
theorem WellFormed.resolve_ok_iff {map : ChannelMap} (wellFormed : WellFormed map.channels)
    {name : String} {kind : ChannelKind} {address : Nat} :
    map.resolve name kind = .ok address ↔ ⟨name, kind, address⟩ ∈ map.channels := by
  unfold resolve channel
  constructor
  · intro resolved
    split at resolved
    · contradiction
    next found known =>
      obtain ⟨held, rfl⟩ := wellFormed.get?_eq_some_iff.mp known
      split at resolved
      next same =>
        obtain rfl := same
        obtain rfl := Except.ok.inj resolved
        exact held
      · contradiction
  · intro held
    rw [wellFormed.get?_eq_some_iff.mpr ⟨held, rfl⟩]
    simp [Except.map]

/-- An address of a kind belongs to one channel. Channels of different kinds may share addresses. -/
theorem WellFormed.eq_of_address {channels : List Channel} (wellFormed : WellFormed channels)
    {first second : Channel} (firstHeld : first ∈ channels) (secondHeld : second ∈ channels)
    (kind : first.kind = second.kind) (address : first.address = second.address) :
    first = second := by
  by_contra other
  have : Std.Symm fun first second : Channel =>
      first.kind = second.kind → first.address ≠ second.address :=
    ⟨fun _ _ apart same => (apart same.symm).symm⟩
  exact wellFormed.addresses.forall firstHeld secondHeld other kind address

/-- On a built map every synthesizer channel has a place in the row, so no setting is written
outside of it. -/
theorem Built.synth_lt {map : ChannelMap} (built : map.Built) {name : String} {address : Nat}
    (resolved : map.resolve name .synth = .ok address) : address < 4 :=
  built.wellFormed.synth _ (built.wellFormed.resolve_ok_iff.mp resolved) rfl

end ChannelMap

end PulseProgram

import PulseProgram.Proofs.Update.Resolution

/-!
# What an update asks of the synthesizer

A resolved update has one place for each synthesizer channel. The place of a channel holds the
value of the entry whose name resolves to it, zero included, and nothing if there is no such
entry. No two entries of an update are for the same place, so the order of the entries does not
matter.
-/

namespace PulseProgram.Update

/-- The value of an entry, if its name resolves to the synthesizer channel at the address. A value
of zero is a value. -/
def synthValue? (map : ChannelMap) (address : Nat) (entry : String × Binary64) :
    Option Binary64 :=
  if (map.resolve entry.1 .synth).toOption = some address then some entry.2 else none

/-- The value that an update gives to the synthesizer channel at an address. If several entries did,
the first would count; in an accepted update there is one at most. -/
def given? (map : ChannelMap) (address : Nat) (update : Update) : Option Binary64 :=
  update.synth.findSome? (synthValue? map address)

/-- Entering a value takes the place of its channel, which was free. That there is such a place is
told by the success. -/
theorem enterSynth_ok {map : ChannelMap} {before after : SynthUpdate} {name : String}
    {value : Binary64} (entered : enterSynth map before name value = .ok after) :
    ∃ (address : Nat) (inside : address < 4), map.resolve name .synth = .ok address ∧
      before[address] = none ∧ after = before.set address (some value) := by
  obtain ⟨address, resolved, rest⟩ := bind_ok_iff.mp entered
  rw [rejecting_ok_iff] at resolved
  split at rest
  · next inside =>
    split at rest
    · contradiction
    · next free =>
      exact ⟨address, inside, resolved, by simpa using free, (Except.ok.inj rest).symm⟩
  · contradiction

/-- A place holds what was in it before the entries, and else what the entries give to it. An entry
is only entered into a place that is free.

Proof: by induction on the entries. The first one takes its own place and no other, and where it has
taken the place in question, no later entry can be for it. -/
theorem resolveEntries_synth {map : ChannelMap} {before after : SynthUpdate}
    {seen seenAfter : List String} {entries : List (String × Binary64)}
    (resolved : resolveEntries (enterSynth map) before seen entries = .ok (after, seenAfter))
    {address : Nat} (inside : address < 4) :
    after[address] = before[address].or (entries.findSome? (synthValue? map address)) ∧
      ∀ entry ∈ entries, map.resolve entry.1 .synth = .ok address →
        before[address] = none ∧ after[address] = some entry.2 := by
  induction entries generalizing before seen with
  | nil =>
    obtain ⟨rfl, -⟩ := Prod.mk.inj (Except.ok.inj resolved)
    refine ⟨by simp, ?_⟩
    intro entry absent
    exact absurd absent List.not_mem_nil
  | cons entry rest inductionHypothesis =>
    obtain ⟨name, value⟩ := entry
    rw [resolveEntries] at resolved
    split at resolved
    · contradiction
    · obtain ⟨next, entered, remaining⟩ := bind_ok_iff.mp resolved
      obtain ⟨place, placeInside, found, free, rfl⟩ := enterSynth_ok entered
      obtain ⟨value_eq, others⟩ := inductionHypothesis remaining
      by_cases own : place = address
      · subst own
        have taken : (before.set place (some value))[place] = some value := by simp
        rw [taken, Option.some_or] at value_eq
        refine ⟨?_, ?_⟩
        · rw [value_eq, free, Option.none_or, List.findSome?_cons, synthValue?, found]
          simp [Except.toOption]
        · rintro entry listed resolves
          rcases List.mem_cons.mp listed with rfl | later
          · exact ⟨free, value_eq⟩
          · obtain ⟨impossible, -⟩ := others entry later resolves
            rw [taken] at impossible
            contradiction
      · have untouched : (before.set place (some value))[address] = before[address] := by
          simp [own]
        rw [untouched] at value_eq others
        refine ⟨?_, ?_⟩
        · rw [value_eq, List.findSome?_cons, synthValue?, found]
          simp [Except.toOption, own]
        · intro entry listed resolves
          rcases List.mem_cons.mp listed with rfl | later
          · rw [found] at resolves
            exact (own (Except.ok.inj resolves)).elim
          · exact others entry later resolves

/-- The values of the next row, place by place. An update without synthesizer entries asks for no
row, though its places are empty all the same. -/
theorem resolve_synth {map : ChannelMap} {update : Update} {resolved : ResolvedUpdate}
    (accepted : update.resolve map = .ok resolved) :
    ∃ values : SynthUpdate, resolved.synth = (if update.synth.isEmpty then none else some values) ∧
      ∀ (address : Nat) (inside : address < 4), values[address] = update.given? map address ∧
        ∀ entry ∈ update.synth, map.resolve entry.1 .synth = .ok address →
          values[address] = some entry.2 := by
  obtain ⟨⟨pairs, seen⟩, -, afterAnalog⟩ := bind_ok_iff.mp accepted
  obtain ⟨⟨lines, seen'⟩, -, afterDigital⟩ := bind_ok_iff.mp afterAnalog
  obtain ⟨⟨values, seen''⟩, synth, last⟩ := bind_ok_iff.mp afterDigital
  obtain rfl := Except.ok.inj last
  refine ⟨values, rfl, ?_⟩
  intro address inside
  obtain ⟨value, entries⟩ := resolveEntries_synth synth inside
  refine ⟨?_, fun entry listed resolves => (entries entry listed resolves).2⟩
  rw [value]
  simp [given?]

/-- An accepted update gives a value to a channel if and only if one of its entries has that
value and a name of the channel. -/
theorem given?_eq_some_iff {map : ChannelMap} {update : Update} {resolved : ResolvedUpdate}
    (accepted : update.resolve map = .ok resolved) {address : Fin 4} {value : Binary64} :
    update.given? map address = some value ↔
      ∃ name, (name, value) ∈ update.synth ∧ map.resolve name .synth = .ok address.val := by
  obtain ⟨values, -, places⟩ := resolve_synth accepted
  obtain ⟨place, entries⟩ := places address address.isLt
  constructor
  · intro given
    obtain ⟨⟨name, other⟩, listed, same⟩ := List.exists_of_findSome?_eq_some given
    rw [synthValue?] at same
    split at same
    · next found =>
      obtain rfl := Option.some.inj same
      refine ⟨name, listed, ?_⟩
      cases resolves : map.resolve name .synth with
      | error cause => rw [resolves] at found; contradiction
      | ok place => rw [resolves] at found; exact congrArg _ (Option.some.inj found)
    · contradiction
  · rintro ⟨name, listed, resolves⟩
    rw [← place]
    exact entries (name, value) listed resolves

end PulseProgram.Update

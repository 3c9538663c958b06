import PulseProgram.Proofs.ChannelMap.Built
import PulseProgram.Proofs.Outcome
import PulseProgram.Proofs.Word.Latch
import PulseProgram.Update

/-!
# What a resolved update holds

A resolved update has one latch pair for each analog entry, in the order given, and the
six words for its digital entries if there are any. What an entry is resolved to depends
on the entry alone, not on the entries before it.

On a map built by registration, resolving an update ends with a result or a rejection.
-/

namespace PulseProgram

/-- The latch words in the order they are put out. -/
def ResolvedUpdate.stacked (resolved : ResolvedUpdate) : List Word :=
  resolved.latchBlocks.reverse.flatten

namespace Update

/-- The latch pair of an analog entry, if its name and value allow one. It depends on the entry and
the map alone, and not on other entries. -/
def analogPair? (map : ChannelMap) (entry : String × Binary64) : Option LatchPair :=
  match map.resolve entry.1 .analog with
  | .ok address => (Word.encodeAnalog address entry.2).toOption
  | .error _ => none

/-- The line and the state of a digital entry, if its name is known. -/
def digitalLine? (map : ChannelMap) (entry : String × Bool) : Option (Nat × Bool) :=
  (map.resolve entry.1 .digital).toOption.map (·, entry.2)

/-- An analog entry has the pair that its value is encoded to at the address of its name. -/
theorem analogPair?_eq_some_iff {map : ChannelMap} {entry : String × Binary64} {pair : LatchPair} :
    analogPair? map entry = some pair ↔
      ∃ address, map.resolve entry.1 .analog = .ok address ∧
        Word.encodeAnalog address entry.2 = .ok pair := by
  unfold analogPair?
  cases map.resolve entry.1 .analog with
  | error cause => simp
  | ok address => simp [toOption_eq_some_iff]

/-- A digital entry has the line at the address of its name and the state that it gives. -/
theorem digitalLine?_eq_some_iff {map : ChannelMap} {entry : String × Bool} {line : Nat × Bool} :
    digitalLine? map entry = some line ↔
      map.resolve entry.1 .digital = .ok line.1 ∧ line.2 = entry.2 := by
  unfold digitalLine?
  cases map.resolve entry.1 .digital with
  | error cause => simp [Except.toOption]
  | ok address => simp [Except.toOption, Prod.ext_iff, eq_comm]

/-- The number of latch words of an update: two for each analog entry, and six if any digital
channel is named. It is known before any name is resolved. -/
def latchLength (update : Update) : Nat :=
  2 * update.analog.length + if update.digital.isEmpty then 0 else 6

section Entries

variable {α β σ : Type}

/-- Entries that each append one item lead to the items in their order. It holds for entries of any
kind; the names that were seen before only decide whether it goes on. -/
theorem resolveEntries_appends {enter : List β → String → α → Except Fault (List β)}
    {item? : String × α → Option β}
    (appends : ∀ {before after name value}, enter before name value = .ok after →
      ∃ item, item? (name, value) = some item ∧ after = before ++ [item])
    {before after : List β} {seen seenAfter : List String} {entries : List (String × α)}
    (resolved : resolveEntries enter before seen entries = .ok (after, seenAfter)) :
    ∃ items, after = before ++ items ∧ entries.map item? = items.map some := by
  induction entries generalizing before seen with
  | nil =>
    obtain ⟨rfl, -⟩ := Prod.mk.inj (Except.ok.inj resolved)
    exact ⟨[], (List.append_nil _).symm, rfl⟩
  | cons entry rest inductionHypothesis =>
    obtain ⟨name, value⟩ := entry
    rw [resolveEntries] at resolved
    split at resolved
    · exact nomatch resolved
    · obtain ⟨next, entered, remaining⟩ := bind_ok_iff.mp resolved
      obtain ⟨item, same, rfl⟩ := appends entered
      obtain ⟨items, rfl, others⟩ := inductionHypothesis remaining
      refine ⟨item :: items, by rw [List.append_assoc, List.singleton_append], ?_⟩
      rw [List.map_cons, List.map_cons, same, others]

/-- Going through entries stays in bounds if entering each of them does. A name that comes twice is
rejected, and that is in bounds as well. -/
theorem staysInBounds_resolveEntries {enter : σ → String → α → Except Fault σ}
    (stays : ∀ entered name value, StaysInBounds (enter entered name value))
    (entered : σ) (seen : List String) (entries : List (String × α)) :
    StaysInBounds (resolveEntries enter entered seen entries) := by
  induction entries generalizing entered seen with
  | nil => exact staysInBounds_ok _
  | cons entry rest inductionHypothesis =>
    obtain ⟨name, value⟩ := entry
    rw [resolveEntries]
    split
    · exact staysInBounds_rejected _
    · exact (stays entered name value).bind fun next _ => inductionHypothesis next _

end Entries

/-- Entering an analog value appends its pair. -/
theorem enterAnalog_ok {map : ChannelMap} {before after : List LatchPair} {name : String}
    {value : Binary64} (entered : enterAnalog map before name value = .ok after) :
    ∃ pair, analogPair? map (name, value) = some pair ∧ after = before ++ [pair] := by
  obtain ⟨address, resolved, rest⟩ := bind_ok_iff.mp entered
  obtain ⟨pair, encoded, last⟩ := bind_ok_iff.mp rest
  rw [rejecting_ok_iff] at resolved encoded
  obtain rfl : before ++ [pair] = after := Except.ok.inj last
  refine ⟨pair, analogPair?_eq_some_iff.mpr ⟨address, resolved, ?_⟩, rfl⟩
  cases exact : Word.encodeAnalog address value with
  | error cause => rw [exact] at encoded; exact nomatch encoded
  | ok other => rw [exact] at encoded; exact congrArg Except.ok (Except.ok.inj encoded)

/-- Entering a digital state appends its line. -/
theorem enterDigital_ok {map : ChannelMap} {before after : List (Nat × Bool)} {name : String}
    {high : Bool} (entered : enterDigital map before name high = .ok after) :
    ∃ line, digitalLine? map (name, high) = some line ∧ after = before ++ [line] := by
  obtain ⟨address, resolved, last⟩ := bind_ok_iff.mp entered
  rw [rejecting_ok_iff] at resolved
  obtain rfl : before ++ [(address, high)] = after := Except.ok.inj last
  exact ⟨(address, high), digitalLine?_eq_some_iff.mpr ⟨resolved, rfl⟩, rfl⟩

/-- The parts of a resolved update, in terms of the entries of the update, one by one. -/
structure ResolvesTo (map : ChannelMap) (update : Update) (resolved : ResolvedUpdate) : Prop where
  analog : update.analog.map (analogPair? map) = resolved.analog.map some
  digital : resolved.digital = if update.digital.isEmpty then none
    else some (Word.encodeDigital (update.digital.filterMap (digitalLine? map)))
  synth : resolved.synth.isSome = !update.synth.isEmpty

/-- Resolving gives what the entries say one by one. Nothing is assumed of the map, so this also
holds of maps that no registration leads to. -/
theorem resolve_ok {map : ChannelMap} {update : Update} {resolved : ResolvedUpdate}
    (accepted : update.resolve map = .ok resolved) : update.ResolvesTo map resolved := by
  obtain ⟨⟨pairs, seen⟩, analog, afterAnalog⟩ := bind_ok_iff.mp accepted
  obtain ⟨⟨lines, seen'⟩, digital, afterDigital⟩ := bind_ok_iff.mp afterAnalog
  obtain ⟨⟨row, seen''⟩, synth, last⟩ := bind_ok_iff.mp afterDigital
  obtain rfl := Except.ok.inj last
  obtain ⟨_, rfl, sameAnalog⟩ := resolveEntries_appends enterAnalog_ok analog
  obtain ⟨_, rfl, sameDigital⟩ := resolveEntries_appends enterDigital_ok digital
  have found : update.digital.filterMap (digitalLine? map) = lines := by
    have same := congrArg (List.filterMap id) sameDigital
    simpa [List.filterMap_map] using same
  refine ⟨sameAnalog, ?_, ?_⟩
  · rw [found]
  · cases update.synth <;> rfl

/-- On a built map resolving never leaves the row. On another map the address of a synthesizer
channel might have no place in it. -/
theorem staysInBounds_resolve {map : ChannelMap} (built : map.Built) (update : Update) :
    StaysInBounds (update.resolve map) := by
  have analog : ∀ pairs name value, StaysInBounds (enterAnalog map pairs name value) := by
    intro pairs name value
    exact (staysInBounds_rejecting _).bind fun _ _ =>
      (staysInBounds_rejecting _).bind fun _ _ => staysInBounds_ok _
  have digital : ∀ lines name high, StaysInBounds (enterDigital map lines name high) := by
    intro lines name high
    exact (staysInBounds_rejecting _).bind fun _ _ => staysInBounds_ok _
  have synth : ∀ row name value, StaysInBounds (enterSynth map row name value) := by
    intro row name value
    refine (staysInBounds_rejecting _).bind fun address resolved => ?_
    have inside : address < 4 := built.synth_lt (rejecting_ok_iff.mp resolved)
    rw [dif_pos inside]
    split
    · exact staysInBounds_rejected _
    · exact staysInBounds_ok _
  refine (staysInBounds_resolveEntries analog _ _ _).bind fun _ _ => ?_
  refine (staysInBounds_resolveEntries digital _ _ _).bind fun _ _ => ?_
  exact (staysInBounds_resolveEntries synth _ _ _).bind fun _ _ => staysInBounds_ok _

namespace ResolvesTo

variable {map : ChannelMap} {update : Update} {resolved : ResolvedUpdate}

/-- One pair for each analog entry. -/
theorem length_analog (resolves : update.ResolvesTo map resolved) :
    resolved.analog.length = update.analog.length := by
  simpa using (congrArg List.length resolves.analog).symm

/-- The length that is reserved for the latch words is that of the entries, so it can be checked
before they are encoded. -/
theorem latchLength_eq (resolves : update.ResolvesTo map resolved) :
    resolved.latchLength = update.latchLength := by
  rw [ResolvedUpdate.latchLength, latchLength, resolves.length_analog, resolves.digital]
  cases update.digital <;> rfl

/-- The pair of an analog entry is the one at its place. -/
theorem analog_getElem? (resolves : update.ResolvesTo map resolved) (index : Nat) :
    update.analog[index]?.bind (analogPair? map) = resolved.analog[index]? := by
  have same := congrArg (·[index]?) resolves.analog
  simp only [List.getElem?_map] at same
  cases entry : update.analog[index]? <;> cases pair : resolved.analog[index]? <;>
    simp_all

end ResolvesTo

end Update

end PulseProgram

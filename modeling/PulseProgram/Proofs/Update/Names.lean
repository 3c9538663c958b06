import Mathlib.Data.List.Nodup
import Mathlib.Tactic.ByContra
import PulseProgram.Proofs.Binary64.Order
import PulseProgram.Proofs.Update.SynthEntries

/-!
# Which updates resolve

With all analog values in range, whether an update resolves is decided by its names: no name is
given twice, each is registered as a channel of its kind with an address in range, and no two
names are for the same place of the row. Neither the values nor the order of the names matter.
-/

namespace PulseProgram

namespace Update

section Entries

variable {α σ : Type}

/-- The names of entries. -/
def namesOf (entries : List (String × α)) : List String := entries.map Prod.fst

/-- The names seen after going through entries are those before and those of the entries. Whether an
entry is entered does not depend on their order. -/
theorem mem_seen_iff {enter : σ → String → α → Except Fault σ} {entered after : σ}
    {seen seenAfter : List String} {entries : List (String × α)}
    (resolved : resolveEntries enter entered seen entries = .ok (after, seenAfter))
    (name : String) : name ∈ seenAfter ↔ name ∈ seen ∨ name ∈ namesOf entries := by
  induction entries generalizing entered seen with
  | nil =>
    obtain ⟨-, rfl⟩ := Prod.mk.inj (Except.ok.inj resolved)
    simp [namesOf]
  | cons entry rest inductionHypothesis =>
    obtain ⟨first, value⟩ := entry
    rw [resolveEntries] at resolved
    split at resolved
    · contradiction
    · obtain ⟨next, -, remaining⟩ := bind_ok_iff.mp resolved
      rw [inductionHypothesis remaining]
      simp only [namesOf, List.map_cons, List.mem_cons]
      rw [or_assoc, or_left_comm]

/-- Let an entry be entered if it is admitted, and after that just those others be admitted that
were before and stand apart from it. Then entries can be gone through exactly if no name comes
twice, all of them are admitted at first, and any two of them stand apart.

Proof: by induction on the entries. The first entry may be entered, and the rest is admitted after
it since it stands apart from each of them. -/
theorem resolveEntries_iff {enter : σ → String → α → Except Fault σ}
    {Admits : σ → String × α → Prop} {Apart : String × α → String × α → Prop}
    {entries : List (String × α)}
    (enters : ∀ state, ∀ entry ∈ entries, (∃ next, enter state entry.1 entry.2 = .ok next) ↔
      Admits state entry)
    (still : ∀ {state next entry}, enter state entry.1 entry.2 = .ok next →
      ∀ other, Admits next other ↔ Admits state other ∧ Apart entry other)
    (entered : σ) (seen : List String) :
    (∃ result, resolveEntries enter entered seen entries = .ok result) ↔
      (namesOf entries).Nodup ∧ (∀ name ∈ namesOf entries, name ∉ seen) ∧
        (∀ entry ∈ entries, Admits entered entry) ∧ entries.Pairwise Apart := by
  induction entries generalizing entered seen with
  | nil => simp [resolveEntries, namesOf]
  | cons entry rest inductionHypothesis =>
    obtain ⟨name, value⟩ := entry
    have others : namesOf ((name, value) :: rest) = name :: namesOf rest := rfl
    rw [others, List.nodup_cons, List.pairwise_cons, List.forall_mem_cons, List.forall_mem_cons]
    have entersFirst := enters entered (name, value) List.mem_cons_self
    have goesOn := inductionHypothesis fun state entry listed =>
      enters state entry (List.mem_cons_of_mem _ listed)
    constructor
    · rintro ⟨result, resolved⟩
      rw [resolveEntries] at resolved
      split at resolved
      · contradiction
      next fresh =>
        obtain ⟨next, enteredNow, remaining⟩ := bind_ok_iff.mp resolved
        obtain ⟨distinct, unseen, admitted, apart⟩ :=
          (goesOn next _).mp ⟨result, remaining⟩
        have before := @still entered next (name, value) enteredNow
        refine ⟨⟨?_, distinct⟩, ⟨fresh, ?_⟩, ⟨entersFirst.mp ⟨next, enteredNow⟩, ?_⟩, ?_, apart⟩
        · intro again
          exact unseen name again List.mem_cons_self
        · intro other listed old
          exact unseen other listed (List.mem_cons_of_mem _ old)
        · intro other listed
          exact ((before other).mp (admitted other listed)).1
        · intro other listed
          exact ((before other).mp (admitted other listed)).2
    · rintro ⟨⟨once, distinct⟩, ⟨fresh, unseen⟩, ⟨first, admitted⟩, apartFirst, apart⟩
      obtain ⟨next, enteredNow⟩ := entersFirst.mpr first
      have after := @still entered next (name, value) enteredNow
      have unseenNow : ∀ other ∈ namesOf rest, other ∉ name :: seen := by
        intro other listed old
        rcases List.mem_cons.mp old with rfl | older
        · exact once listed
        · exact unseen other listed older
      have admittedNow : ∀ other ∈ rest, Admits next other := by
        intro other listed
        exact (after other).mpr ⟨admitted other listed, apartFirst other listed⟩
      obtain ⟨result, remaining⟩ :=
        (goesOn next _).mpr ⟨distinct, unseenNow, admittedNow, apart⟩
      refine ⟨result, ?_⟩
      rw [resolveEntries, if_neg fresh]
      exact bind_ok_iff.mpr ⟨next, enteredNow, remaining⟩

/-- Where it only depends on its name whether an entry can be entered, entries can be gone through
exactly if their names allow it one by one and none comes twice. Then any two entries stand
apart. -/
theorem resolveEntries_iff_names {enter : σ → String → α → Except Fault σ}
    {Admits : String → Prop} {entries : List (String × α)}
    (enters : ∀ state, ∀ entry ∈ entries, (∃ next, enter state entry.1 entry.2 = .ok next) ↔
      Admits entry.1)
    (entered : σ) (seen : List String) :
    (∃ result, resolveEntries enter entered seen entries = .ok result) ↔
      (namesOf entries).Nodup ∧ (∀ name ∈ namesOf entries, name ∉ seen) ∧
        ∀ name ∈ namesOf entries, Admits name := by
  have apart : entries.Pairwise fun _ _ => True := List.pairwise_of_forall fun _ _ => trivial
  have all := @resolveEntries_iff α σ enter (fun _ entry => Admits entry.1) (fun _ _ => True)
    entries enters (fun _ _ => (and_iff_left trivial).symm) entered seen
  rw [all, and_iff_left apart]
  simp only [namesOf, List.forall_mem_map]

end Entries

/-! ## The three lists -/

/-- An analog value between the lowest and the highest voltage. -/
def InRange (value : Binary64) : Prop := Word.analogMin ≤ value ∧ value ≤ Word.analogMax

instance (value : Binary64) : Decidable (InRange value) :=
  inferInstanceAs (Decidable (_ ∧ _))

/-- A value in range passes the check of values. An undefined value is not in range, since it
compares with nothing. -/
theorem InRange.passes {value : Binary64} (inRange : InRange value) :
    (!value.isFinite || decide (value < Word.analogMin) || decide (Word.analogMax < value)) =
      false := by
  obtain ⟨above, below⟩ := inRange
  have low_defined : Word.analogMin ≠ .nan := by decide +kernel
  have high_defined : Word.analogMax ≠ .nan := by decide +kernel
  cases value with
  | nan => exact absurd below (by decide +kernel)
  | infinite negative =>
    have beyond : ∀ negative : Bool, ¬(Word.analogMin ≤ .infinite negative ∧
        Binary64.infinite negative ≤ Word.analogMax) := by decide +kernel
    exact absurd ⟨above, below⟩ (beyond negative)
  | finite negative significand exponent canonical =>
    have defined : Binary64.finite negative significand exponent canonical ≠ .nan := nofun
    rw [Binary64.le_iff low_defined defined] at above
    rw [Binary64.le_iff defined high_defined] at below
    rw [Bool.or_eq_false_iff, Bool.or_eq_false_iff, decide_eq_false_iff_not,
      decide_eq_false_iff_not, Binary64.lt_iff defined low_defined,
      Binary64.lt_iff high_defined defined]
    exact ⟨⟨rfl, not_lt.mpr above⟩, not_lt.mpr below⟩

/-- With a value in range an analog entry can be entered if its name is an analog channel. The bound
on the address holds on every built map, but is not assumed of this one. -/
theorem enterAnalog_iff {map : ChannelMap} {pairs : List LatchPair} {name : String}
    {value : Binary64} (inRange : InRange value) :
    (∃ next, enterAnalog map pairs name value = .ok next) ↔
      ∃ address < Channel.analogCount, map.resolve name .analog = .ok address := by
  constructor
  · rintro ⟨next, entered⟩
    obtain ⟨address, resolved, rest⟩ := bind_ok_iff.mp entered
    obtain ⟨pair, encoded, -⟩ := bind_ok_iff.mp rest
    rw [rejecting_ok_iff] at resolved encoded
    refine ⟨address, ?_, resolved⟩
    by_contra beyond
    rw [Word.encodeAnalog, if_pos (Nat.le_of_not_lt beyond)] at encoded
    contradiction
  · rintro ⟨address, inside, resolved⟩
    have encoded : ∃ pair, Word.encodeAnalog address value = .ok pair := by
      rw [Word.encodeAnalog, if_neg (Nat.not_le_of_lt inside), inRange.passes]
      exact ⟨_, rfl⟩
    obtain ⟨pair, encoded⟩ := encoded
    refine ⟨pairs ++ [pair], bind_ok_iff.mpr ⟨address, rejecting_ok_iff.mpr resolved, ?_⟩⟩
    refine bind_ok_iff.mpr ⟨pair, rejecting_ok_iff.mpr ?_, rfl⟩
    rw [encoded]
    rfl

/-- A digital entry can be entered if its name is a digital channel. -/
theorem enterDigital_iff {map : ChannelMap} {lines : List (Nat × Bool)} {name : String}
    {high : Bool} : (∃ next, enterDigital map lines name high = .ok next) ↔
      ∃ address, map.resolve name .digital = .ok address := by
  constructor
  · rintro ⟨next, entered⟩
    obtain ⟨address, resolved, -⟩ := bind_ok_iff.mp entered
    exact ⟨address, rejecting_ok_iff.mp resolved⟩
  · rintro ⟨address, resolved⟩
    refine ⟨lines ++ [(address, high)], ?_⟩
    rw [enterDigital, resolved]
    rfl

/-- A synthesizer entry can be entered if its name is a synthesizer channel whose place is free. Its
value does not matter, which may even be undefined. -/
theorem enterSynth_iff {map : ChannelMap} {row : SynthUpdate} {name : String}
    {value : Binary64} : (∃ next, enterSynth map row name value = .ok next) ↔
      ∃ (address : Nat) (inside : address < 4), map.resolve name .synth = .ok address ∧
        row[address] = none := by
  constructor
  · rintro ⟨next, entered⟩
    obtain ⟨address, inside, resolved, free, -⟩ := enterSynth_ok entered
    exact ⟨address, inside, resolved, free⟩
  · rintro ⟨address, inside, resolved, free⟩
    refine ⟨row.set address (some value), ?_⟩
    rw [enterSynth, resolved]
    change (if inside : address < 4 then _ else _) = _
    rw [dif_pos inside, free]
    rfl

/-- Synthesizer entries can be gone through exactly if no name comes twice, all of them are
synthesizer channels, and no two of them are for the same place. The row is empty at first. -/
theorem resolveSynth_iff {map : ChannelMap} {entries : List (String × Binary64)}
    (seen : List String) :
    (∃ result, resolveEntries (enterSynth map) (Vector.replicate 4 none) seen entries =
        .ok result) ↔
      (namesOf entries).Nodup ∧ (∀ name ∈ namesOf entries, name ∉ seen) ∧
        (∀ name ∈ namesOf entries, ∃ address < 4, map.resolve name .synth = .ok address) ∧
        (namesOf entries).Pairwise fun first second =>
          map.resolve first .synth ≠ map.resolve second .synth := by
  have all := @resolveEntries_iff _ _ (enterSynth map)
    (fun row entry => ∃ (address : Nat) (inside : address < 4),
      map.resolve entry.1 .synth = .ok address ∧ row[address] = none)
    (fun first second => map.resolve first.1 .synth ≠ map.resolve second.1 .synth) entries
    (fun _ _ _ => enterSynth_iff) ?_ (Vector.replicate 4 none) seen
  · rw [all]
    simp [namesOf, List.pairwise_map]
  · intro row next entry entered other
    obtain ⟨place, placeInside, resolved, free, rfl⟩ := enterSynth_ok entered
    constructor
    · rintro ⟨address, inside, found, still⟩
      have elsewhere : place ≠ address := by
        rintro rfl
        simp at still
      refine ⟨⟨address, inside, found, by simpa [elsewhere] using still⟩, ?_⟩
      rw [resolved, found]
      exact fun same => elsewhere (Except.ok.inj same)
    · rintro ⟨⟨address, inside, found, still⟩, apart⟩
      have elsewhere : place ≠ address := by
        intro same
        rw [resolved, found, same] at apart
        exact apart rfl
      exact ⟨address, inside, found, by simpa [elsewhere] using still⟩

/-- What the names of the three lists have to satisfy. Neither values nor the order of the names are
mentioned. -/
structure NamesResolve (map : ChannelMap) (analogNames digitalNames synthNames : List String) :
    Prop where
  /-- No name is given twice. -/
  distinct : (analogNames ++ (digitalNames ++ synthNames)).Nodup
  analog : ∀ name ∈ analogNames, ∃ address < Channel.analogCount,
    map.resolve name .analog = .ok address
  digital : ∀ name ∈ digitalNames, ∃ address, map.resolve name .digital = .ok address
  synth : ∀ name ∈ synthNames, ∃ address < 4, map.resolve name .synth = .ok address
  /-- No two names are for the same place of the row. -/
  places : synthNames.Pairwise fun first second =>
    map.resolve first .synth ≠ map.resolve second .synth

/-- No analog name is given twice. -/
theorem NamesResolve.nodup_analog {map : ChannelMap} {analog digital synth : List String}
    (resolve : NamesResolve map analog digital synth) : analog.Nodup :=
  (List.nodup_append'.mp resolve.distinct).1

/-- No digital name is given twice. -/
theorem NamesResolve.nodup_digital {map : ChannelMap} {analog digital synth : List String}
    (resolve : NamesResolve map analog digital synth) : digital.Nodup :=
  (List.nodup_append'.mp (List.nodup_append'.mp resolve.distinct).2.1).1

/-- All analog values of the update are in range. -/
def ValuesInRange (update : Update) : Prop := ∀ entry ∈ update.analog, InRange entry.2

instance (update : Update) : Decidable update.ValuesInRange :=
  inferInstanceAs (Decidable (∀ entry ∈ update.analog, InRange entry.2))

/-- With all analog values in range, an update resolves exactly if its names do. Nothing is assumed
of the map, which need not be built.

Proof: the three lists are gone through one after the other, with the names of the earlier ones seen
already, and each of them succeeds by its names. -/
theorem resolve_iff {map : ChannelMap} {update : Update} (inRange : update.ValuesInRange) :
    (∃ resolved, update.resolve map = .ok resolved) ↔
      NamesResolve map (namesOf update.analog) (namesOf update.digital) (namesOf update.synth) := by
  have analog := @resolveEntries_iff_names _ _ (enterAnalog map)
    (fun name => ∃ address < Channel.analogCount, map.resolve name .analog = .ok address)
    update.analog (fun pairs entry listed => enterAnalog_iff (inRange entry listed)) [] []
  have digital := @resolveEntries_iff_names _ _ (enterDigital map)
    (fun name => ∃ address, map.resolve name .digital = .ok address) update.digital
    (fun lines entry _ => enterDigital_iff) []
  have synth := @resolveSynth_iff map update.synth
  constructor
  · rintro ⟨resolved, accepted⟩
    obtain ⟨⟨pairs, seen⟩, analogDone, afterAnalog⟩ := bind_ok_iff.mp accepted
    obtain ⟨⟨lines, seenToo⟩, digitalDone, afterDigital⟩ := bind_ok_iff.mp afterAnalog
    obtain ⟨result, synthDone, -⟩ := bind_ok_iff.mp afterDigital
    obtain ⟨analogOnce, -, analogNames⟩ := analog.mp ⟨_, analogDone⟩
    obtain ⟨digitalOnce, digitalNew, digitalNames⟩ := (digital seen).mp ⟨_, digitalDone⟩
    obtain ⟨synthOnce, synthNew, synthNames, places⟩ := (synth seenToo).mp ⟨_, synthDone⟩
    refine ⟨?_, analogNames, digitalNames, synthNames, places⟩
    rw [List.nodup_append', List.nodup_append']
    refine ⟨analogOnce, ⟨digitalOnce, synthOnce, ?_⟩, ?_⟩
    · intro name inDigital inSynth
      exact synthNew name inSynth ((mem_seen_iff digitalDone name).mpr (.inr inDigital))
    · intro name inAnalog later
      have old : name ∈ seen := (mem_seen_iff analogDone name).mpr (.inr inAnalog)
      rcases List.mem_append.mp later with inDigital | inSynth
      · exact digitalNew name inDigital old
      · exact synthNew name inSynth ((mem_seen_iff digitalDone name).mpr (.inl old))
  · rintro ⟨distinct, analogNames, digitalNames, synthNames, places⟩
    rw [List.nodup_append', List.nodup_append'] at distinct
    obtain ⟨analogOnce, ⟨digitalOnce, synthOnce, apartLater⟩, apart⟩ := distinct
    obtain ⟨⟨pairs, seen⟩, analogDone⟩ := analog.mpr ⟨analogOnce, by simp, analogNames⟩
    have seenNow (name : String) : name ∈ seen ↔ name ∈ namesOf update.analog := by
      rw [mem_seen_iff analogDone]
      simp
    have digitalNew : ∀ name ∈ namesOf update.digital, name ∉ seen := by
      intro name listed old
      exact apart ((seenNow name).mp old) (List.mem_append_left _ listed)
    obtain ⟨⟨lines, seenToo⟩, digitalDone⟩ :=
      (digital seen).mpr ⟨digitalOnce, digitalNew, digitalNames⟩
    have synthNew : ∀ name ∈ namesOf update.synth, name ∉ seenToo := by
      intro name listed old
      rcases (mem_seen_iff digitalDone name).mp old with older | inDigital
      · exact apart ((seenNow name).mp older) (List.mem_append_right _ listed)
      · exact apartLater inDigital listed
    obtain ⟨⟨row, last⟩, synthDone⟩ := (synth seenToo).mpr ⟨synthOnce, synthNew, synthNames, places⟩
    exact ⟨_, bind_ok_iff.mpr ⟨_, analogDone, bind_ok_iff.mpr ⟨_, digitalDone,
      bind_ok_iff.mpr ⟨_, synthDone, rfl⟩⟩⟩⟩

end Update

end PulseProgram

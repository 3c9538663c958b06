import PulseProgram.Proofs.Update.LatchWords
import PulseProgram.Proofs.Update.Names
import PulseProgram.Proofs.Word.Lines

/-!
# Updates with the same names

Two updates that last equally long and name the same channels are accepted by the names alone,
whatever values they give and in whatever order they list them. If the values agree too, they
put the same words on the line boards, ask for the same row, and their analog pairs are the same
up to their order.
-/

namespace PulseProgram

namespace Update

/-- Two updates last equally long and name the same channels in each list, in any order. Their
values may differ. -/
structure Similar (first second : Update) : Prop where
  duration : first.duration = second.duration
  analog : (namesOf first.analog).Perm (namesOf second.analog)
  digital : (namesOf first.digital).Perm (namesOf second.digital)
  synth : (namesOf first.synth).Perm (namesOf second.synth)

/-- Similar updates with all analog values in range. -/
structure Comparable (first second : Update) : Prop extends Similar first second where
  firstInRange : first.ValuesInRange
  secondInRange : second.ValuesInRange

/-- Comparable updates that give the same value to each name. -/
structure Agrees (first second : Update) : Prop extends Comparable first second where
  analogValues : ∀ entry, entry ∈ first.analog ↔ entry ∈ second.analog
  digitalValues : ∀ entry, entry ∈ first.digital ↔ entry ∈ second.digital
  synthValues : ∀ entry, entry ∈ first.synth ↔ entry ∈ second.synth

/-- Whether names resolve does not depend on their order, list by list. -/
theorem NamesResolve.perm {map : ChannelMap} {analog digital synth analog' digital' synth' :
    List String} (resolve : NamesResolve map analog digital synth)
    (sameAnalog : analog.Perm analog') (sameDigital : digital.Perm digital')
    (sameSynth : synth.Perm synth') : NamesResolve map analog' digital' synth' where
  distinct := (sameAnalog.append (sameDigital.append sameSynth)).nodup_iff.mp resolve.distinct
  analog name listed := resolve.analog name (sameAnalog.mem_iff.mpr listed)
  digital name listed := resolve.digital name (sameDigital.mem_iff.mpr listed)
  synth name listed := resolve.synth name (sameSynth.mem_iff.mpr listed)
  places := (sameSynth.pairwise_iff Ne.symm).mp resolve.places

namespace Similar

variable {first second : Update}

/-- Being similar goes both ways. -/
theorem symm (similar : Similar first second) : Similar second first :=
  ⟨similar.duration.symm, similar.analog.symm, similar.digital.symm, similar.synth.symm⟩

/-- Lists with the same names are empty together. -/
theorem isEmpty_eq {α : Type} {entries other : List (String × α)}
    (same : (namesOf entries).Perm (namesOf other)) : entries.isEmpty = other.isEmpty := by
  have lengths := same.length_eq
  simp only [namesOf, List.length_map] at lengths
  cases entries with
  | nil =>
    cases other with
    | nil => rfl
    | cons => contradiction
  | cons =>
    cases other with
    | nil => contradiction
    | cons => rfl

/-- Similar updates have as many latch words, so their regions before the same boundary are the
same. -/
theorem latchLength_eq (similar : Similar first second) :
    first.latchLength = second.latchLength := by
  have lengths := similar.analog.length_eq
  simp only [namesOf, List.length_map] at lengths
  rw [latchLength, latchLength, lengths, isEmpty_eq similar.digital]

end Similar

namespace Comparable

variable {first second : Update}

/-- Being comparable goes both ways. -/
theorem symm (comparable : Comparable first second) : Comparable second first :=
  ⟨comparable.toSimilar.symm, comparable.secondInRange, comparable.firstInRange⟩

/-- Of comparable updates both resolve or neither does. The cause of a refusal may differ, since the
first name that is refused depends on the order. -/
theorem resolves {map : ChannelMap} (comparable : Comparable first second)
    (resolved : ∃ resolved, first.resolve map = .ok resolved) :
    ∃ resolved, second.resolve map = .ok resolved := by
  have names := (resolve_iff comparable.firstInRange).mp resolved
  exact (resolve_iff comparable.secondInRange).mpr
    (names.perm comparable.analog comparable.digital comparable.synth)

end Comparable

namespace Agrees

variable {first second : Update} {map : ChannelMap} {firstResolved secondResolved : ResolvedUpdate}

/-- Entries with distinct names that agree are the same up to their order. Names that come twice
could hide an entry that comes more often in one list. -/
theorem perm_of_distinct {α : Type} {entries other : List (String × α)}
    (same : (namesOf entries).Perm (namesOf other)) (distinct : (namesOf entries).Nodup)
    (values : ∀ entry, entry ∈ entries ↔ entry ∈ other) : entries.Perm other := by
  have otherDistinct := same.nodup_iff.mp distinct
  exact (List.perm_ext_iff_of_nodup (List.Nodup.of_map _ distinct)
    (List.Nodup.of_map _ otherDistinct)).mpr fun entry => values entry

/-- Accepted updates that agree give the same value to each synthesizer channel, since no channel
has two entries in either. -/
theorem given?_eq (agrees : Agrees first second)
    (firstAccepted : first.resolve map = .ok firstResolved)
    (secondAccepted : second.resolve map = .ok secondResolved) (address : Fin 4) :
    first.given? map address = second.given? map address := by
  apply Option.ext
  intro value
  rw [given?_eq_some_iff firstAccepted, given?_eq_some_iff secondAccepted]
  simp only [agrees.synthValues]

/-- Updates that agree put the same words on the line boards, word for word: the boards depend on
the set of lines alone. -/
theorem lineWords_eq (agrees : Agrees first second)
    (distinct : (namesOf first.digital).Nodup) : first.lineWords map = second.lineWords map := by
  have same := perm_of_distinct agrees.digital distinct agrees.digitalValues
  have lines := same.filterMap (digitalLine? map)
  rw [lineWords, lineWords, Similar.isEmpty_eq agrees.digital,
    Word.encodeDigital_congr fun _ _ => lines.mem_iff]

/-- The analog pairs of updates that agree are the same up to their order, since each pair is told
by its own entry. -/
theorem pairs_perm (agrees : Agrees first second) (distinct : (namesOf first.analog).Nodup)
    (firstResolves : first.ResolvesTo map firstResolved)
    (secondResolves : second.ResolvesTo map secondResolved) :
    firstResolved.analog.Perm secondResolved.analog := by
  have same := perm_of_distinct agrees.analog distinct agrees.analogValues
  have pairs := (same.map (analogPair? map)).filterMap id
  rw [firstResolves.analog, secondResolves.analog] at pairs
  simpa [List.filterMap_map] using pairs

end Agrees

end Update

end PulseProgram

import PulseProgram.Proofs.Sequencer.CarryForward
import PulseProgram.Proofs.Sequencer.Decoding
import PulseProgram.Proofs.Sequencer.Lockstep
import PulseProgram.Proofs.Sequencer.WholeTicks

/-!
# Runs with the same values

Runs in lockstep whose updates also give the same values to the same names finish with almost
the same program. The rows are the same, and so are all words outside the analog pairs, those of
the line boards among them. The pairs of an update stand in the order in which it lists its
analog channels, so they are the same up to their order.

The triggers are laid over the pairs, and where they stand does not depend on the order. So
the pairs are compared without them.
-/

namespace PulseProgram

namespace Word

/-- The word without the two triggers. -/
def untriggered (word : Word) : Word := word &&& ~~~(epochTrigger ||| synthTrigger)

/-- The triggers are taken off each part of a joined word. -/
theorem untriggered_or (first second : Word) :
    (first ||| second).untriggered = first.untriggered ||| second.untriggered := by
  rw [untriggered, BitVec.and_or_distrib_right, untriggered, untriggered]

/-- A latch word has no triggers to lose. -/
theorem IsLatch.untriggered_eq {word : Word} (latch : IsLatch word) : word.untriggered = word := by
  have clear : word &&& (epochTrigger ||| synthTrigger) = 0#32 := by
    rw [BitVec.and_or_distrib_left, latch.no_epoch, latch.no_synth]
    rfl
  calc word.untriggered
      = word &&& ~~~(epochTrigger ||| synthTrigger) |||
          word &&& (epochTrigger ||| synthTrigger) := by rw [clear, BitVec.or_zero, untriggered]
    _ = word := by
        rw [← BitVec.and_or_distrib_left, BitVec.or_comm, BitVec.or_not_self, BitVec.and_allOnes]

end Word

/-- The word of a program at a step, and zero beyond its end. -/
def Program.wordAt (program : Program) (step : Nat) : Word :=
  program.waveform.toList[step]?.getD 0#32

namespace Update

/-- The number of words for the line boards: six if any digital channel is named. -/
def lineLength (update : Update) : Nat := if update.digital.isEmpty then 0 else 6

/-- The words for the line boards are as many as the names ask for, in whatever map. -/
theorem length_lineWords (map : ChannelMap) (update : Update) :
    (update.lineWords map).length = update.lineLength := by
  rw [lineWords, lineLength]
  split <;> rfl

/-- Updates whose entries are the same up to their order agree. Only the values of the first one
have to be in range, since the second one has the same. -/
theorem Agrees.of_perm {first second : Update} (inRange : first.ValuesInRange)
    (duration : first.duration = second.duration) (analog : first.analog.Perm second.analog)
    (digital : first.digital.Perm second.digital) (synth : first.synth.Perm second.synth) :
    first.Agrees second where
  duration := duration
  analog := analog.map Prod.fst
  digital := digital.map Prod.fst
  synth := synth.map Prod.fst
  firstInRange := inRange
  secondInRange entry listed := inRange entry (analog.mem_iff.mpr listed)
  analogValues _ := analog.mem_iff
  digitalValues _ := digital.mem_iff
  synthValues _ := synth.mem_iff

end Update

namespace Placed

/-- The step has a word of the line boards. These words stand right before the boundary. -/
def LineAt (placed : Placed) (step : Nat) : Prop :=
  placed.boundary ≤ step + placed.update.lineLength ∧ step < placed.boundary

/-- The step has a word of an analog pair. The pairs stand before the words of the line boards. -/
def PairAt (placed : Placed) (step : Nat) : Prop :=
  placed.boundary ≤ step + placed.update.latchLength ∧
    step + placed.update.lineLength < placed.boundary

/-- The analog pairs of a placed update as they stand in a program, the one next to the line boards
first. They are read without the triggers that may be laid over them. -/
def pairsIn (program : Program) (placed : Placed) : List LatchPair :=
  (List.range placed.update.analog.length).map fun index =>
    let stop := placed.boundary - placed.update.lineLength - 2 * index
    ⟨(program.wordAt (stop - 2)).untriggered, (program.wordAt (stop - 1)).untriggered⟩

/-- Updates that agree, placed at the same boundary, both of which resolve in the map. -/
structure Agrees (map : ChannelMap) (one other : Placed) : Prop where
  boundary : one.boundary = other.boundary
  agrees : one.update.Agrees other.update
  firstResolves : ∃ resolved, one.update.resolve map = .ok resolved
  secondResolves : ∃ resolved, other.update.resolve map = .ok resolved

section Pairs

variable {map : ChannelMap} {one other : Placed} {resolved : ResolvedUpdate} {pair : LatchPair}

/-- Behind the words of the line boards every second step begins another pair, counted back from
the boundary. The word at the greater distance is the strobed one. -/
theorem latchWord?_behind_lines {index step distance : Nat}
    (found : one.update.analog[index]?.bind (Update.analogPair? map) = some pair)
    (before : one.boundary - step = distance) (beyond : one.update.lineLength < distance)
    (place : (distance - one.update.lineLength - 1) / 2 = index) :
    one.latchWord? map step =
      some (if (distance - one.update.lineLength) % 2 = 0 then pair.strobed else pair.plain) := by
  rw [latchWord?, if_pos (by omega), before, Update.latchWordBefore?]
  simp only [Update.length_lineWords, Nat.not_le_of_lt beyond, if_false]
  rw [place, found]
  rfl

/-- The words of a pair stand where the pairs are read. Counted back from the boundary, the pair
lies behind the words of the line boards and the pairs given before it. -/
theorem latchWord?_pair (resolves : one.update.ResolvesTo map resolved)
    (room : one.update.latchLength ≤ one.boundary) {index : Nat}
    (stored : resolved.analog[index]? = some pair) :
    one.latchWord? map (one.boundary - one.update.lineLength - 2 * index - 2) =
        some pair.strobed ∧
      one.latchWord? map (one.boundary - one.update.lineLength - 2 * index - 1) =
        some pair.plain := by
  have inside := (List.getElem?_eq_some_iff.mp stored).1
  have total := resolves.latchLength_split
  rw [Update.length_lineWords] at total
  have found : one.update.analog[index]?.bind (Update.analogPair? map) = some pair :=
    (resolves.analog_getElem? index).trans stored
  constructor
  · have before : one.boundary - (one.boundary - one.update.lineLength - 2 * index - 2) =
        one.update.lineLength + 2 * index + 2 := by omega
    rw [latchWord?_behind_lines found before (by omega) (by omega), if_pos (by omega)]
  · have before : one.boundary - (one.boundary - one.update.lineLength - 2 * index - 1) =
        one.update.lineLength + 2 * index + 1 := by omega
    rw [latchWord?_behind_lines found before (by omega) (by omega), if_neg (by omega)]

/-- Outside the pairs, placed updates that agree have the same latch words. The step may be any at
all, inside the region of the update or not.

Proof: right before the boundary stand the words of the line boards, which do not depend on the
order of the entries, and behind the pairs stands nothing. -/
theorem Agrees.latchWord?_eq (agrees : one.Agrees map other) {step : Nat}
    (outside : ¬one.PairAt step) : one.latchWord? map step = other.latchWord? map step := by
  obtain ⟨boundary, agrees, ⟨firstResolved, firstAccepted⟩, secondResolved, secondAccepted⟩ :=
    agrees
  have firstResolves := Update.resolve_ok firstAccepted
  have secondResolves := Update.resolve_ok secondAccepted
  have names := (Update.resolve_iff agrees.firstInRange).mp ⟨firstResolved, firstAccepted⟩
  rw [latchWord?, latchWord?, boundary]
  by_cases before : step < other.boundary
  · rw [if_pos before, if_pos before]
    by_cases line : other.boundary - step ≤ one.update.lineLength
    · have same : one.update.lineWords map = other.update.lineWords map :=
        agrees.lineWords_eq names.nodup_digital
      have within : other.boundary - step ≤ (other.update.lineWords map).length := by
        rwa [← same, Update.length_lineWords]
      simp only [Update.latchWordBefore?, same, within, if_true]
    · have beyond : one.update.latchLength < other.boundary - step := by
        rw [PairAt, boundary] at outside
        omega
      rw [firstResolves.latchWordBefore?_of_lt beyond, secondResolves.latchWordBefore?_of_lt]
      rwa [← agrees.latchLength_eq]
  · rw [if_neg before, if_neg before]

/-- Placed updates that agree come with a row together. -/
theorem Agrees.hasRow_eq (agrees : one.Agrees map other) : one.hasRow = other.hasRow := by
  rw [hasRow, hasRow, Update.Similar.isEmpty_eq agrees.agrees.synth]

/-- Placed updates that agree have their pulses at the same steps. -/
theorem Agrees.pulses_eq (agrees : one.Agrees map other) (width step : Nat) :
    one.pulses width step = other.pulses width step := by
  rw [pulses, pulses, agrees.hasRow_eq, agrees.boundary]

end Pairs

end Placed

section Superposed

variable {map : ChannelMap} {config : Config} {width step : Nat} {lefts rights : List Placed}

/-- Of placed updates that agree, one has a property exactly if the other one has it, where agreeing
keeps the property. -/
theorem any_eq_of_agrees {property : Placed → Bool}
    (agree : List.Forall₂ (Placed.Agrees map) lefts rights)
    (keeps : ∀ one other : Placed, one.Agrees map other → property one = property other) :
    lefts.any property = rights.any property := by
  induction agree with
  | nil => rfl
  | cons agrees _ inductionHypothesis =>
    rw [List.any_cons, List.any_cons, keeps _ _ agrees, inductionHypothesis]

/-- Outside the pairs, placed updates that agree make the same words, triggers included. That the
updates were placed by a run is not assumed.

Proof: the first latch word found, the boundaries and the pulses are each the same on both sides, by
induction on the pairs of updates. -/
theorem superposed_eq_of_agrees (agree : List.Forall₂ (Placed.Agrees map) lefts rights)
    (outside : ∀ one ∈ lefts, ¬one.PairAt step) :
    superposed map width lefts step = superposed map width rights step := by
  have latch : lefts.findSome? (·.latchWord? map step) =
      rights.findSome? (·.latchWord? map step) := by
    induction agree with
    | nil => rfl
    | cons agrees _ inductionHypothesis =>
      rw [List.findSome?_cons, List.findSome?_cons,
        agrees.latchWord?_eq (outside _ List.mem_cons_self),
        inductionHypothesis fun one listed => outside one (List.mem_cons_of_mem _ listed)]
  have epoch : lefts.any (·.boundary = step) = rights.any (·.boundary = step) :=
    any_eq_of_agrees agree fun one other agrees => by rw [agrees.boundary]
  have synth : lefts.any (·.pulses width step) = rights.any (·.pulses width step) :=
    any_eq_of_agrees agree fun one other agrees => agrees.pulses_eq width step
  rw [superposed, superposed, latch, epoch, synth]

/-- Without the triggers, the word at a step with a latch word is that latch word. For this no other
update may have a latch word there. -/
theorem superposed_untriggered {one : Placed} {word : Word} (fits : one.Fits map config)
    (single : lefts.Pairwise fun earlier later =>
      ∀ step, earlier.latchWord? map step = none ∨ later.latchWord? map step = none)
    (member : one ∈ lefts) (put : one.latchWord? map step = some word) :
    (superposed map width lefts step).untriggered = word := by
  have latch := fits.latchWord?_isLatch put
  rw [superposed, findSome?_latchWord? single member put, Word.untriggered_or,
    Word.untriggered_or, Option.getD_some, latch.untriggered_eq]
  split <;> split <;> simp [Word.untriggered, Word.epochTrigger, Word.synthTrigger]

/-- A step in the words of the line boards of an update is in no pair of any update: its own pairs
lie further back, and a pair of another one would put a second latch word there. -/
theorem not_pairAt_of_lineAt (fits : ∀ one ∈ lefts, one.Fits map config)
    (single : lefts.Pairwise fun earlier later =>
      ∀ step, earlier.latchWord? map step = none ∨ later.latchWord? map step = none)
    {one : Placed} (member : one ∈ lefts) (line : one.LineAt step) :
    ∀ other ∈ lefts, ¬other.PairAt step := by
  intro other stored pair
  obtain ⟨lineAfter, lineBefore⟩ := line
  obtain ⟨pairAfter, pairBefore⟩ := pair
  have apart : Std.Symm fun earlier later : Placed =>
      ∀ step, earlier.latchWord? map step = none ∨ later.latchWord? map step = none :=
    ⟨fun _ _ free step => (free step).symm⟩
  by_cases same : one = other
  · subst same
    omega
  · have shorter : one.update.lineLength ≤ one.update.latchLength := Nat.le_add_left _ _
    have lineWord := ((fits one member).latchWord?_isSome step).mpr ⟨by omega, lineBefore⟩
    have pairWord := ((fits other stored).latchWord?_isSome step).mpr ⟨pairAfter, by omega⟩
    rcases single.forall member stored same step with none | none
    · rw [none] at lineWord
      contradiction
    · rw [none] at pairWord
      contradiction

end Superposed

namespace Sequencer

/-- The rows of updates depend on what each of them gives to the channels. -/
theorem latestRows_congr {channels : ChannelMap} {firsts seconds : List Update}
    (same : ∀ address : Fin 4, firsts.map (·.given? channels address) =
      seconds.map (·.given? channels address)) :
    latestRows channels firsts = latestRows channels seconds := by
  have lengths : firsts.length = seconds.length := by simpa using congrArg List.length (same 0)
  have row (number : Nat) : latestRow channels (firsts.take number) =
      latestRow channels (seconds.take number) := by
    have values (updates : List Update) (address : Fin 4) :
        latest channels (updates.take number) address =
          (((updates.map (·.given? channels address)).take number).reverse.findSome?
            id).getD 0 := by
      rw [← List.map_take, ← List.map_reverse, List.findSome?_map, latest, Function.id_comp]
    apply congrArg Vector.ofFn
    funext address
    rw [values, values, same]
  rw [latestRows, latestRows, lengths]
  exact List.map_congr_left fun number _ => row (number + 1)

/-- Of updates that agree, those with a row give the same values. -/
theorem given?_withRow_eq {channels : ChannelMap} {lefts rights : List Placed}
    (agree : List.Forall₂ (Placed.Agrees channels) lefts rights) (address : Fin 4) :
    (withRow (lefts.map (·.update))).map (·.given? channels address) =
      (withRow (rights.map (·.update))).map (·.given? channels address) := by
  induction agree with
  | nil => rfl
  | @cons one other lefts rights agrees _ inductionHypothesis =>
    obtain ⟨-, agrees, ⟨firstResolved, firstAccepted⟩, secondResolved, secondAccepted⟩ := agrees
    have given := agrees.given?_eq firstAccepted secondAccepted address
    have named := Update.Similar.isEmpty_eq agrees.synth
    rw [withRow, withRow] at inductionHypothesis ⊢
    rw [List.map_cons, List.map_cons, List.filter_cons, List.filter_cons, named]
    split
    · rw [List.map_cons, List.map_cons, given, inductionHypothesis]
    · exact inductionHypothesis

/-- A word of the finished program is the word on the timeline, up to the cursor. -/
theorem finish_wordAt (sequencer : Sequencer) (step : Nat) :
    sequencer.finish.wordAt step =
      if step < min sequencer.step sequencer.timeline.capacity then
        sequencer.timeline.wordAt step
      else 0#32 := by
  rw [Program.wordAt, finish, Timeline.view_toList, List.getElem?_take]
  split <;> rfl

/-- Two finished programs that differ at most in the order of the analog pairs within an update. The
lists are the updates that were placed on each side. -/
structure SameUpToPairOrder (left right : Program) (lefts rights : List Placed) : Prop where
  rows : left.rows = right.rows
  sampleCount : left.sampleCount = right.sampleCount
  /-- The words for the line boards are the same. -/
  lines : ∀ one ∈ lefts, ∀ step, one.LineAt step → left.wordAt step = right.wordAt step
  /-- All words are the same but those of pairs. -/
  elsewhere : ∀ step, (∀ one ∈ lefts, ¬one.PairAt step) → left.wordAt step = right.wordAt step
  /-- The pairs of each update are the same up to their order. -/
  pairs : List.Forall₂ (fun one other => one.boundary = other.boundary ∧
    (one.pairsIn left).Perm (other.pairsIn right)) lefts rights

section Chains

variable {channels : ChannelMap} {config : Config} {initial left right sequencer : Sequencer}
  {placed lefts rights : List Placed}

/-- The cursor has passed every boundary or stands at it, wherever it started. Neither a finite
start nor one after time zero is assumed. -/
theorem Reaches.boundary_le (reached : initial.Reaches placed sequencer) :
    ∀ one ∈ placed, one.boundary ≤ sequencer.step := by
  induction reached with
  | initial =>
    intro one absent
    exact absurd absent List.not_mem_nil
  | @place placed sequencer next update boundary reached applied inductionHypothesis =>
    obtain ⟨rfl, resolved, accepts, follows⟩ := apply_ok applied
    have later : sequencer.step ≤ next.step := by
      rw [step, step, follows.ticks]
      by_cases nonneg : 0 ≤ sequencer.ticks
      · exact stepAt_le_advanced nonneg accepts.spans
      · rw [stepAt_of_not_nonneg nonneg]
        exact Nat.zero_le _
    intro one member
    rcases List.mem_append.mp member with old | new
    · exact (inductionHypothesis one old).trans later
    · obtain rfl := List.mem_singleton.mp new
      exact later

/-- The pairs of a placed update are found in the finished program, in the order in which the update
lists its analog channels.

Proof: each word of a pair stands at a step before the cursor, where the superposition holds it and
nothing else but triggers. -/
theorem Starts.pairsIn_finish (starts : Starts channels config initial)
    (reached : initial.Reaches placed sequencer) {one : Placed} (member : one ∈ placed)
    {resolved : ResolvedUpdate} (resolves : one.update.ResolvesTo channels resolved) :
    one.pairsIn sequencer.finish = resolved.analog := by
  have fits := starts.fits_of_reaches reached one member
  have inside : one.boundary ≤ min sequencer.step sequencer.timeline.capacity := by
    rw [(starts.keeps_of_reaches reached).capacity]
    exact le_min (reached.boundary_le one member) fits.inside.le
  have word {step : Nat} {word : Word} (put : one.latchWord? channels step = some word) :
      (sequencer.finish.wordAt step).untriggered = word := by
    have region := (fits.latchWord?_isSome step).mp (by rw [put]; rfl)
    rw [finish_wordAt, if_pos (region.2.trans_le inside), starts.words_of_reaches reached]
    exact superposed_untriggered fits (starts.latch_single reached) member put
  refine List.ext_getElem ?_ fun index _ stored => ?_
  · rw [Placed.pairsIn, List.length_map, List.length_range, resolves.length_analog]
  · obtain ⟨strobed, plain⟩ :=
      Placed.latchWord?_pair resolves fits.room (List.getElem?_eq_getElem stored)
    simp only [Placed.pairsIn, List.getElem_map, List.getElem_range, word strobed, word plain]

/-- Runs in lockstep whose placed updates agree finish with the same program up to the order of
pairs.

Proof: the words outside the pairs are equal superpositions, the rows are equal latest values, and
the pairs of an update are found in both programs, where agreeing makes them permutations. -/
theorem Lockstep.sameUpToPairOrder (lockstep : Lockstep left right)
    (starts : Starts channels config initial) (leftReached : initial.Reaches lefts left)
    (rightReached : initial.Reaches rights right)
    (agree : List.Forall₂ (Placed.Agrees channels) lefts rights) :
    SameUpToPairOrder left.finish right.finish lefts rights := by
  have elsewhere (step : Nat) (outside : ∀ one ∈ lefts, ¬one.PairAt step) :
      left.finish.wordAt step = right.finish.wordAt step := by
    rw [finish_wordAt, finish_wordAt, lockstep.step_eq, lockstep.capacity,
      starts.words_of_reaches leftReached, starts.words_of_reaches rightReached,
      superposed_eq_of_agrees agree outside]
  refine ⟨?_, ?_, ?_, elsewhere, ?_⟩
  · rw [finish, finish, starts.rows_of_reaches leftReached, starts.rows_of_reaches rightReached]
    exact latestRows_congr (given?_withRow_eq agree)
  · rw [sampleCount_finish, sampleCount_finish, lockstep.step_eq, lockstep.capacity]
  · intro one member step line
    exact elsewhere step (not_pairAt_of_lineAt (starts.fits_of_reaches leftReached)
      (starts.latch_single leftReached) member line)
  · rw [List.forall₂_iff_zip] at agree ⊢
    refine ⟨agree.1, fun {one other} paired => ?_⟩
    obtain ⟨boundary, agrees, ⟨firstResolved, firstAccepted⟩, secondResolved, secondAccepted⟩ :=
      agree.2 paired
    obtain ⟨leftMember, rightMember⟩ := List.of_mem_zip paired
    have firstResolves := Update.resolve_ok firstAccepted
    have secondResolves := Update.resolve_ok secondAccepted
    have names := (Update.resolve_iff agrees.firstInRange).mp ⟨firstResolved, firstAccepted⟩
    refine ⟨boundary, ?_⟩
    rw [starts.pairsIn_finish leftReached leftMember firstResolves,
      starts.pairsIn_finish rightReached rightMember secondResolves]
    exact agrees.pairs_perm names.nodup_analog firstResolves secondResolves

/-- Of runs in lockstep whose updates agree, the placed updates agree. They resolve because they
were placed. -/
theorem Starts.placed_agree (starts : Starts channels config initial) {firsts seconds : List Update}
    (same : List.Forall₂ (fun one other : Placed => one.boundary = other.boundary ∧
      one.update.Agrees other.update) (initial.placed firsts) (initial.placed seconds)) :
    List.Forall₂ (Placed.Agrees channels) (initial.placed firsts) (initial.placed seconds) := by
  rw [List.forall₂_iff_zip] at same ⊢
  refine ⟨same.1, fun {one other} paired => ?_⟩
  obtain ⟨boundary, agrees⟩ := same.2 paired
  obtain ⟨firstMember, secondMember⟩ := List.of_mem_zip paired
  exact ⟨boundary, agrees,
    starts.resolves_of_reaches (run_reaches initial firsts) one firstMember,
    starts.resolves_of_reaches (run_reaches initial seconds) other secondMember⟩

end Chains

/-! ## Runs -/

/-- Two runs from one start whose updates last equally long and name the same channels place the
same updates at the same boundaries, and after each update they are in lockstep. If the updates also
give the same values, the programs are the same up to the order of pairs. Neither a built map nor a
finite start is assumed, and the faults of refused updates may differ.

Proof: a sequencer is in lockstep with itself, and from there the runs of any number of updates stay
so. What they have placed agrees, which leaves only the order of the pairs open. -/
theorem run_lockstep {channels : ChannelMap} {config : Config} {initial : Sequencer}
    (started : start channels config = .ok initial) {firsts seconds : List Update}
    (comparable : List.Forall₂ Update.Comparable firsts seconds) :
    (initial.run firsts).1.map (·.toOption) = (initial.run seconds).1.map (·.toOption) ∧
      (∀ count, Lockstep (initial.run (firsts.take count)).2
        (initial.run (seconds.take count)).2) ∧
      (List.Forall₂ Update.Agrees firsts seconds → ∀ count,
        SameUpToPairOrder (initial.run (firsts.take count)).2.finish
          (initial.run (seconds.take count)).2.finish
          (initial.placed (firsts.take count)) (initial.placed (seconds.take count))) := by
  have starts := start_ok started
  refine ⟨((Lockstep.refl initial).run id comparable).1, fun count => ?_, fun agree count => ?_⟩
  · exact ((Lockstep.refl initial).run id (List.forall₂_take count comparable)).2.1
  · obtain ⟨-, lockstep, placed⟩ :=
      (Lockstep.refl initial).run Update.Agrees.toComparable (List.forall₂_take count agree)
    exact lockstep.sameUpToPairOrder starts (run_reaches initial _) (run_reaches initial _)
      (starts.placed_agree placed)

namespace Sample

/-- Two analog channels and two of the synthesizer. -/
def pairedChannels : ChannelMap :=
  ⟨[⟨"a", .analog, 0⟩, ⟨"b", .analog, 1⟩, ⟨"f", .synth, 0⟩, ⟨"g", .synth, 1⟩]⟩

/-- Updates with several names each. The second of them is not placed. -/
def listedUpdates : List Update := [
  { duration := 4e-6, analog := [("a", 1), ("b", -2)], synth := [("f", 1), ("g", 2)] },
  { duration := 4e-6, analog := [("a", 3), ("b", 4)] },
  { duration := 4e-6, analog := [("b", 5)] }]

/-- The same updates with their names listed the other way round. -/
def turnedUpdates : List Update := [
  { duration := 4e-6, analog := [("b", -2), ("a", 1)], synth := [("g", 2), ("f", 1)] },
  { duration := 4e-6, analog := [("b", 4), ("a", 3)] },
  { duration := 4e-6, analog := [("b", 5)] }]

/-- The order is all that differs. -/
theorem turnedUpdates_agree : List.Forall₂ Update.Agrees listedUpdates turnedUpdates := by
  refine .cons ?_ (.cons ?_ (.cons ?_ .nil))
  · exact .of_perm (by decide +kernel) rfl (.swap ..) .nil (.swap ..)
  · exact .of_perm (by decide +kernel) rfl (.swap ..) .nil .nil
  · exact .of_perm (by decide +kernel) rfl (.refl _) .nil .nil

end Sample

/-- Names listed the other way round leave a run in lockstep, refused update included. -/
theorem run_lockstep_sample : ∃ initial,
    start Sample.pairedChannels Sample.config = .ok initial ∧
    List.Forall₂ Update.Comparable Sample.listedUpdates Sample.turnedUpdates ∧
    (initial.run Sample.listedUpdates).1.map (·.toOption) =
      (initial.run Sample.turnedUpdates).1.map (·.toOption) ∧
    (initial.run Sample.listedUpdates).1.map (·.toOption) = [some 8, none, some 12] ∧
    ∀ count, SameUpToPairOrder (initial.run (Sample.listedUpdates.take count)).2.finish
      (initial.run (Sample.turnedUpdates.take count)).2.finish
      (initial.placed (Sample.listedUpdates.take count))
      (initial.placed (Sample.turnedUpdates.take count)) := by
  obtain ⟨initial, started, placed⟩ : ∃ initial,
      start Sample.pairedChannels Sample.config = .ok initial ∧
      (initial.run Sample.listedUpdates).1.map (·.toOption) = [some 8, none, some 12] := by
    apply started_of_evaluated
    decide +kernel
  have agree := Sample.turnedUpdates_agree
  have comparable := agree.imp fun _ _ => Update.Agrees.toComparable
  obtain ⟨outcomes, -, same⟩ := run_lockstep started comparable
  exact ⟨initial, started, comparable, outcomes, placed, same agree⟩

end Sequencer

end PulseProgram

import PulseProgram.Proofs.Sequencer.Runs

/-!
# The timeline as the superposition of the placed updates

Every placed update says for each step what it puts there: a latch word in the region right
before its boundary, the epoch trigger at the boundary, the synthesizer trigger over the
pulse of its row. The words of a timeline are these contributions laid over each other, for
every run of updates. Latch words of different updates never meet each other or a boundary,
so each one is put out as it was encoded; only flags are ever added to it.

That no word is written twice rests on zero standing for unwritten: a latch word and a
boundary are never zero, so a region that reads as unwritten has no contribution of any
update in it.
-/

namespace PulseProgram

namespace Placed

/-- The latch word of a placed update at a step. It is counted back from the boundary and says
nothing of what else may stand at the step. -/
def latchWord? (map : ChannelMap) (placed : Placed) (step : Nat) : Option Word :=
  if step < placed.boundary then placed.update.latchWordBefore? map (placed.boundary - step)
  else none

/-- Whether the trigger pulse of a placed update is up at a step. Only updates with a row have
one. -/
def pulses (width : Nat) (placed : Placed) (step : Nat) : Bool :=
  placed.hasRow && decide (placed.boundary ≤ step + width) && decide (step < placed.boundary)

/-- A latch word stands before the boundary, so there is none from the boundary on. -/
theorem latchWord?_of_le (map : ChannelMap) {placed : Placed} {step : Nat}
    (passed : placed.boundary ≤ step) : placed.latchWord? map step = none := by
  rw [latchWord?, if_neg (Nat.not_lt.mpr passed)]

/-- A pulse is the last steps before the boundary of an update with a row. -/
theorem pulses_iff {width : Nat} {placed : Placed} {step : Nat} :
    placed.pulses width step = true ↔
      placed.hasRow = true ∧ placed.boundary ≤ step + width ∧ step < placed.boundary := by
  simp only [pulses, Bool.and_eq_true, decide_eq_true_eq, and_assoc]

/-- What the checks guarantee of an update that was placed: it resolves, its latch words and its
pulse have room before the boundary, and the boundary lies on the timeline. -/
structure Fits (map : ChannelMap) (config : Config) (placed : Placed) : Prop where
  resolves : ∃ resolved, placed.update.ResolvesTo map resolved
  room : placed.update.latchLength ≤ placed.boundary
  inside : placed.boundary < config.capacity
  pulse_room : placed.hasRow = true → config.triggerWidth ≤ placed.boundary

/-- The latch words stand in the region right before the boundary, in the order they are put out.
Counting back from the boundary and counting up through the region give the same words. -/
theorem latchWord?_eq {map : ChannelMap} {placed : Placed} {resolved : ResolvedUpdate}
    (resolves : placed.update.ResolvesTo map resolved)
    (room : placed.update.latchLength ≤ placed.boundary) (step : Nat) :
    placed.latchWord? map step =
      if placed.boundary - placed.update.latchLength ≤ step ∧ step < placed.boundary then
        resolved.stacked[step - (placed.boundary - placed.update.latchLength)]?
      else none := by
  unfold latchWord?
  by_cases before : step < placed.boundary
  · rw [if_pos before]
    by_cases within : placed.boundary - placed.update.latchLength ≤ step
    · have place : step - (placed.boundary - placed.update.latchLength) =
          placed.update.latchLength - (placed.boundary - step) := by omega
      rw [if_pos ⟨within, before⟩, place, resolves.stacked_getElem? (by omega)]
    · rw [if_neg (fun inside => within inside.1), resolves.latchWordBefore?_of_lt (by omega)]
  · rw [if_neg before, if_neg (fun inside => before inside.2)]

/-- There is a latch word at a step exactly if the step lies in the region. So the region has no
gap, whatever channels the update names. -/
theorem Fits.latchWord?_isSome {map : ChannelMap} {config : Config} {placed : Placed}
    (fits : placed.Fits map config) (step : Nat) :
    (placed.latchWord? map step).isSome = true ↔
      placed.boundary ≤ step + placed.update.latchLength ∧ step < placed.boundary := by
  obtain ⟨resolved, resolves⟩ := fits.resolves
  have room := fits.room
  have length := resolves.length_stacked
  rw [latchWord?_eq resolves room]
  split
  · next inside =>
    rw [List.getElem?_eq_getElem (by omega)]
    simp only [Option.isSome_some, true_iff]
    omega
  · next outside =>
    simp only [Option.isSome_none, Bool.false_eq_true, false_iff]
    omega

/-- What stands in the region is a latch word, and hence neither zero nor with a trigger in it. -/
theorem Fits.latchWord?_isLatch {map : ChannelMap} {config : Config} {placed : Placed}
    (fits : placed.Fits map config) {step : Nat} {word : Word}
    (put : placed.latchWord? map step = some word) : Word.IsLatch word := by
  obtain ⟨resolved, resolves⟩ := fits.resolves
  rw [latchWord?_eq resolves fits.room] at put
  split at put
  · exact resolves.stacked_isLatch word (List.mem_of_getElem? put)
  · exact nomatch put

end Placed

/-- The word that placed updates make of a step: a latch word, the epoch trigger at a boundary, and
the synthesizer trigger in a pulse. Where two updates had a latch word at a step, it would be the
earlier one. -/
def superposed (map : ChannelMap) (width : Nat) (placed : List Placed) (step : Nat) : Word :=
  (placed.findSome? (·.latchWord? map step)).getD 0#32 |||
    (if placed.any (·.boundary = step) then Word.epochTrigger else 0#32) |||
    (if placed.any (·.pulses width step) then Word.synthTrigger else 0#32)

section Parts

variable {map : ChannelMap} {config : Config} {width step : Nat} {placed : List Placed}

/-- Without updates every step is unwritten. -/
@[simp] theorem superposed_nil : superposed map width [] step = 0#32 := by
  simp [superposed]

/-- A flag that either of two gives is the flags of both. -/
theorem flag_or (flag : Word) (first second : Bool) :
    (if (first || second) = true then flag else 0#32) =
      (if first = true then flag else 0#32) ||| (if second = true then flag else 0#32) := by
  cases first <;> cases second <;> simp

/-- A step that is zero has no part of any placed update. Here it matters that a latch word and a
trigger are never zero. -/
theorem parts_of_superposed_eq_zero (fits : ∀ one ∈ placed, one.Fits map config)
    (zero : superposed map width placed step = 0#32) :
    (∀ one ∈ placed, one.latchWord? map step = none) ∧
      (∀ one ∈ placed, one.boundary ≠ step) ∧
      (∀ one ∈ placed, one.pulses width step = false) := by
  obtain ⟨others, noPulse⟩ := BitVec.or_eq_zero_iff.mp zero
  obtain ⟨noLatch, noEpoch⟩ := BitVec.or_eq_zero_iff.mp others
  refine ⟨?_, ?_, ?_⟩
  · cases found : placed.findSome? (·.latchWord? map step) with
    | none => exact List.findSome?_eq_none_iff.mp found
    | some word =>
      rw [found, Option.getD_some] at noLatch
      obtain ⟨one, member, put⟩ := List.exists_of_findSome?_eq_some found
      exact absurd noLatch ((fits one member).latchWord?_isLatch put).nonzero
  · intro one member same
    rw [if_pos (List.any_eq_true.mpr ⟨one, member, decide_eq_true same⟩)] at noEpoch
    exact absurd noEpoch (by decide)
  · intro one member
    by_contra up
    rw [if_pos (List.any_eq_true.mpr ⟨one, member, by simpa using up⟩)] at noPulse
    exact absurd noPulse (by decide)

/-- A step beyond all boundaries has no part of any placed update. -/
theorem superposed_eq_zero_of_lt (beyond : ∀ one ∈ placed, one.boundary < step) :
    superposed map width placed step = 0#32 := by
  have noLatch : placed.findSome? (·.latchWord? map step) = none := by
    exact List.findSome?_eq_none_iff.mpr fun one member =>
      one.latchWord?_of_le map (beyond one member).le
  have noEpoch : ¬placed.any (·.boundary = step) = true := by
    rintro found
    obtain ⟨one, member, same⟩ := List.any_eq_true.mp found
    exact absurd (of_decide_eq_true same) (beyond one member).ne
  have noPulse : ¬placed.any (·.pulses width step) = true := by
    rintro found
    obtain ⟨one, member, up⟩ := List.any_eq_true.mp found
    exact absurd (Placed.pulses_iff.mp up).2.2 (beyond one member).not_gt
  rw [superposed, noLatch, if_neg noEpoch, if_neg noPulse]
  rfl

/-- One more update adds its own parts to those before, where no latch word meets one of the new
ones. Boundaries and pulses may meet what they like. -/
theorem superposed_append (one : Placed)
    (free : ∀ word, one.latchWord? map step = some word →
      ∀ other ∈ placed, other.latchWord? map step = none) :
    superposed map width (placed ++ [one]) step =
      superposed map width placed step ||| (one.latchWord? map step).getD 0#32 |||
        (if one.boundary = step then Word.epochTrigger else 0#32) |||
        (if one.pulses width step then Word.synthTrigger else 0#32) := by
  have latch : ((placed ++ [one]).findSome? (·.latchWord? map step)).getD 0#32 =
      (placed.findSome? (·.latchWord? map step)).getD 0#32 |||
        (one.latchWord? map step).getD 0#32 := by
    rw [List.findSome?_append, List.findSome?_singleton]
    cases put : one.latchWord? map step with
    | none => simp
    | some word =>
      rw [List.findSome?_eq_none_iff.mpr (free word put)]
      simp
  have epoch : (if one.boundary = step then Word.epochTrigger else 0#32) =
      if decide (one.boundary = step) = true then Word.epochTrigger else 0#32 := by
    simp
  rw [superposed, superposed, latch, epoch, List.any_append, List.any_append, flag_or, flag_or,
    List.any_cons, List.any_cons, List.any_nil, List.any_nil, Bool.or_false, Bool.or_false]
  ac_rfl

end Parts

namespace Sequencer

variable {channels : ChannelMap} {config : Config} {initial sequencer next : Sequencer}
  {placed : List Placed} {update : Update} {resolved : ResolvedUpdate}

/-- An accepted update fits where it is placed. -/
theorem Accepts.fits_placed (accepts : sequencer.Accepts update resolved)
    (keeps : Keeps channels config sequencer) :
    Placed.Fits channels config ⟨update, sequencer.step⟩ := by
  have resolves := Update.resolve_ok accepts.resolves
  rw [keeps.channels] at resolves
  refine ⟨⟨resolved, resolves⟩, accepts.room, accepts.step_lt keeps, fun named => ?_⟩
  rw [← keeps.width]
  exact (accepts.row (by simpa [Placed.hasRow] using named)).pulseRoom

/-- Every placed update fits where it is placed, and later updates do not change that. -/
theorem Starts.fits_of_reaches (starts : Starts channels config initial)
    (reached : initial.Reaches placed sequencer) :
    ∀ one ∈ placed, one.Fits channels config := by
  induction reached with
  | initial => exact fun one absent => absurd absent List.not_mem_nil
  | place reached applied inductionHypothesis =>
    obtain ⟨rfl, resolved, accepts, -⟩ := apply_ok applied
    intro one member
    rcases List.mem_append.mp member with old | new
    · exact inductionHypothesis one old
    · obtain rfl := List.mem_singleton.mp new
      exact accepts.fits_placed (starts.keeps_of_reaches reached)

/-- An accepted update adds its own parts to the words, whose latch region was empty. The checks are
needed here: words that are replaced could be added only because they are zero. -/
theorem Follows.words_added (follows : sequencer.Follows update resolved next)
    (accepts : sequencer.Accepts update resolved)
    (keeps : Keeps channels config sequencer) (step : Nat) :
    next.timeline.wordAt step =
      sequencer.timeline.wordAt step |||
        ((⟨update, sequencer.step⟩ : Placed).latchWord? channels step).getD 0#32 |||
        (if sequencer.step = step then Word.epochTrigger else 0#32) |||
        (if (⟨update, sequencer.step⟩ : Placed).pulses config.triggerWidth step then
          Word.synthTrigger else 0#32) := by
  have resolves := Update.resolve_ok accepts.resolves
  rw [keeps.channels] at resolves
  have pulse : (update.synth.isEmpty = false ∧ sequencer.pulseStart ≤ step ∧
      step < sequencer.step) ↔
      (⟨update, sequencer.step⟩ : Placed).pulses config.triggerWidth step = true := by
    rw [pulseStart, keeps.width, Nat.sub_le_iff_le_add, Placed.pulses_iff, Placed.hasRow,
      Bool.not_eq_true']
  have latch : (⟨update, sequencer.step⟩ : Placed).latchWord? channels step =
      if sequencer.latchStart update ≤ step ∧ step < sequencer.step then
        resolved.stacked[step - sequencer.latchStart update]?
      else none :=
    Placed.latchWord?_eq resolves accepts.room step
  rw [follows.words, if_congr pulse rfl rfl, if_congr (@eq_comm _ step _) rfl rfl, latch]
  congr 2
  by_cases inside : sequencer.latchStart update ≤ step ∧ step < sequencer.step
  · rw [if_pos inside, if_pos inside, accepts.unwritten step inside.1 inside.2, BitVec.zero_or]
  · rw [if_neg inside, if_neg inside, Option.getD_none, BitVec.or_zero]

/-- Beyond its boundary an accepted update changes nothing. -/
theorem Follows.word_of_lt (follows : sequencer.Follows update resolved next)
    (accepts : sequencer.Accepts update resolved) (keeps : Keeps channels config sequencer)
    {step : Nat} (beyond : sequencer.step < step) :
    next.timeline.wordAt step = sequencer.timeline.wordAt step := by
  have noLatch : (⟨update, sequencer.step⟩ : Placed).latchWord? channels step = none :=
    Placed.latchWord?_of_le channels beyond.le
  have noPulse : ¬(⟨update, sequencer.step⟩ : Placed).pulses config.triggerWidth step = true :=
    fun up => beyond.not_gt (Placed.pulses_iff.mp up).2.2
  rw [follows.words_added accepts keeps, noLatch, if_neg beyond.ne, if_neg noPulse]
  simp

/-- The boundary of an accepted update is written. -/
theorem Follows.boundary_written (follows : sequencer.Follows update resolved next)
    (accepts : sequencer.Accepts update resolved) (keeps : Keeps channels config sequencer) :
    next.timeline.wordAt sequencer.step ≠ 0#32 := by
  rw [follows.words_added accepts keeps, if_pos rfl]
  intro zero
  exact absurd (BitVec.or_eq_zero_iff.mp (BitVec.or_eq_zero_iff.mp zero).1).2 (by decide)

/-- An accepted update raises the synthesizer trigger in its pulse and nowhere else. Its latch words
and its boundary leave the trigger as it was. -/
theorem Follows.carries_synth_iff (follows : sequencer.Follows update resolved next)
    (accepts : sequencer.Accepts update resolved) (keeps : Keeps channels config sequencer)
    (step : Nat) :
    (next.timeline.wordAt step).carries Word.synthTrigger = true ↔
      (sequencer.timeline.wordAt step).carries Word.synthTrigger = true ∨
        (⟨update, sequencer.step⟩ : Placed).pulses config.triggerWidth step = true := by
  have latch : (((⟨update, sequencer.step⟩ : Placed).latchWord? channels step).getD
      0#32).carries Word.synthTrigger = false := by
    cases put : (⟨update, sequencer.step⟩ : Placed).latchWord? channels step with
    | none => rfl
    | some word => exact ((accepts.fits_placed keeps).latchWord?_isLatch put).carries_synth
  have epoch : (if sequencer.step = step then Word.epochTrigger else 0#32).carries
      Word.synthTrigger = false := by
    split <;> rfl
  rw [follows.words_added accepts keeps, Word.carries_or, Word.carries_or, Word.carries_or, latch,
    epoch, Bool.or_false, Bool.or_false, Bool.or_eq_true]
  cases (⟨update, sequencer.step⟩ : Placed).pulses config.triggerWidth step <;> simp +decide

/-- The synthesizer trigger is up exactly in the pulses of the placed updates. The start of the
cursor and the size of the timeline are not limited for this. -/
theorem Starts.carries_synth_iff (starts : Starts channels config initial)
    (reached : initial.Reaches placed sequencer) (step : Nat) :
    (sequencer.timeline.wordAt step).carries Word.synthTrigger = true ↔
      ∃ one ∈ placed, one.pulses config.triggerWidth step = true := by
  induction reached with
  | initial =>
    rw [starts.unwritten]
    simp [Word.carries]
  | @place placed sequencer next update boundary reached applied inductionHypothesis =>
    obtain ⟨rfl, resolved, accepts, follows⟩ := apply_ok applied
    rw [follows.carries_synth_iff accepts (starts.keeps_of_reaches reached), inductionHypothesis]
    simp only [List.mem_append, List.mem_singleton, or_and_right, exists_or, exists_eq_left]

/-- Where an accepted update puts a latch word, no update before has a part. It reads the region as
zero, and a superposition that is zero has no parts. -/
theorem Starts.parts_free (starts : Starts channels config initial)
    (reached : initial.Reaches placed sequencer)
    (words : ∀ step, sequencer.timeline.wordAt step =
      superposed channels config.triggerWidth placed step)
    (accepts : sequencer.Accepts update resolved) {step : Nat} {word : Word}
    (put : (⟨update, sequencer.step⟩ : Placed).latchWord? channels step = some word) :
    (∀ one ∈ placed, one.latchWord? channels step = none) ∧
      (∀ one ∈ placed, one.boundary ≠ step) := by
  have fits := accepts.fits_placed (starts.keeps_of_reaches reached)
  have region := (fits.latchWord?_isSome step).mp (by rw [put]; rfl)
  have unwritten := accepts.unwritten step (Nat.sub_le_iff_le_add.mpr region.1) region.2
  rw [words] at unwritten
  have parts := parts_of_superposed_eq_zero (starts.fits_of_reaches reached) unwritten
  exact ⟨parts.1, parts.2.1⟩

/-- The words after placing updates are those updates superposed, at every step of the timeline and
beyond it. Nothing is assumed about the start of the cursor.

Proof: by induction along the chain. An accepted update adds its parts to the words, and what it
adds meets no latch word by `Starts.parts_free`. -/
theorem Starts.words_of_reaches (starts : Starts channels config initial)
    (reached : initial.Reaches placed sequencer) (step : Nat) :
    sequencer.timeline.wordAt step = superposed channels config.triggerWidth placed step := by
  induction reached generalizing step with
  | initial => rw [starts.unwritten, superposed_nil]
  | @place placed sequencer next update boundary reached applied inductionHypothesis =>
    obtain ⟨rfl, resolved, accepts, follows⟩ := apply_ok applied
    rw [follows.words_added accepts (starts.keeps_of_reaches reached), inductionHypothesis,
      superposed_append]
    intro word put
    exact (starts.parts_free reached inductionHypothesis accepts put).1

/-- Latch words of different updates never stand at one step. The later of the two has found its
region unwritten. -/
theorem Starts.latch_single (starts : Starts channels config initial)
    (reached : initial.Reaches placed sequencer) :
    placed.Pairwise fun earlier later =>
      ∀ step, earlier.latchWord? channels step = none ∨ later.latchWord? channels step = none := by
  induction reached with
  | initial => exact List.Pairwise.nil
  | @place placed sequencer next update boundary reached applied inductionHypothesis =>
    obtain ⟨rfl, resolved, accepts, -⟩ := apply_ok applied
    refine List.pairwise_append.mpr ⟨inductionHypothesis, List.pairwise_singleton _ _, ?_⟩
    intro earlier old later new step
    obtain rfl := List.mem_singleton.mp new
    cases put : (⟨update, sequencer.step⟩ : Placed).latchWord? channels step with
    | none => exact .inr rfl
    | some word =>
      have free := starts.parts_free reached (starts.words_of_reaches reached) accepts put
      exact .inl (free.1 earlier old)

/-- No latch word stands at a boundary, be it of the same update, an earlier or a later one. Here it
matters that boundaries do not decrease.

Proof: an update finds no boundary before it in its region, and a later boundary lies at or beyond
its own, where it has no latch word. -/
theorem Starts.latch_apart (starts : Starts channels config initial)
    (offset_finite : config.startOffset.isFinite = true) (offset_nonneg : 0 ≤ config.startOffset)
    (reached : initial.Reaches placed sequencer) :
    ∀ one ∈ placed, ∀ other ∈ placed, one.latchWord? channels other.boundary = none := by
  induction reached with
  | initial => exact fun one absent => absurd absent List.not_mem_nil
  | @place placed sequencer next update boundary reached applied inductionHypothesis =>
    obtain ⟨rfl, resolved, accepts, -⟩ := apply_ok applied
    intro one oneMember other otherMember
    rcases List.mem_append.mp oneMember with oneOld | oneNew
    · rcases List.mem_append.mp otherMember with otherOld | otherNew
      · exact inductionHypothesis one oneOld other otherOld
      · obtain rfl := List.mem_singleton.mp otherNew
        exact one.latchWord?_of_le channels
          (starts.boundary_le offset_finite offset_nonneg reached one oneOld)
    · obtain rfl := List.mem_singleton.mp oneNew
      rcases List.mem_append.mp otherMember with otherOld | otherNew
      · cases put : (⟨update, sequencer.step⟩ : Placed).latchWord? channels other.boundary with
        | none => rfl
        | some word =>
          have free := starts.parts_free reached (starts.words_of_reaches reached) accepts put
          exact absurd rfl (free.2 other otherOld)
      · obtain rfl := List.mem_singleton.mp otherNew
        exact Placed.latchWord?_of_le channels (Nat.le_refl _)

/-- The compiled timeline is the superposition of the placed updates. The fields name the words and
the parts, keep the parts apart from each other, and relate the timeline to the finished program. -/
structure Superposition (channels : ChannelMap) (config : Config) (placed : List Placed)
    (sequencer : Sequencer) : Prop where
  /-- Each word is made of the parts of the placed updates, and nothing else. -/
  words : sequencer.timeline.words =
    (List.range config.capacity).map (superposed channels config.triggerWidth placed)
  /-- The latch words of an update fill the region right before its boundary. -/
  latch_region : ∀ one ∈ placed, one.update.latchLength ≤ one.boundary ∧
    ∀ step, (one.latchWord? channels step).isSome = true ↔
      one.boundary - one.update.latchLength ≤ step ∧ step < one.boundary
  /-- At most one update has a latch word at a step. -/
  latch_single : placed.Pairwise fun earlier later =>
    ∀ step, earlier.latchWord? channels step = none ∨ later.latchWord? channels step = none
  /-- No latch word stands at a boundary. -/
  latch_apart : ∀ one ∈ placed, ∀ other ∈ placed, one.latchWord? channels other.boundary = none
  /-- The finished program has the words before the cursor, as far as the timeline goes. -/
  finished : sequencer.finish.waveform.toList =
    sequencer.timeline.words.take (min sequencer.step config.capacity)
  /-- Every written word is among them. -/
  written_before : ∀ step, sequencer.timeline.words[step]?.getD 0#32 ≠ 0#32 →
    step < sequencer.step ∧ step < config.capacity

/-- For every run of updates on a timeline of fewer than two to the 53rd words, the words after the
run are the superposition of the updates that were placed. The map need not be built, and the
updates may be of any length, with any names and values, in any mix of placed and refused ones.

Proof: by `run_reaches` a run is a chain of placed updates, and along chains the words are
superposed by `Starts.words_of_reaches`. Since boundaries lie before the cursor, no part reaches
beyond it, which gives the fields about the finished program. -/
theorem run_superposes (started : start channels config = .ok initial)
    (offset_finite : config.startOffset.isFinite = true) (offset_nonneg : 0 ≤ config.startOffset)
    (short : config.capacity < 2 ^ 53) (updates : List Update) :
    Superposition channels config (initial.placed updates) (initial.run updates).2 := by
  have starts := start_ok started
  have reached := run_reaches initial updates
  have keeps := starts.keeps_of_reaches reached
  have fits := starts.fits_of_reaches reached
  have before := starts.boundary_lt offset_finite offset_nonneg short reached
  have words := starts.words_of_reaches reached
  refine ⟨?_, fun one member => ⟨(fits one member).room, fun step => ?_⟩,
    starts.latch_single reached, starts.latch_apart offset_finite offset_nonneg reached, ?_, ?_⟩
  · refine List.ext_getElem ?_ fun step stored _ => ?_
    · rw [Timeline.words_length, keeps.capacity, List.length_map, List.length_range]
    · rw [List.getElem_map, List.getElem_range, ← words, Timeline.wordAt,
        List.getElem?_eq_getElem stored, Option.getD_some]
  · rw [(fits one member).latchWord?_isSome, Nat.sub_le_iff_le_add]
  · rw [finish, Timeline.view_toList, keeps.capacity]
  · intro step written
    constructor
    · by_contra passed
      have zero : superposed channels config.triggerWidth (initial.placed updates) step = 0#32 :=
        superposed_eq_zero_of_lt fun one member =>
          (before one member).trans_le (Nat.not_lt.mp passed)
      exact written ((words step).trans zero)
    · by_contra passed
      rw [← keeps.capacity, Nat.not_lt] at passed
      exact written (Timeline.wordAt_of_le passed)

/-- The short compilation is the superposition of its two placed updates. -/
theorem run_superposes_sample : ∃ initial, start Sample.channels Sample.config = .ok initial ∧
    Sample.config.startOffset.isFinite = true ∧ 0 ≤ Sample.config.startOffset ∧
    Sample.config.capacity < 2 ^ 53 ∧
    Superposition Sample.channels Sample.config (initial.placed Sample.updates)
      (initial.run Sample.updates).2 := by
  obtain ⟨initial, started, -⟩ := Sample.starts
  obtain ⟨finite, nonneg, short, -⟩ := Sample.timing
  exact ⟨initial, started, finite, nonneg, short,
    run_superposes started finite nonneg short Sample.updates⟩

end Sequencer

end PulseProgram

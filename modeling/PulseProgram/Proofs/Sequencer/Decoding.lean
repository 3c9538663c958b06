import Mathlib.Data.List.Sort
import PulseProgram.Proofs.Sequencer.TriggerEdges
import PulseProgram.Proofs.Update.Reading

/-!
# Reading a program back from its words

The words of a finished program say which updates were placed: where each boundary is, what
was latched before it, and which boundaries have a row. Nothing else is needed for it but
the length of a trigger pulse.

- The boundaries are the steps with an epoch trigger.
- The payloads of the latch words of an update reach down from its boundary to the next
  payload that is zero, or to the start. They do not run into those of another update: there
  is a boundary between the two, and a boundary has no payload.
- Pulses may touch, so they are told apart from the last one down. A trigger that is up right
  before a boundary belongs to a row there unless the pulse of a later row is still up.
-/

namespace PulseProgram

/-- What the words say about an update. Durations, voltages and the values of a row are not in it,
since the words do not have them. -/
structure Reading where
  boundary : Nat
  /-- The channel and the code of each analog value in the order given. They are missing only
  where the name is unknown, which it is in no placed update. -/
  analog : List (Option (Nat × BitVec 16))
  /-- The lines that are high, if any line is set. -/
  lines : Option (List Nat)
  /-- Whether a row comes with the update. -/
  row : Bool
deriving DecidableEq

/-- What a placed update has the words say. -/
def Placed.reading (map : ChannelMap) (placed : Placed) : Reading where
  boundary := placed.boundary
  analog := placed.update.analog.map (Update.analogField? map)
  lines := placed.update.highLines? map
  row := placed.hasRow

/-! ## The decoder -/

/-- The steps that carry the epoch trigger. -/
def epochs (words : List Word) : List Nat :=
  (List.range words.length).filter fun step =>
    Word.carries (words[step]?.getD 0#32) Word.epochTrigger

/-- The payloads right before a step down to one that is zero, the nearest first. -/
def payloadsBefore (words : List Word) (step : Nat) : List Word :=
  ((words.take step).map Word.payload).reverse.takeWhile (· != 0#32)

/-- The boundaries that have a row, out of ascending ones. The later rows are known before an
earlier boundary is judged. -/
def rowsAmong (width : Nat) (words : List Word) : List Nat → List Nat
  | [] => []
  | boundary :: later =>
    let rows := rowsAmong width words later
    if 0 < boundary ∧ Word.carries (words[boundary - 1]?.getD 0#32) Word.synthTrigger = true ∧
        ∀ row ∈ rows, boundary + width ≤ row then
      boundary :: rows
    else rows

/-- Reads the updates back from words and the length of a trigger pulse. Neither the map nor
anything else of the configuration is asked for. -/
def decode (width : Nat) (words : List Word) : List Reading :=
  (epochs words).map fun boundary =>
    { boundary
      analog := (Word.readLatch (payloadsBefore words boundary)).2
      lines := (Word.readLatch (payloadsBefore words boundary)).1
      row := decide (boundary ∈ rowsAmong width words (epochs words)) }

/-! ## Rows -/

section Rows

variable {width : Nat} {words : List Word} {placed : List Placed} {one : Placed}

/-- The boundary of the first update is the first one, if the update comes with a row. -/
theorem rowBoundaries_cons (one : Placed) (rest : List Placed) :
    rowBoundaries (one :: rest) =
      if one.hasRow = true then one.boundary :: rowBoundaries rest else rowBoundaries rest := by
  rw [rowBoundaries, List.filter_cons]
  split <;> rfl

/-- Among ascending boundaries, those with a row are found from the trigger. The pulses may touch
each other.

Proof: by induction on the updates, from the last one down. The pulse of the first row is over
before a later boundary, so the later rows are found as before. The trigger right before the first
boundary comes from a row there or from the pulse of a later row, and the decoder tells the two
apart by whether that pulse could have begun by then. -/
theorem rowsAmong_eq (positive : 0 < width)
    (increasing : (placed.map (·.boundary)).Pairwise (· < ·))
    (spaced : Spaced width (rowBoundaries placed))
    (up : ∀ one ∈ placed,
      (Word.carries (words[one.boundary - 1]?.getD 0#32) Word.synthTrigger = true ↔
        ∃ row ∈ rowBoundaries placed, row ≤ one.boundary - 1 + width ∧ one.boundary - 1 < row)) :
    rowsAmong width words (placed.map (·.boundary)) = rowBoundaries placed := by
  induction placed with
  | nil => rfl
  | cons one rest inductionHypothesis =>
    rw [List.map_cons, List.pairwise_cons] at increasing
    obtain ⟨first, increasing⟩ := increasing
    rw [rowBoundaries_cons] at spaced up ⊢
    have spaced_rest : Spaced width (rowBoundaries rest) := by
      split at spaced
      · exact ⟨fun row member => spaced.room row (List.mem_cons_of_mem _ member),
          spaced.ordered.tail⟩
      · exact spaced
    have rows := inductionHypothesis increasing spaced_rest fun other member => by
      rw [up other (List.mem_cons_of_mem _ member)]
      split
      · have before := first _ (List.mem_map_of_mem member)
        constructor
        · rintro ⟨row, listed, within⟩
          rcases List.mem_cons.mp listed with rfl | later
          · omega
          · exact ⟨row, later, within⟩
        · rintro ⟨row, later, within⟩
          exact ⟨row, List.mem_cons_of_mem _ later, within⟩
      · rfl
    have here := up one List.mem_cons_self
    rw [List.map_cons, rowsAmong, rows]
    by_cases named : one.hasRow = true
    · rw [if_pos named] at spaced here ⊢
      have room := spaced.room one.boundary List.mem_cons_self
      have apart := (List.pairwise_cons.mp spaced.ordered).1
      rw [if_pos]
      exact ⟨by omega, here.mpr ⟨one.boundary, List.mem_cons_self, by omega, by omega⟩, apart⟩
    · rw [if_neg named] at here ⊢
      rw [if_neg]
      rintro ⟨_, raised, apart⟩
      obtain ⟨row, member, within, _⟩ := here.mp raised
      have beyond := apart row member
      omega

end Rows

/-! ## Latch words -/

section Latch

variable {map : ChannelMap} {config : Config} {width step : Nat} {placed : List Placed}
  {one other : Placed}

/-- Flags leave the payload of a step to the latch word there. -/
theorem superposed_payload :
    Word.payload (superposed map width placed step) =
      Word.payload ((placed.findSome? (·.latchWord? map step)).getD 0#32) := by
  have epoch : Word.payload (if placed.any (·.boundary = step) then Word.epochTrigger else 0#32) =
      0#32 := by
    split <;> decide
  have synth : Word.payload
      (if placed.any (·.pulses width step) then Word.synthTrigger else 0#32) = 0#32 := by
    split <;> decide
  rw [superposed, Word.payload_or, Word.payload_or, epoch, synth, BitVec.or_zero, BitVec.or_zero]

/-- A step carries the epoch trigger exactly if it is a boundary. -/
theorem superposed_carries_epoch_iff (fits : ∀ one ∈ placed, one.Fits map config) :
    (superposed map width placed step).carries Word.epochTrigger = true ↔
      step ∈ placed.map (·.boundary) := by
  have latch : Word.carries ((placed.findSome? (·.latchWord? map step)).getD 0#32)
      Word.epochTrigger = false := by
    cases found : placed.findSome? (·.latchWord? map step) with
    | none => rfl
    | some word =>
      obtain ⟨one, member, put⟩ := List.exists_of_findSome?_eq_some found
      rw [Option.getD_some, Word.carries, ((fits one member).latchWord?_isLatch put).no_epoch]
      rfl
  have synth : Word.carries
      (if placed.any (·.pulses width step) then Word.synthTrigger else 0#32)
      Word.epochTrigger = false := by
    split <;> rfl
  rw [superposed, Word.carries_or, Word.carries_or, latch, synth, Bool.false_or, Bool.or_false,
    List.mem_map]
  split
  · next found =>
    obtain ⟨one, member, same⟩ := List.any_eq_true.mp found
    exact iff_of_true rfl ⟨one, member, of_decide_eq_true same⟩
  · next none_here =>
    refine iff_of_false Bool.false_ne_true ?_
    rintro ⟨one, member, same⟩
    exact none_here (List.any_eq_true.mpr ⟨one, member, decide_eq_true same⟩)

/-- The latch word at a step is that of the one update that has one there. -/
theorem findSome?_latchWord? {word : Word}
    (single : placed.Pairwise fun earlier later =>
      ∀ step, earlier.latchWord? map step = none ∨ later.latchWord? map step = none)
    (member : one ∈ placed) (put : one.latchWord? map step = some word) :
    placed.findSome? (·.latchWord? map step) = some word := by
  induction placed with
  | nil => exact absurd member List.not_mem_nil
  | cons first rest inductionHypothesis =>
    obtain ⟨alone, single⟩ := List.pairwise_cons.mp single
    rw [List.findSome?_cons]
    rcases List.mem_cons.mp member with rfl | later
    · rw [put]
    · have free : first.latchWord? map step = none := by
        refine (alone one later step).resolve_right ?_
        rw [put]
        exact Option.some_ne_none word
      rw [free]
      exact inductionHypothesis single later

/-- The payloads before the boundary of an update are those of its latch words. Below the words
there has to be a payload of zero, or the start. -/
theorem payloadsBefore_eq {words : List Word} {latch : List Word} {start : Nat}
    (inside : start + latch.length ≤ words.length)
    (written : ∀ index word, latch[index]? = some word →
      Word.payload (words[start + index]?.getD 0#32) = word.payload)
    (nonzero : ∀ word ∈ latch, word.payload ≠ 0#32)
    (ends : ∀ step, start = step + 1 → Word.payload (words[step]?.getD 0#32) = 0#32) :
    payloadsBefore words (start + latch.length) = (latch.map Word.payload).reverse := by
  have region : ((words.drop start).take latch.length).map Word.payload =
      latch.map Word.payload := by
    refine List.ext_getElem (by simp; omega) fun index _ latched => ?_
    rw [List.length_map] at latched
    have same := written index _ (List.getElem?_eq_getElem latched)
    rw [List.getElem?_eq_getElem (by omega), Option.getD_some] at same
    rw [List.getElem_map, List.getElem_map, List.getElem_take, List.getElem_drop, same]
  have below : ((words.take start).map Word.payload).reverse.takeWhile (· != 0#32) = [] := by
    cases start with
    | zero => rfl
    | succ step =>
      have zero := ends step rfl
      rw [List.getElem?_eq_getElem (by omega), Option.getD_some] at zero
      rw [List.take_succ_eq_append_getElem (by omega), List.map_append, List.reverse_append,
        List.map_singleton, List.reverse_singleton, List.singleton_append, zero,
        List.takeWhile_cons_of_neg (by decide)]
  rw [payloadsBefore, List.take_add, List.map_append, region, List.reverse_append,
    List.takeWhile_append_of_pos, below,
    List.append_nil]
  intro payload member
  obtain ⟨word, latched, rfl⟩ := List.mem_map.mp (List.mem_reverse.mp member)
  exact bne_iff_ne.mpr (nonzero word latched)

end Latch

/-- The epoch triggers of updates superposed at ascending boundaries are the boundaries. -/
theorem epochs_of_superposed {map : ChannelMap} {config : Config} {width : Nat}
    {placed : List Placed} {words : List Word} (fits : ∀ one ∈ placed, one.Fits map config)
    (word : ∀ step, words[step]?.getD 0#32 = superposed map width placed step)
    (inside : ∀ one ∈ placed, one.boundary < words.length)
    (increasing : (placed.map (·.boundary)).Pairwise (· < ·)) :
    epochs words = placed.map (·.boundary) := by
  refine (List.pairwise_lt_range.filter _).eq_of_mem_iff increasing fun step => ?_
  rw [List.mem_filter, List.mem_range, word, superposed_carries_epoch_iff fits]
  refine and_iff_right_of_imp fun listed => ?_
  obtain ⟨one, member, rfl⟩ := List.mem_map.mp listed
  exact inside one member

/-- Words that placed updates were compiled to: the updates superposed, at ascending boundaries,
with latch words that meet no others and no boundary, and with pulses that do not overlap. -/
structure Encodes (map : ChannelMap) (config : Config) (placed : List Placed)
    (words : List Word) : Prop where
  word : ∀ step, words[step]?.getD 0#32 = superposed map config.triggerWidth placed step
  carries_synth_iff : ∀ step,
    Word.carries (words[step]?.getD 0#32) Word.synthTrigger = true ↔
      ∃ row ∈ rowBoundaries placed, row ≤ step + config.triggerWidth ∧ step < row
  inside : ∀ one ∈ placed, one.boundary < words.length
  increasing : (placed.map (·.boundary)).Pairwise (· < ·)
  fits : ∀ one ∈ placed, one.Fits map config
  latch_single : placed.Pairwise fun earlier later =>
    ∀ step, earlier.latchWord? map step = none ∨ later.latchWord? map step = none
  latch_apart : ∀ one ∈ placed, ∀ other ∈ placed, one.latchWord? map other.boundary = none
  spaced : Spaced config.triggerWidth (rowBoundaries placed)

namespace Encodes

variable {map : ChannelMap} {config : Config} {placed : List Placed} {words : List Word}
  {one other : Placed}

/-- Updates at the same boundary are the same. -/
theorem eq_of_boundary (encodes : Encodes map config placed words) (member : one ∈ placed)
    (stored : other ∈ placed) (same : one.boundary = other.boundary) : one = other :=
  List.inj_on_of_nodup_map encodes.increasing.nodup member stored same

/-- The epoch triggers are the boundaries. -/
theorem epochs_eq (encodes : Encodes map config placed words) :
    epochs words = placed.map (·.boundary) :=
  epochs_of_superposed encodes.fits encodes.word encodes.inside encodes.increasing

/-- No latch words of an update reach over a boundary. -/
theorem not_covers (encodes : Encodes map config placed words) (member : one ∈ placed)
    (stored : other ∈ placed) :
    ¬(one.boundary ≤ other.boundary + one.update.latchLength ∧
      other.boundary < one.boundary) := by
  intro covered
  have put := ((encodes.fits one member).latchWord?_isSome other.boundary).mpr covered
  rw [encodes.latch_apart one member other stored] at put
  exact nomatch put

/-- Right below the latch words of an update there is no latch word. The words of another update
would reach over a boundary from there. -/
theorem latchWord?_below (encodes : Encodes map config placed words) (member : one ∈ placed)
    {step : Nat} (below : one.boundary = step + 1 + one.update.latchLength) :
    placed.findSome? (·.latchWord? map step) = none := by
  refine List.findSome?_eq_none_iff.mpr fun other stored => ?_
  by_contra put
  have region := ((encodes.fits other stored).latchWord?_isSome step).mp
    (Option.isSome_iff_ne_none.mpr put)
  rcases Nat.lt_trichotomy other.boundary one.boundary with before | same | after
  · exact encodes.not_covers member stored ⟨by omega, before⟩
  · obtain rfl := encodes.eq_of_boundary stored member same
    omega
  · exact encodes.not_covers stored member ⟨by omega, after⟩

/-- The payloads before a boundary are those that its update latched. -/
theorem payloadsBefore_boundary (encodes : Encodes map config placed words)
    (member : one ∈ placed) {resolved : ResolvedUpdate}
    (resolves : one.update.ResolvesTo map resolved) :
    payloadsBefore words one.boundary = (resolved.stacked.map Word.payload).reverse := by
  have room := (encodes.fits one member).room
  have stored := encodes.inside one member
  have length := resolves.length_stacked
  have place : one.boundary = one.boundary - one.update.latchLength + resolved.stacked.length := by
    omega
  rw [place]
  apply payloadsBefore_eq
  · omega
  · intro index latch stacked
    have within := (List.getElem?_eq_some_iff.mp stacked).1
    have put : one.latchWord? map (one.boundary - one.update.latchLength + index) =
        some latch := by
      rw [Placed.latchWord?_eq resolves room, if_pos (by omega), Nat.add_sub_cancel_left, stacked]
    rw [encodes.word, superposed_payload,
      findSome?_latchWord? encodes.latch_single member put, Option.getD_some]
  · exact resolves.payload_ne_zero
  · intro step below
    rw [encodes.word, superposed_payload, encodes.latchWord?_below member (by omega)]
    rfl

/-- The rows that are found are those of the placed updates. -/
theorem rowsAmong_epochs (encodes : Encodes map config placed words)
    (positive : 0 < config.triggerWidth) :
    rowsAmong config.triggerWidth words (epochs words) = rowBoundaries placed := by
  rw [encodes.epochs_eq]
  exact rowsAmong_eq positive encodes.increasing encodes.spaced
    fun one _ => encodes.carries_synth_iff (one.boundary - 1)

/-- Decoding gives back what the placed updates have the words say. How the words have come to be
does not matter, as long as they encode the updates.

Proof: the boundaries are the epoch triggers, the payloads before each of them are those of its
latch words, which read back as the entries of the update, and the rows are found by the trigger. -/
theorem decode_eq (encodes : Encodes map config placed words)
    (positive : 0 < config.triggerWidth) :
    decode config.triggerWidth words = placed.map (·.reading map) := by
  rw [decode, encodes.rowsAmong_epochs positive, encodes.epochs_eq, List.map_map]
  refine List.map_congr_left fun one member => ?_
  obtain ⟨resolved, resolves⟩ := (encodes.fits one member).resolves
  have latch := resolves.readLatch_stacked
  rw [← encodes.payloadsBefore_boundary member resolves] at latch
  have row : decide (one.boundary ∈ rowBoundaries placed) = one.hasRow := by
    rw [Bool.eq_iff_iff, decide_eq_true_eq, mem_rowBoundaries]
    constructor
    · rintro ⟨other, stored, named, same⟩
      obtain rfl := encodes.eq_of_boundary stored member same
      exact named
    · intro named
      exact ⟨one, member, named, rfl⟩
  rw [Function.comp_apply, latch, row]
  rfl

end Encodes

namespace Sequencer

variable {channels : ChannelMap} {config : Config} {initial sequencer : Sequencer}
  {placed : List Placed}

/-- On a timeline of fewer than two to the 53rd words the boundaries ascend. -/
theorem Starts.boundaries_increasing (starts : Starts channels config initial)
    (offset_finite : config.startOffset.isFinite = true) (offset_nonneg : 0 ≤ config.startOffset)
    (short : config.capacity < 2 ^ 53) (reached : initial.Reaches placed sequencer) :
    (placed.map (·.boundary)).Pairwise (· < ·) := by
  induction reached with
  | initial => exact List.Pairwise.nil
  | @place placed sequencer next update boundary reached applied inductionHypothesis =>
    obtain ⟨rfl, -⟩ := apply_ok applied
    rw [List.map_append, List.map_singleton]
    refine List.pairwise_append.mpr ⟨inductionHypothesis, List.pairwise_singleton _ _, ?_⟩
    intro earlier old later new
    obtain rfl := List.mem_singleton.mp new
    obtain ⟨one, member, rfl⟩ := List.mem_map.mp old
    exact starts.boundary_lt offset_finite offset_nonneg short reached one member

/-- The finished words are the placed updates superposed, if the cursor is past all of them. Cut at
the cursor, the words then lose no part of any update. -/
theorem Starts.finished_words (starts : Starts channels config initial)
    (reached : initial.Reaches placed sequencer)
    (before : ∀ one ∈ placed, one.boundary < sequencer.step) :
    (∀ step, sequencer.finish.waveform.toList[step]?.getD 0#32 =
        superposed channels config.triggerWidth placed step) ∧
      ∀ one ∈ placed, one.boundary < sequencer.finish.waveform.toList.length := by
  have within : ∀ one ∈ placed, one.boundary < min sequencer.step sequencer.timeline.capacity := by
    intro one member
    rw [(starts.keeps_of_reaches reached).capacity]
    exact lt_min (before one member) (starts.fits_of_reaches reached one member).inside
  constructor
  · intro step
    rw [finish, Timeline.view_toList, List.getElem?_take]
    split
    · exact starts.words_of_reaches reached step
    · next beyond =>
      exact (superposed_eq_zero_of_lt fun one member =>
        (within one member).trans_le (Nat.not_lt.mp beyond)).symm
  · intro one member
    have stored := within one member
    rw [finish, Timeline.view_toList, List.length_take, Timeline.words_length]
    omega

/-- The finished words are compiled from the placed updates. -/
theorem Starts.encodes (starts : Starts channels config initial)
    (offset_finite : config.startOffset.isFinite = true) (offset_nonneg : 0 ≤ config.startOffset)
    (short : config.capacity < 2 ^ 53) (reached : initial.Reaches placed sequencer) :
    Encodes channels config placed sequencer.finish.waveform.toList := by
  have before := starts.boundary_lt offset_finite offset_nonneg short reached
  obtain ⟨word, inside⟩ := starts.finished_words reached before
  exact ⟨word, starts.finished_carries_synth_iff offset_finite offset_nonneg reached, inside,
    starts.boundaries_increasing offset_finite offset_nonneg short reached,
    starts.fits_of_reaches reached, starts.latch_single reached,
    starts.latch_apart offset_finite offset_nonneg reached,
    starts.spaced offset_finite offset_nonneg reached⟩

/-- Two runs that finish with the same words have placed updates at the same boundaries, and update
by update with the same analog channels and codes, the same high lines and the same answer to
whether there is a row. The runs may be of different lengths and with any refused updates, and the
map need not be built.

Proof: the decoder reads what the placed updates say from the words and the width alone, by
`decode_eq`. Equal words therefore give equal readings. -/
theorem run_readings_unique (started : start channels config = .ok initial)
    (offset_finite : config.startOffset.isFinite = true) (offset_nonneg : 0 ≤ config.startOffset)
    (short : config.capacity < 2 ^ 53) (positive : 0 < config.triggerWidth)
    {first second : List Update}
    (same : (initial.run first).2.finish.waveform.toList =
      (initial.run second).2.finish.waveform.toList) :
    (initial.placed first).map (·.reading channels) =
      (initial.placed second).map (·.reading channels) := by
  have starts := start_ok started
  have decoded := fun updates =>
    (starts.encodes offset_finite offset_nonneg short (run_reaches initial updates)).decode_eq
      positive
  calc (initial.placed first).map (·.reading channels)
      = decode config.triggerWidth (initial.run first).2.finish.waveform.toList :=
        (decoded first).symm
    _ = decode config.triggerWidth (initial.run second).2.finish.waveform.toList := by rw [same]
    _ = (initial.placed second).map (·.reading channels) := decoded second

namespace Sample

/-- The placed updates of the short compilation with another voltage of the same code and other
values for the row. -/
def likeUpdates : List Update := [
  { duration := 4e-6, analog := [("a", 1.0001)], digital := [("d", true)], synth := [("f", 3)] },
  { duration := 4e-6, synth := [("f", 2)] }]

end Sample

/-- Two different runs of the short compilation with the same words. -/
theorem run_readings_unique_sample : ∃ initial,
    start Sample.channels Sample.config = .ok initial ∧
    Sample.config.startOffset.isFinite = true ∧ 0 ≤ Sample.config.startOffset ∧
    Sample.config.capacity < 2 ^ 53 ∧ 0 < Sample.config.triggerWidth ∧
    (initial.run Sample.updates).2.finish.waveform.toList =
      (initial.run Sample.likeUpdates).2.finish.waveform.toList ∧
    (initial.placed Sample.updates).map (·.reading Sample.channels) =
      (initial.placed Sample.likeUpdates).map (·.reading Sample.channels) := by
  obtain ⟨initial, started, same⟩ : ∃ initial,
      start Sample.channels Sample.config = .ok initial ∧
      decide ((initial.run Sample.updates).2.finish.waveform.toList =
        (initial.run Sample.likeUpdates).2.finish.waveform.toList) = true := by
    apply started_of_evaluated
    decide +kernel
  obtain ⟨finite, nonneg, short, positive⟩ := Sample.timing
  exact ⟨initial, started, finite, nonneg, short, positive, of_decide_eq_true same,
    run_readings_unique started finite nonneg short positive (of_decide_eq_true same)⟩

end Sequencer

end PulseProgram

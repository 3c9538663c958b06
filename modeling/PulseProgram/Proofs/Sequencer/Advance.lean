import PulseProgram.Proofs.Sequencer.Decoding

/-!
# Whether virtual time advances

A placed update moves a cursor at or after time zero to a later step. A configuration may also
start the cursor before time zero or at no time at all, since only its clock rate is checked. All
such cursors count as being at the first step. The first update to be placed from there may end
before the first tick, and then the next boundary is the same step again. If it does not, time
advances from there on as it does otherwise.
-/

namespace PulseProgram.Sequencer

/-- The cursor is at or after time zero, or the update moves it to the first tick or beyond. A
cursor at no time at all satisfies neither. -/
def MovesOn (sequencer : Sequencer) (update : Update) : Prop :=
  0 ≤ sequencer.ticks ∨ 1 ≤ sequencer.endTicks update

/-- The first of the placed updates moves on. Where nothing is placed there is nothing to ask. -/
def Underway (initial : Sequencer) (placed : List Placed) : Prop :=
  ∀ first ∈ placed.head?, initial.MovesOn first.update

/-- Each placed update has a boundary of its own in the finished program and leaves the cursor past
it. The fields speak of the steps, of the cursor and of the words that are put out. -/
structure Advances (initial : Sequencer) (updates : List Update) : Prop where
  /-- The boundaries ascend. -/
  increasing : ((initial.placed updates).map (·.boundary)).Pairwise (· < ·)
  /-- Right after a placed update the cursor is past the boundary. -/
  ahead : ∀ earlier update later, updates = earlier ++ update :: later →
    ∀ boundary next, (initial.run earlier).2.apply update = (.ok boundary, next) →
      boundary < next.step
  /-- The epoch triggers of the finished program are one for each placed update. -/
  epochs_eq : epochs (initial.run updates).2.finish.waveform.toList =
    (initial.placed updates).map (·.boundary)
  /-- They lie inside the program. -/
  inside : ∀ one ∈ initial.placed updates,
    one.boundary < (initial.run updates).2.finish.sampleCount

/-! ## One update -/

section Step

variable {channels : ChannelMap} {config : Config} {sequencer next : Sequencer} {update : Update}
  {boundary : Nat}

/-- A placed update leaves the cursor past its boundary exactly if it moves on. The cursor may be
anywhere, before time zero and at no time included.

Proof: from time zero on every placed update leads to a later step. All other cursors are at step
zero, which the next one is past if it has reached the first tick. -/
theorem Keeps.boundary_lt_iff (keeps : Keeps channels config sequencer)
    (short : config.capacity < 2 ^ 53) (applied : sequencer.apply update = (.ok boundary, next)) :
    boundary < next.step ↔ sequencer.MovesOn update := by
  have advances (nonneg : 0 ≤ sequencer.ticks) := keeps.step_lt_of_apply short nonneg applied
  obtain ⟨rfl, resolved, accepts, follows⟩ := apply_ok applied
  by_cases nonneg : 0 ≤ sequencer.ticks
  · exact iff_of_true (advances nonneg) (.inl nonneg)
  · have first : sequencer.step = 0 := stepAt_of_not_nonneg nonneg
    simp only [first, MovesOn, nonneg, false_or]
    rw [step, follows.ticks, stepAt_pos_iff]

/-- An update that moves on leads to a cursor at or after time zero. -/
theorem MovesOn.ticks_nonneg (moves : sequencer.MovesOn update)
    (applied : sequencer.apply update = (.ok boundary, next)) : 0 ≤ next.ticks := by
  obtain ⟨-, resolved, accepts, follows⟩ := apply_ok applied
  rw [follows.ticks]
  rcases moves with nonneg | past
  · exact advanced_nonneg nonneg accepts.spans
  · by_contra before
    have first := stepAt_of_not_nonneg before
    have later := stepAt_pos_iff.mpr past
    omega

end Step

/-! ## Runs -/

section Runs

variable {channels : ChannelMap} {config : Config} {initial sequencer next : Sequencer}
  {placed : List Placed} {update : Update} {boundary : Nat}

/-- What comes later does not matter to whether the first update moves on. -/
theorem Underway.of_append {later : List Placed} (underway : initial.Underway (placed ++ later)) :
    initial.Underway placed := by
  intro first listed
  exact underway first (by simp_all)

/-- If the first update moves on and the cursor is at or after time zero from then on, every update
moves on. -/
theorem Underway.movesOn (underway : initial.Underway (placed ++ [⟨update, boundary⟩]))
    (reached : initial.Reaches placed sequencer) (later : placed ≠ [] → 0 ≤ sequencer.ticks) :
    sequencer.MovesOn update := by
  by_cases nothing : placed = []
  · rw [reached.eq_of_nil nothing]
    exact underway ⟨update, boundary⟩ (by simp [nothing])
  · exact .inl (later nothing)

/-- Along a chain whose first update moves on the boundaries ascend, and the cursor is past all of
them. The start of the cursor is not assumed to be finite or after time zero.

Proof: by induction along the chain. The first update moves on by assumption, and leads to a cursor
from which every later one does. -/
theorem Starts.advance_of_reaches (starts : Starts channels config initial)
    (short : config.capacity < 2 ^ 53) (reached : initial.Reaches placed sequencer)
    (underway : initial.Underway placed) :
    (placed ≠ [] → 0 ≤ sequencer.ticks) ∧ (placed.map (·.boundary)).Pairwise (· < ·) ∧
      ∀ one ∈ placed, one.boundary < sequencer.step := by
  induction reached with
  | initial => simp
  | @place placed sequencer next update boundary reached applied inductionHypothesis =>
    obtain ⟨nonneg, increasing, before⟩ := inductionHypothesis underway.of_append
    have moves := underway.movesOn reached nonneg
    have later : boundary < next.step :=
      ((starts.keeps_of_reaches reached).boundary_lt_iff short applied).mpr moves
    obtain ⟨rfl, -⟩ := apply_ok applied
    refine ⟨fun _ => moves.ticks_nonneg applied, ?_, ?_⟩
    · rw [List.map_append, List.pairwise_append]
      exact ⟨increasing, by simp, by simpa using before⟩
    · intro one member
      rcases List.mem_append.mp member with old | new
      · exact (before one old).trans later
      · obtain rfl := List.mem_singleton.mp new
        exact later

/-- A run places what its beginning places, and then what the rest of it does. -/
theorem placed_append (initial : Sequencer) (earlier rest : List Update) :
    initial.placed (earlier ++ rest) =
      initial.placed earlier ++ (initial.run earlier).2.placed rest := by
  induction earlier generalizing initial with
  | nil => rfl
  | cons update earlier inductionHypothesis =>
    rw [List.cons_append, placed, placed, run_cons]
    cases outcome : initial.apply update with
    | mk result next =>
      cases result <;> simp [inductionHypothesis]

/-- Nothing changes before the first update that is placed, so it is applied in the state that the
run has started from. -/
theorem exists_first_placed {updates : List Update} {first : Placed}
    (listed : first ∈ (initial.placed updates).head?) :
    ∃ earlier later next, updates = earlier ++ first.update :: later ∧
      (initial.run earlier).2 = initial ∧
      initial.apply first.update = (.ok first.boundary, next) := by
  induction updates with
  | nil => simp [placed] at listed
  | cons update rest inductionHypothesis =>
    cases outcome : initial.apply update with
    | mk result next =>
      cases result with
      | ok boundary =>
        obtain rfl : ⟨update, boundary⟩ = first := by simpa [placed, outcome] using listed
        exact ⟨[], rest, next, rfl, rfl, outcome⟩
      | error fault =>
        obtain rfl := (apply_error outcome).1
        obtain ⟨earlier, later, reached, rfl, unchanged, applied⟩ :=
          inductionHypothesis (by simpa [placed, outcome] using listed)
        refine ⟨update :: earlier, later, reached, rfl, ?_, applied⟩
        rw [run_cons, outcome]
        exact unchanged

/-- If time advances, the first placed update leaves the cursor past its boundary, and so moves
on. -/
theorem Advances.underway {updates : List Update} (advances : initial.Advances updates)
    (starts : Starts channels config initial) (short : config.capacity < 2 ^ 53) :
    initial.Underway (initial.placed updates) := by
  intro first listed
  obtain ⟨earlier, later, next, split, unchanged, applied⟩ := exists_first_placed listed
  have past := advances.ahead earlier _ later split first.boundary next
    (by rw [unchanged]; exact applied)
  exact (starts.keeps.boundary_lt_iff short applied).mp past

/-- If the first placed update moves on, time advances. The epoch triggers follow from the
boundaries: those are apart and all lie before the end. -/
theorem Starts.advances (starts : Starts channels config initial)
    (short : config.capacity < 2 ^ 53) {updates : List Update}
    (underway : initial.Underway (initial.placed updates)) : initial.Advances updates := by
  have reached := run_reaches initial updates
  obtain ⟨-, increasing, before⟩ := starts.advance_of_reaches short reached underway
  obtain ⟨word, inside⟩ := starts.finished_words reached before
  refine ⟨increasing, ?_, ?_, ?_⟩
  · rintro earlier update later rfl boundary next applied
    have reachedNext := (run_reaches initial earlier).place applied
    rw [placed_append, placed, applied] at underway
    have begun : initial.Underway
        ((initial.placed earlier ++ [⟨update, boundary⟩]) ++ next.placed later) := by
      simpa using underway
    obtain ⟨-, -, passed⟩ := starts.advance_of_reaches short reachedNext begun.of_append
    exact passed ⟨update, boundary⟩ (by simp)
  · exact epochs_of_superposed (starts.fits_of_reaches reached) word inside increasing
  · intro one member
    rw [Program.sampleCount, Waveform.length_eq]
    exact inside one member

/-- Time advances in a run exactly if nothing is placed, the cursor starts at or after time zero, or
the first placed update moves it to the first tick or beyond. It does for every finite start that is
not before time zero. The first part assumes nothing about the start of the cursor.

Proof: both directions of the equivalence are lemmas above. A finite start that is not before time
zero gives a cursor at or after time zero, from which every update moves on. -/
theorem run_advances (started : start channels config = .ok initial)
    (short : config.capacity < 2 ^ 53) (updates : List Update) :
    (initial.Advances updates ↔ initial.Underway (initial.placed updates)) ∧
      (config.startOffset.isFinite = true → 0 ≤ config.startOffset → initial.Advances updates) := by
  have starts := start_ok started
  refine ⟨⟨fun advances => advances.underway starts short, starts.advances short⟩, ?_⟩
  intro offset_finite offset_nonneg
  refine starts.advances short fun first _ => .inl ?_
  rw [starts.ticks]
  exact start_nonneg offset_finite offset_nonneg starts.rate_finite starts.rate_nonneg

end Runs

/-- Time advances in the short compilation. -/
theorem run_advances_sample : ∃ initial,
    start Sample.channels Sample.config = .ok initial ∧ Sample.config.capacity < 2 ^ 53 ∧
    (initial.Advances Sample.updates ↔ initial.Underway (initial.placed Sample.updates)) ∧
    (Sample.config.startOffset.isFinite = true → 0 ≤ Sample.config.startOffset →
      initial.Advances Sample.updates) := by
  obtain ⟨initial, started, -⟩ := Sample.starts
  obtain ⟨-, -, short, -⟩ := Sample.timing
  exact ⟨initial, started, short, run_advances started short Sample.updates⟩

namespace Sample

/-- A cursor that starts one tick before time zero. -/
def earlyConfig : Config where
  clockRate := 1e6
  maxDuration := 1e-3
  startOffset := -1e-6
  minTriggerWidth := 1e-4
  synthCapacity := 8

/-- Updates of one tick each, with nothing to put out. -/
def bareUpdates : List Update := [{ duration := 1e-6 }, { duration := 1e-6 }]

end Sample

/-- Two updates of one tick that share a boundary: the first begins before time zero and ends at it,
and both begin at step zero. -/
theorem run_advances_stalled : ∃ initial,
    start ChannelMap.empty Sample.earlyConfig = .ok initial ∧
    Sample.earlyConfig.capacity < 2 ^ 53 ∧
    (initial.placed Sample.bareUpdates).map (·.boundary) = [0, 0] ∧
    ¬initial.Advances Sample.bareUpdates := by
  obtain ⟨initial, started, boundaries⟩ : ∃ initial,
      start ChannelMap.empty Sample.earlyConfig = .ok initial ∧
      (initial.placed Sample.bareUpdates).map (·.boundary) = [0, 0] := by
    apply started_of_evaluated
    decide +kernel
  refine ⟨initial, started, by decide +kernel, boundaries, fun advances => ?_⟩
  have increasing := advances.increasing
  simp [boundaries] at increasing

end PulseProgram.Sequencer

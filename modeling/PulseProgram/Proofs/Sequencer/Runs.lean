import PulseProgram.Proofs.Sequencer.Step

/-!
# Runs of a sequencer

A run applies updates one after the other. An update that is refused leaves its fault in
the outcomes, and the run goes on. What a run has built depends only on the updates that
were placed, each at its boundary: the states of all runs are those that a chain of placed
updates reaches, and a statement about all runs is shown along such a chain.

Two things are not checked when a compilation starts. The cursor may begin before time zero or at
no time at all, and the timeline may have so many words that the doubles do not tell neighbouring
steps apart any more. Statements that rest on the order of the boundaries exclude the one or the
other by a hypothesis, and say nothing of such configurations.
-/

namespace PulseProgram

/-- An update that was placed, and the boundary it was placed at. Updates that were refused do not
appear as such. -/
structure Placed where
  update : Update
  boundary : Nat
deriving DecidableEq

/-- Whether a row comes with the update, which is so if it names a synthesizer channel at all. -/
def Placed.hasRow (placed : Placed) : Bool := !placed.update.synth.isEmpty

namespace Sequencer

/-- Applies updates in order and collects the outcomes. A refused update leaves its fault and the
run goes on from the state it left. -/
def run (sequencer : Sequencer) : List Update → List (Except Fault Nat) × Sequencer
  | [] => ([], sequencer)
  | update :: rest =>
    let (outcome, next) := sequencer.apply update
    let (outcomes, last) := next.run rest
    (outcome :: outcomes, last)

/-- The outcome of the first update stands before those of the others, which start where the first
one ends. -/
theorem run_cons (sequencer : Sequencer) (update : Update) (rest : List Update) :
    sequencer.run (update :: rest) =
      ((sequencer.apply update).1 :: ((sequencer.apply update).2.run rest).1,
        ((sequencer.apply update).2.run rest).2) := rfl

/-- The updates of a run that are placed, with their boundaries, in the order of the run. -/
def placed (sequencer : Sequencer) : List Update → List Placed
  | [] => []
  | update :: rest =>
    match sequencer.apply update with
    | (.ok boundary, next) => ⟨update, boundary⟩ :: next.placed rest
    | (.error _, next) => next.placed rest

/-- The states that placing updates leads to, with the updates placed so far. The latest update
stands last, so an induction along a chain ends at the present state. -/
inductive Reaches (initial : Sequencer) : List Placed → Sequencer → Prop where
  | initial : Reaches initial [] initial
  | place {placed : List Placed} {sequencer next : Sequencer} {update : Update} {boundary : Nat}
      (reached : Reaches initial placed sequencer)
      (applied : sequencer.apply update = (.ok boundary, next)) :
      Reaches initial (placed ++ [⟨update, boundary⟩]) next

/-- Before anything is placed the sequencer is as it was. The list is given by an equation, so that
the lemma also applies where it is known to be empty from elsewhere. -/
theorem Reaches.eq_of_nil {initial sequencer : Sequencer} {placed : List Placed}
    (reached : initial.Reaches placed sequencer) (nothing : placed = []) :
    sequencer = initial := by
  cases reached with
  | initial => rfl
  | place => simp at nothing

/-- A run goes on from wherever a chain of placed updates has led. Refused updates do not lengthen
the chain, as they leave the state as it is. -/
theorem Reaches.run {initial sequencer : Sequencer} {placed : List Placed}
    (reached : initial.Reaches placed sequencer) (updates : List Update) :
    initial.Reaches (placed ++ sequencer.placed updates) (sequencer.run updates).2 := by
  induction updates generalizing placed sequencer with
  | nil =>
    rw [Sequencer.placed, List.append_nil]
    exact reached
  | cons update rest inductionHypothesis =>
    rw [Sequencer.placed, run_cons]
    cases outcome : sequencer.apply update with
    | mk result next =>
      cases result with
      | ok boundary =>
        have longer := inductionHypothesis (reached.place outcome)
        rwa [List.append_assoc] at longer
      | error fault =>
        obtain rfl := (apply_error outcome).1
        exact inductionHypothesis reached

/-- Every run ends where the updates placed by it lead. A statement about all runs is therefore
shown along chains, where every step is an update that was placed. -/
theorem run_reaches (initial : Sequencer) (updates : List Update) :
    initial.Reaches (initial.placed updates) (initial.run updates).2 :=
  Reaches.initial.run updates

/-- Every placed update was applied in a state that the updates before it lead to, and placed there
at its boundary. -/
theorem Reaches.before {initial sequencer : Sequencer} {placed : List Placed}
    (reached : initial.Reaches placed sequencer) {index : Nat} {one : Placed}
    (stored : placed[index]? = some one) :
    ∃ previous next, initial.Reaches (placed.take index) previous ∧
      previous.apply one.update = (.ok one.boundary, next) := by
  induction reached with
  | initial => exact nomatch stored
  | @place placed sequencer next update boundary reached applied inductionHypothesis =>
    rcases Nat.lt_or_ge index placed.length with old | new
    · rw [List.getElem?_append_left old] at stored
      rw [List.take_append_of_le_length old.le]
      exact inductionHypothesis stored
    · have last : index = placed.length := by
        have inside := (List.getElem?_eq_some_iff.mp stored).1
        rw [List.length_append, List.length_singleton] at inside
        omega
      subst last
      rw [List.getElem?_concat_length] at stored
      obtain rfl := Option.some.inj stored
      rw [List.take_left]
      exact ⟨sequencer, next, reached, applied⟩

/-- The parts of the state that no placed update changes: the map, the rate, the size of the
timeline, the width of a pulse and the size of the table. -/
structure Keeps (channels : ChannelMap) (config : Config) (sequencer : Sequencer) : Prop where
  channels : sequencer.channels = channels
  rate : sequencer.config.clockRate = config.clockRate
  capacity : sequencer.timeline.capacity = config.capacity
  width : sequencer.table.triggerWidth = config.triggerWidth
  tableCapacity : sequencer.table.capacity = config.synthCapacity

/-- What a new sequencer consists of. Only the rate is known to be in range here: the start of the
cursor is taken as it is configured, a negative one included. -/
structure Starts (channels : ChannelMap) (config : Config) (initial : Sequencer) : Prop where
  rate_finite : config.clockRate.isFinite = true
  rate_nonneg : 0 ≤ config.clockRate
  keeps : Keeps channels config initial
  ticks : initial.ticks = snapTicks (config.startOffset * config.clockRate)
  unwritten : ∀ step, initial.timeline.wordAt step = 0#32
  rowCount : initial.table.rowCount = 0

/-- A valid configuration has a running clock: its rate is finite and not negative. The start of the
cursor and the length of the timeline are not looked at. -/
theorem validate_ok {config : Config} (valid : config.validate = .ok ()) :
    config.clockRate.isFinite = true ∧ 0 ≤ config.clockRate := by
  unfold Config.validate at valid
  split at valid
  · exact nomatch valid
  · next running =>
    rw [Bool.not_eq_true, Bool.or_eq_false_iff, Bool.not_eq_false', decide_eq_false_iff_not]
      at running
    exact ⟨running.1, nonneg_of_not_nonpos (Binary64.ne_nan_of_isFinite running.1) running.2⟩

/-- A compilation that starts has a running clock, an unwritten timeline and no rows. The map is not
assumed to be built. -/
theorem start_ok {channels : ChannelMap} {config : Config} {initial : Sequencer}
    (started : start channels config = .ok initial) : Starts channels config initial := by
  obtain ⟨_, valid, made⟩ := bind_ok_iff.mp started
  obtain ⟨timeline, timelineMade, rest⟩ := bind_ok_iff.mp made
  obtain ⟨table, tableMade, last⟩ := bind_ok_iff.mp rest
  obtain rfl := Except.ok.inj last
  obtain ⟨rate_finite, rate_nonneg⟩ := validate_ok (rejecting_ok_iff.mp valid)
  rw [storable_ok_iff] at timelineMade tableMade
  obtain ⟨capacity, unwritten⟩ := Timeline.unwritten?_wordAt timelineMade
  unfold SynthTable.empty? at tableMade
  split at tableMade
  · obtain rfl := Option.some.inj tableMade
    exact ⟨rate_finite, rate_nonneg, ⟨rfl, rfl, capacity, rfl, rfl⟩, rfl, unwritten, rfl⟩
  · exact nomatch tableMade

/-- Placing an update keeps what is kept: of these fields an update changes none. -/
theorem Keeps.place {channels : ChannelMap} {config : Config} {sequencer next : Sequencer}
    {update : Update} {resolved : ResolvedUpdate} (keeps : Keeps channels config sequencer)
    (follows : sequencer.Follows update resolved next) : Keeps channels config next := by
  refine ⟨follows.channels.trans keeps.channels, ?_, follows.capacity.trans keeps.capacity, ?_, ?_⟩
  · rw [follows.config, keeps.rate]
  · rw [follows.width, keeps.width]
  · rw [follows.tableCapacity, keeps.tableCapacity]

/-- An accepted update begins on the timeline, so its boundary has a word there. -/
theorem Accepts.step_lt {channels : ChannelMap} {config : Config} {sequencer : Sequencer}
    {update : Update} {resolved : ResolvedUpdate} (accepts : sequencer.Accepts update resolved)
    (keeps : Keeps channels config sequencer) : sequencer.step < config.capacity := by
  rw [← keeps.capacity]
  exact lt_of_fits accepts.fits

/-- On a timeline of fewer than two to the 53rd words a placed update leads from a cursor at or
after time zero to a later step. Before time zero this can fail, since the step of such a cursor is
zero. -/
theorem Keeps.step_lt_of_apply {channels : ChannelMap} {config : Config}
    {sequencer next : Sequencer} {update : Update} {boundary : Nat}
    (keeps : Keeps channels config sequencer) (short : config.capacity < 2 ^ 53)
    (nonneg : 0 ≤ sequencer.ticks) (applied : sequencer.apply update = (.ok boundary, next)) :
    sequencer.step < next.step := by
  obtain ⟨-, resolved, accepts, follows⟩ := apply_ok applied
  rw [step, step, follows.ticks]
  exact stepAt_lt_advanced nonneg accepts.spans ((accepts.step_lt keeps).trans short)

section Chains

variable {channels : ChannelMap} {config : Config} {initial sequencer : Sequencer}
  {placed : List Placed}

/-- What a new sequencer has is kept along every chain of placed updates, and so by every run. -/
theorem Starts.keeps_of_reaches (starts : Starts channels config initial)
    (reached : initial.Reaches placed sequencer) :
    Keeps channels config sequencer := by
  induction reached with
  | initial => exact starts.keeps
  | place reached applied inductionHypothesis =>
    obtain ⟨-, resolved, accepts, follows⟩ := apply_ok applied
    exact inductionHypothesis.place follows

/-- The table has one row for each placed update that comes with one. An update that is refused adds
none, even if only its row was at fault. -/
theorem Starts.rowCount_of_reaches (starts : Starts channels config initial)
    (reached : initial.Reaches placed sequencer) :
    sequencer.table.rowCount = placed.countP Placed.hasRow := by
  induction reached with
  | initial => exact starts.rowCount
  | @place placed sequencer next update boundary reached applied inductionHypothesis =>
    obtain ⟨-, resolved, accepts, follows⟩ := apply_ok applied
    rw [follows.rowCount_of_accepts accepts, inductionHypothesis, List.countP_append,
      List.countP_singleton, Placed.hasRow]
    cases update.synth.isEmpty <;> rfl

/-- The table never has more rows than it has room for. The room is checked again for each row, so a
run ends full at most. -/
theorem Starts.rowCount_le (starts : Starts channels config initial)
    (reached : initial.Reaches placed sequencer) :
    sequencer.table.rowCount ≤ config.synthCapacity := by
  induction reached with
  | initial => simp [starts.rowCount]
  | @place placed sequencer next update boundary reached applied inductionHypothesis =>
    obtain ⟨-, resolved, accepts, follows⟩ := apply_ok applied
    rw [follows.rowCount_of_accepts accepts]
    split
    · exact inductionHypothesis
    · next named =>
      rw [← (starts.keeps_of_reaches reached).tableCapacity]
      exact (accepts.row (Bool.eq_false_iff.mpr named)).tableRoom

/-! ## The cursor along a run -/

/-- A cursor that starts at a finite time not before zero stays there or later. Nothing is assumed
about the size of the timeline.

Proof: a placed update advances by a tick at least, and snapping never leads below zero. -/
theorem Starts.ticks_nonneg (starts : Starts channels config initial)
    (offset_finite : config.startOffset.isFinite = true) (offset_nonneg : 0 ≤ config.startOffset)
    (reached : initial.Reaches placed sequencer) :
    0 ≤ sequencer.ticks := by
  induction reached with
  | initial =>
    rw [starts.ticks]
    exact start_nonneg offset_finite offset_nonneg starts.rate_finite starts.rate_nonneg
  | place reached applied inductionHypothesis =>
    obtain ⟨-, resolved, accepts, follows⟩ := apply_ok applied
    rw [follows.ticks]
    exact advanced_nonneg inductionHypothesis accepts.spans

/-- Every boundary lies at or before the step of the cursor. On a timeline of any size the steps do
not decrease. -/
theorem Starts.boundary_le (starts : Starts channels config initial)
    (offset_finite : config.startOffset.isFinite = true) (offset_nonneg : 0 ≤ config.startOffset)
    (reached : initial.Reaches placed sequencer) :
    ∀ earlier ∈ placed, earlier.boundary ≤ sequencer.step := by
  induction reached with
  | initial => exact fun earlier absent => absurd absent List.not_mem_nil
  | @place placed sequencer next update boundary reached applied inductionHypothesis =>
    obtain ⟨rfl, resolved, accepts, follows⟩ := apply_ok applied
    have nonneg := starts.ticks_nonneg offset_finite offset_nonneg reached
    have later : sequencer.step ≤ next.step := by
      rw [step, step, follows.ticks]
      exact stepAt_le_advanced nonneg accepts.spans
    intro earlier member
    rcases List.mem_append.mp member with old | new
    · exact (inductionHypothesis earlier old).trans later
    · obtain rfl := List.mem_singleton.mp new
      exact later

/-- On a timeline of fewer than two to the 53rd words every boundary lies before the step of the
cursor, so no two updates share a boundary. -/
theorem Starts.boundary_lt (starts : Starts channels config initial)
    (offset_finite : config.startOffset.isFinite = true) (offset_nonneg : 0 ≤ config.startOffset)
    (short : config.capacity < 2 ^ 53) (reached : initial.Reaches placed sequencer) :
    ∀ earlier ∈ placed, earlier.boundary < sequencer.step := by
  cases reached with
  | initial => exact fun earlier absent => absurd absent List.not_mem_nil
  | @place placed previous next update boundary reached applied =>
    obtain ⟨rfl, -⟩ := apply_ok applied
    have nonneg := starts.ticks_nonneg offset_finite offset_nonneg reached
    have later : previous.step < sequencer.step :=
      (starts.keeps_of_reaches reached).step_lt_of_apply short nonneg applied
    intro earlier member
    rcases List.mem_append.mp member with old | new
    · exact (starts.boundary_le offset_finite offset_nonneg reached earlier old).trans_lt later
    · obtain rfl := List.mem_singleton.mp new
      exact later

end Chains

/-! ## A short compilation -/

/-- A compilation that an evaluation has followed starts. This is how the witnesses below obtain
their sequencer, from one computed observation of it. -/
theorem started_of_evaluated {α : Type} {channels : ChannelMap} {config : Config}
    {observe : Sequencer → α} {value : α}
    (evaluated : (start channels config).toOption.map observe = some value) :
    ∃ initial, start channels config = .ok initial ∧ observe initial = value := by
  cases started : start channels config with
  | error fault =>
    rw [started] at evaluated
    exact nomatch evaluated
  | ok initial =>
    rw [started] at evaluated
    exact ⟨initial, rfl, Option.some.inj evaluated⟩

namespace Sample

/-- One channel of each kind, each on a place of its own. -/
def channels : ChannelMap := ⟨[⟨"a", .analog, 0⟩, ⟨"d", .digital, 3⟩, ⟨"f", .synth, 0⟩]⟩

/-- A thousand words, pulses of four steps, and a cursor that starts at step eight, so that the
words and the pulse of a first update have room before it. -/
def config : Config where
  clockRate := 1e6
  maxDuration := 1e-3
  startOffset := 8e-6
  minTriggerWidth := 4e-6
  synthCapacity := 8

/-- The second of these updates follows the first too closely: its latch words would begin before
the boundary at step eight. -/
def updates : List Update := [
  { duration := 4e-6, analog := [("a", 1)], digital := [("d", true)], synth := [("f", 1)] },
  { duration := 4e-6, digital := [("d", false)] },
  { duration := 4e-6, synth := [("f", 2)] }]

/-- The map is built by registering the channels in turn, as the channel map of a program is. -/
theorem built : channels.Built := by
  have analog : ChannelMap.empty.register "a" .analog 0 = .ok ⟨[⟨"a", .analog, 0⟩]⟩ := by
    decide +kernel
  have digital : (⟨[⟨"a", .analog, 0⟩]⟩ : ChannelMap).register "d" .digital 3 =
      .ok ⟨[⟨"a", .analog, 0⟩, ⟨"d", .digital, 3⟩]⟩ := by
    decide +kernel
  have synth : (⟨[⟨"a", .analog, 0⟩, ⟨"d", .digital, 3⟩]⟩ : ChannelMap).register "f" .synth 0 =
      .ok channels := by
    decide +kernel
  exact .register (.register (.register .empty analog) digital) synth

/-- The timing is within the limits of the statements about runs: a finite start not before zero, a
short timeline and a pulse that is not empty. -/
theorem timing : config.startOffset.isFinite = true ∧ 0 ≤ config.startOffset ∧
    config.capacity < 2 ^ 53 ∧ 0 < config.triggerWidth := by
  decide +kernel

/-- The compilation starts, and the run has two updates placed and one refused. It serves as an
input to the statements about runs. -/
theorem starts : ∃ initial, start channels config = .ok initial ∧
    (initial.run updates).1 =
      [.ok 8, .error (.rejected (.writeCollision 12 ⟨6, 12⟩)), .ok 12] := by
  apply started_of_evaluated
  decide +kernel

end Sample
end Sequencer

end PulseProgram

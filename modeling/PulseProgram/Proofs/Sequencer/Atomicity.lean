import PulseProgram.Proofs.Sequencer.Runs

/-!
# Updates are placed as a whole or not at all

Placing an update is a chain of writes, and a write without a place would leave the writes
before it behind. That never happens: once the checks have passed, each write has a place,
whatever the cursor, the words and the values are. So an update ends with its boundary or
with a rejection, and a rejected update leaves the sequencer as it was.

A run therefore does not depend on its rejected updates. Without them it ends in the same
state, and all that follows is the same.
-/

namespace PulseProgram.Sequencer

/-- Every update either is placed as a whole or is rejected and changes nothing. A state with this
property never shows part of an update, and never ends one out of bounds. -/
structure Atomic (sequencer : Sequencer) : Prop where
  /-- An update ends with its boundary or with a rejection. -/
  stays : ∀ update, StaysInBounds (sequencer.apply update).1
  /-- Once all checks have passed, every write has a place. -/
  commits : ∀ update placement, sequencer.plan update = .ok placement →
    ∃ next, commit placement sequencer = (.ok (), next)
  /-- An update that is not placed changes nothing. -/
  unchanged : ∀ update fault next, sequencer.apply update = (.error fault, next) → next = sequencer

/-- A row is only ever rejected, never out of bounds, as long as the cursor is on the timeline. -/
theorem staysInBounds_check {timeline : Timeline} {step : Nat} (table : SynthTable)
    (inside : step ≤ timeline.capacity) : StaysInBounds (table.check timeline step) := by
  have ends := table.check_ends inside
  generalize table.check timeline step = outcome at ends
  cases ends with
  | passed => exact staysInBounds_ok _
  | full => exact staysInBounds_rejected _
  | underflow => exact staysInBounds_rejected _
  | collision => exact staysInBounds_rejected _

/-- On a built map the checks of an update end with a placement or with a rejection. The map has to
be built, since a synthesizer channel beyond the four of a row would have no place in it. -/
theorem staysInBounds_plan {sequencer : Sequencer} (built : sequencer.channels.Built)
    (update : Update) : StaysInBounds (sequencer.plan update) := by
  have ends := sequencer.plan_ends update
  generalize sequencer.plan update = outcome at ends
  cases ends with
  | tooShort => exact staysInBounds_rejected _
  | @unresolved fault _ refused =>
    have stays := Update.staysInBounds_resolve built update
    rw [refused] at stays
    exact stays.of_error
  | overflow => exact staysInBounds_rejected _
  | underflow => exact staysInBounds_rejected _
  | collision => exact staysInBounds_rejected _
  | @noRow _ fault timed _ _ _ refused =>
    have stays := staysInBounds_check sequencer.table (lt_of_fits timed.fits).le
    rw [refused] at stays
    exact stays.of_error
  | accepted => exact staysInBounds_ok _

/-- A sequencer over a built map is atomic, in whatever state it is. Nothing is assumed about
cursor, words or rows, nor that a compilation has led there.

Proof: planning stays in bounds on a built map, `commit_spec` finds a place for every write of a
planned update, and an update that is not planned is returned with the state it met. -/
theorem atomic_of_built {sequencer : Sequencer} (built : sequencer.channels.Built) :
    sequencer.Atomic where
  stays update := by
    rw [apply_outcome]
    have stays := staysInBounds_plan built update
    cases planned : sequencer.plan update with
    | ok placement => exact staysInBounds_ok _
    | error fault =>
      rw [planned] at stays
      exact stays.of_error
  commits update placement planned := by
    have ends := sequencer.plan_ends update
    rw [planned] at ends
    cases ends with
    | accepted accepts =>
      obtain ⟨next, committed, -⟩ := commit_spec accepts
      exact ⟨next, committed⟩
  unchanged _ _ _ refused := (apply_error refused).1

/-! ## Runs without their rejected updates -/

/-- A run over two lists of updates goes on where the first list ends, with the outcomes of both in
turn. -/
theorem run_append (sequencer : Sequencer) (updates later : List Update) :
    sequencer.run (updates ++ later) =
      ((sequencer.run updates).1 ++ ((sequencer.run updates).2.run later).1,
        ((sequencer.run updates).2.run later).2) := by
  induction updates generalizing sequencer with
  | nil => rfl
  | cons update rest inductionHypothesis =>
    rw [List.cons_append, run_cons, run_cons, inductionHypothesis, List.cons_append]

/-- There is one outcome for each update, refused updates included. -/
theorem length_run (sequencer : Sequencer) (updates : List Update) :
    (sequencer.run updates).1.length = updates.length := by
  induction updates generalizing sequencer with
  | nil => rfl
  | cons update rest inductionHypothesis =>
    rw [run_cons, List.length_cons, inductionHypothesis, List.length_cons]

/-- The updates of a run that are placed, in their order and without their boundaries. -/
def accepted (sequencer : Sequencer) (updates : List Update) : List Update :=
  (sequencer.placed updates).map (·.update)

/-- The results of a run are the boundaries of the placed updates, once the faults are left out. -/
theorem results_eq (sequencer : Sequencer) (updates : List Update) :
    (sequencer.run updates).1.filter (·.toOption.isSome) =
      (sequencer.placed updates).map fun one => .ok one.boundary := by
  induction updates generalizing sequencer with
  | nil => rfl
  | cons update rest inductionHypothesis =>
    rw [run_cons, placed]
    cases applied : sequencer.apply update with
    | mk outcome next =>
      cases outcome with
      | ok boundary => exact congrArg (.ok boundary :: ·) (inductionHypothesis next)
      | error fault => exact inductionHypothesis next

/-- A run of the placed updates alone places each of them where it was placed before, and ends in
the same state.

Proof: by induction on the updates. A refused update leaves the state as it is, and so may be left
out. -/
theorem run_accepted (sequencer : Sequencer) (updates : List Update) :
    sequencer.run (sequencer.accepted updates) =
      ((sequencer.placed updates).map fun one => .ok one.boundary,
        (sequencer.run updates).2) := by
  induction updates generalizing sequencer with
  | nil => rfl
  | cons update rest inductionHypothesis =>
    rw [accepted, placed, run_cons]
    cases applied : sequencer.apply update with
    | mk outcome next =>
      have remaining := inductionHypothesis next
      rw [accepted] at remaining
      cases outcome with
      | ok boundary =>
        dsimp only
        rw [List.map_cons, run_cons, applied, remaining, List.map_cons]
      | error fault =>
        obtain rfl := (apply_error applied).1
        exact remaining

/-- Along every run each update is placed as a whole or changes nothing. The same run without the
updates that were not placed has the same results and ends in the same state, so whatever comes
after it is the same, the finished program included. Duration, values and names of the updates are
arbitrary, and so is the start of the cursor.

Proof: the map of a run is the one it started with, so every state of it is atomic. The run of the
accepted updates is `run_accepted`, and a run over two lists splits where the first ends. -/
theorem run_atomic {channels : ChannelMap} {config : Config} {initial : Sequencer}
    (built : channels.Built) (started : start channels config = .ok initial)
    (updates : List Update) :
    (initial.run updates).2.Atomic ∧
      (initial.run (initial.accepted updates)).1 =
        (initial.run updates).1.filter (·.toOption.isSome) ∧
      ∀ later,
        (initial.run (initial.accepted updates ++ later)).1.drop (initial.accepted updates).length =
          (initial.run (updates ++ later)).1.drop updates.length ∧
        (initial.run (initial.accepted updates ++ later)).2 = (initial.run (updates ++ later)).2 ∧
        (initial.run (initial.accepted updates ++ later)).2.finish =
          (initial.run (updates ++ later)).2.finish := by
  have pruned := initial.run_accepted updates
  have atomic : (initial.run updates).2.Atomic := by
    apply atomic_of_built
    have starts := start_ok started
    rwa [(starts.keeps_of_reaches (run_reaches initial updates)).channels]
  refine ⟨atomic, ?_, fun later => ?_⟩
  · rw [pruned, results_eq]
  · have short := initial.length_run (initial.accepted updates)
    have long := initial.length_run updates
    have last : (initial.run (initial.accepted updates)).2 = (initial.run updates).2 := by
      rw [pruned]
    rw [run_append, run_append, last]
    exact ⟨by rw [List.drop_left' short, List.drop_left' long], rfl, rfl⟩

/-- The short compilation goes on as it would without its refused update, whose latch words have met
the boundary before them. -/
theorem run_atomic_sample : ∃ initial, Sample.channels.Built ∧
    start Sample.channels Sample.config = .ok initial ∧
    (initial.run Sample.updates).2.Atomic ∧
    (initial.run (initial.accepted Sample.updates)).1 =
      (initial.run Sample.updates).1.filter (·.toOption.isSome) := by
  obtain ⟨initial, started, -⟩ := Sample.starts
  obtain ⟨atomic, results, -⟩ := run_atomic Sample.built started Sample.updates
  exact ⟨initial, Sample.built, started, atomic, results⟩

end PulseProgram.Sequencer

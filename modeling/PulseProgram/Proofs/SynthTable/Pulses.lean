import PulseProgram.Proofs.Outcome
import PulseProgram.Proofs.Timeline.Words
import PulseProgram.SynthTable

/-!
# Rows and their trigger pulses

The check for a new row has four ends, told apart by the room in the table, the room before
the step and the triggers in the pulse. After a check that passed, the row and the pulse
have a place.
-/

namespace PulseProgram.SynthTable

/-- The ends of the check for a row at a step on the timeline. Each end states what was found before
it, so no end needs the order of the checks to be read from them. -/
inductive CheckEnds (table : SynthTable) (timeline : Timeline) (step : Nat) :
    Except Fault Span → Prop where
  | full (no_room : table.capacity ≤ table.rowCount) :
      CheckEnds table timeline step (.error (.rejected (.synthTableFull table.capacity)))
  | underflow (room : table.rowCount < table.capacity) (early : step < table.triggerWidth) :
      CheckEnds table timeline step
        (.error (.rejected (.regionUnderflow step table.triggerWidth)))
  | collision (room : table.rowCount < table.capacity) (fits : table.triggerWidth ≤ step)
      (taken : ∃ other, step - table.triggerWidth ≤ other ∧ other < step ∧
        (timeline.wordAt other).carries Word.synthTrigger = true) :
      CheckEnds table timeline step
        (.error (.rejected (.synthTriggerCollision ⟨step - table.triggerWidth, step⟩)))
  | passed (room : table.rowCount < table.capacity) (fits : table.triggerWidth ≤ step)
      (free : ∀ other, step - table.triggerWidth ≤ other → other < step →
        (timeline.wordAt other).carries Word.synthTrigger = false) :
      CheckEnds table timeline step (.ok ⟨step - table.triggerWidth, step⟩)

/-- The check has exactly these ends. Nothing is assumed of the words on the timeline; the step lies
on it, so every access of the check has a place. -/
theorem check_ends {timeline : Timeline} {step : Nat} (table : SynthTable)
    (inside : step ≤ timeline.capacity) :
    table.CheckEnds timeline step (table.check timeline step) := by
  unfold check
  split
  · next full => exact .full full
  · next room =>
    have room := Nat.lt_of_not_le room
    rw [Timeline.regionBefore_of_le _ inside]
    split
    · next early => exact .underflow room early
    · next late =>
      have fits := Nat.le_of_not_lt late
      obtain ⟨taken, tested, carries⟩ :=
        @Timeline.anyFlagged?_spec timeline (step - table.triggerWidth) step Word.synthTrigger
          (Nat.sub_le _ _) inside
      change table.CheckEnds timeline step (inBounds _ >>= _)
      rw [tested]
      change table.CheckEnds timeline step (if taken = true then _ else _)
      split
      · next found => exact .collision room fits (carries.mp found)
      · next absent =>
        refine .passed room fits fun other after before => ?_
        by_contra carried
        exact absent (carries.mpr ⟨other, after, before, by simpa using carried⟩)

/-- With room in the table and a free pulse the check passes. The other ends are excluded, one for
each assumption. -/
theorem check_of_free {table : SynthTable} {timeline : Timeline} {step : Nat}
    (inside : step ≤ timeline.capacity) (room : table.rowCount < table.capacity)
    (fits : table.triggerWidth ≤ step)
    (free : ∀ other, step - table.triggerWidth ≤ other → other < step →
      (timeline.wordAt other).carries Word.synthTrigger = false) :
    table.check timeline step = .ok ⟨step - table.triggerWidth, step⟩ := by
  have ends := table.check_ends inside
  generalize table.check timeline step = outcome at ends
  cases ends with
  | full no_room => exact absurd room (Nat.not_lt.mpr no_room)
  | underflow _ early => exact absurd early (Nat.not_lt.mpr fits)
  | collision _ _ taken =>
    obtain ⟨other, after, before, up⟩ := taken
    rw [free other after before] at up
    exact nomatch up
  | passed => rfl

/-- With room in the table and on the timeline a row is appended and its pulse raised. The pulse is
laid over whatever words are there, whether or not it was checked. -/
theorem push?_spec {table : SynthTable} {timeline : Timeline} {start stop : Nat}
    (update : SynthUpdate) (room : table.rowCount < table.capacity) (ordered : start ≤ stop)
    (inside : stop ≤ timeline.capacity) :
    ∃ flagged, table.push? timeline ⟨start, stop⟩ update =
        some ({ table with rows := table.rows.push (table.merge update) }, flagged) ∧
      flagged.capacity = timeline.capacity ∧
      ∀ step, flagged.wordAt step =
        if start ≤ step ∧ step < stop then timeline.wordAt step ||| Word.synthTrigger
        else timeline.wordAt step := by
  obtain ⟨flagged, raised, capacity, words⟩ :=
    Timeline.setFlag?_spec Word.synthTrigger ordered inside
  exact ⟨flagged, by rw [push?, if_pos room, raised, Option.map_some], capacity, words⟩

end PulseProgram.SynthTable

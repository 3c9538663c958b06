import PulseProgram.Proofs.Sequencer.Superposition

/-!
# Rows and the edges of their trigger

The synthesizer steps to its next row on every rising edge of its trigger. Each row raises
the trigger in a pulse of fixed length that ends at its boundary, and pulses never overlap.
But they may touch: the pulse of a row whose boundary lies one trigger width after the
boundary of another row begins where the other ends, the trigger stays up between them, and
the two rows have one edge between them.

So the rising edges of a finished program and the touching pulses together are as many as
the rows. There is an edge for every row exactly if no two rows lie one trigger width apart.
-/

namespace PulseProgram

/-- Whether a flag rises at a step: the word there carries it, and the word before does not or there
is none. -/
def rises (flag : Word) (words : List Word) (step : Nat) : Bool :=
  Word.carries (words[step]?.getD 0#32) flag &&
    (decide (step = 0) || !Word.carries (words[step - 1]?.getD 0#32) flag)

/-- The number of rising edges of a flag. -/
def risingEdges (flag : Word) (words : List Word) : Nat :=
  (List.range words.length).countP (rises flag words)

/-- The boundaries of the placed updates that come with a row. -/
def rowBoundaries (placed : List Placed) : List Nat :=
  (placed.filter Placed.hasRow).map Placed.boundary

/-- The number of pulses that begin where another pulse ends. -/
def touching (width : Nat) (boundaries : List Nat) : Nat :=
  boundaries.countP fun boundary => decide (boundary - width ∈ boundaries)

section Pulses

variable {flag : Word} {words : List Word} {width : Nat} {boundaries : List Nat}

/-- Pulses that do not overlap, with room for each of them. They may touch, in which case the flag
stays up from one to the next. -/
structure Spaced (width : Nat) (boundaries : List Nat) : Prop where
  room : ∀ boundary ∈ boundaries, width ≤ boundary
  ordered : boundaries.Pairwise fun earlier later => earlier + width ≤ later

/-- Different pulses lie apart, whichever comes first. -/
theorem Spaced.apart (spaced : Spaced width boundaries) :
    ∀ one ∈ boundaries, ∀ other ∈ boundaries,
      one = other ∨ one + width ≤ other ∨ other + width ≤ one := by
  refine List.Pairwise.forall_of_forall_of_flip (fun _ _ => .inl rfl) ?_ ?_
  · exact spaced.ordered.imp fun before => .inr (.inl before)
  · exact spaced.ordered.imp fun before => .inr (.inr before)

/-- Pulses of some length end at different boundaries. -/
theorem Spaced.nodup (spaced : Spaced width boundaries) (positive : 0 < width) :
    boundaries.Nodup :=
  spaced.ordered.imp fun before => by omega

/-- A flag rises exactly where a pulse begins that does not touch another. The words carry the flag
in the pulses and nowhere else, and nothing is asked of their other flags.

Proof: at the first step of a pulse the flag is up. The step before is in a pulse exactly if one
ends there, as pulses do not overlap. Inside a pulse the step before is up as well. -/
theorem Spaced.rises_iff (spaced : Spaced width boundaries) (positive : 0 < width)
    (up : ∀ step, Word.carries (words[step]?.getD 0#32) flag = true ↔
      ∃ boundary ∈ boundaries, boundary ≤ step + width ∧ step < boundary) (step : Nat) :
    rises flag words step = true ↔
      ∃ boundary ∈ boundaries, boundary - width ∉ boundaries ∧ boundary - width = step := by
  have earlier : (step = 0 ∨ ¬Word.carries (words[step - 1]?.getD 0#32) flag = true) ↔
      (step = 0 ∨ ∀ boundary ∈ boundaries,
        ¬(boundary ≤ step - 1 + width ∧ step - 1 < boundary)) := by
    rw [up]
    simp only [not_exists, not_and]
  rw [rises, Bool.and_eq_true, Bool.or_eq_true, decide_eq_true_eq, Bool.not_eq_true',
    ← Bool.not_eq_true, up, earlier]
  constructor
  · rintro ⟨⟨boundary, member, after, before⟩, first⟩
    have begins : boundary - width = step := by
      have room := spaced.room boundary member
      rcases first with rfl | low
      · omega
      · have apart := low boundary member
        omega
    refine ⟨boundary, member, ?_, begins⟩
    rw [begins]
    intro touched
    have room := spaced.room step touched
    rcases first with rfl | low
    · omega
    · exact low step touched ⟨by omega, by omega⟩
  · rintro ⟨boundary, member, alone, rfl⟩
    have room := spaced.room boundary member
    refine ⟨⟨boundary, member, by omega, by omega⟩, ?_⟩
    by_cases first : boundary - width = 0
    · exact .inl first
    · refine .inr fun other otherMember meets => ?_
      have different : other ≠ boundary - width := by
        rintro rfl
        exact alone otherMember
      have apart := spaced.apart other otherMember boundary member
      omega

/-- The rising edges and the touching pulses are together as many as the pulses.

Proof: each rising edge is the beginning of one pulse that does not touch another, so edges and
pulses that do not touch are equally many. -/
theorem Spaced.edges_add_touching (spaced : Spaced width boundaries) (positive : 0 < width)
    (inside : ∀ boundary ∈ boundaries, boundary ≤ words.length)
    (up : ∀ step, Word.carries (words[step]?.getD 0#32) flag = true ↔
      ∃ boundary ∈ boundaries, boundary ≤ step + width ∧ step < boundary) :
    risingEdges flag words + touching width boundaries = boundaries.length := by
  let alone : Nat → Bool := fun boundary => !decide (boundary - width ∈ boundaries)
  have begins_nodup : ((boundaries.filter alone).map (· - width)).Nodup := by
    refine List.Nodup.map_on ?_ ((spaced.nodup positive).filter _)
    intro one oneMember other otherMember same
    have oneRoom := spaced.room one (List.mem_filter.mp oneMember).1
    have otherRoom := spaced.room other (List.mem_filter.mp otherMember).1
    omega
  have same : ((List.range words.length).filter (rises flag words)).Perm
      ((boundaries.filter alone).map (· - width)) := by
    apply (List.perm_ext_iff_of_nodup (List.nodup_range.filter _) begins_nodup).mpr
    intro step
    rw [List.mem_filter, List.mem_range, spaced.rises_iff positive up, List.mem_map]
    simp only [List.mem_filter, alone, Bool.not_eq_true', decide_eq_false_iff_not, and_assoc]
    constructor
    · exact fun found => found.2
    · rintro ⟨boundary, member, rest⟩
      have stored := inside boundary member
      have room := spaced.room boundary member
      exact ⟨by omega, boundary, member, rest⟩
  have edges : risingEdges flag words = boundaries.countP alone := by
    rw [risingEdges, List.countP_eq_length_filter, same.length_eq, List.length_map,
      List.countP_eq_length_filter]
  rw [edges, touching, Nat.add_comm, List.length_eq_countP_add_countP]
  congr 2
  funext boundary
  simp [alone]

end Pulses

/-- The boundary of a placed update is that of a row exactly if the update comes with one. -/
theorem mem_rowBoundaries {placed : List Placed} {boundary : Nat} :
    boundary ∈ rowBoundaries placed ↔
      ∃ one ∈ placed, one.hasRow = true ∧ one.boundary = boundary := by
  simp only [rowBoundaries, List.mem_map, List.mem_filter, and_assoc]

/-- One more placed update adds its boundary if it comes with a row. -/
theorem rowBoundaries_append (placed : List Placed) (one : Placed) :
    rowBoundaries (placed ++ [one]) =
      rowBoundaries placed ++ if one.hasRow = true then [one.boundary] else [] := by
  rw [rowBoundaries, List.filter_append, List.map_append, List.filter_singleton, rowBoundaries]
  cases one.hasRow <;> rfl

namespace Sequencer

variable {channels : ChannelMap} {config : Config} {initial sequencer : Sequencer}
  {placed : List Placed}

/-- The pulse of a new row begins no earlier than the pulses before it end. Otherwise the last step
of the earlier pulse would lie in the new one, whose steps were found free of the trigger. -/
theorem Starts.le_pulseStart (starts : Starts channels config initial)
    (reached : initial.Reaches placed sequencer)
    (behind : ∀ earlier ∈ placed, earlier.boundary ≤ sequencer.step) {update : Update}
    {resolved : ResolvedUpdate} (accepts : sequencer.Accepts update resolved)
    (named : update.synth.isEmpty = false) :
    ∀ boundary ∈ rowBoundaries placed, boundary + config.triggerWidth ≤ sequencer.step := by
  intro boundary member
  obtain ⟨one, placedOne, row, rfl⟩ := mem_rowBoundaries.mp member
  have width := (starts.keeps_of_reaches reached).width
  have room := (starts.fits_of_reaches reached one placedOne).pulse_room row
  obtain ⟨-, pulseRoom, free⟩ := accepts.row named
  have passed := behind one placedOne
  rw [pulseStart, width] at free
  rw [width] at pulseRoom
  by_contra meets
  have clear := free (one.boundary - 1) (by omega) (by omega)
  have up : (sequencer.timeline.wordAt (one.boundary - 1)).carries Word.synthTrigger = true := by
    exact (starts.carries_synth_iff reached _).mpr
      ⟨one, placedOne, Placed.pulses_iff.mpr ⟨row, by omega, by omega⟩⟩
  rw [up] at clear
  contradiction

/-- The pulses of all rows are spaced, whatever updates are placed between the rows. -/
theorem Starts.spaced (starts : Starts channels config initial)
    (offset_finite : config.startOffset.isFinite = true) (offset_nonneg : 0 ≤ config.startOffset)
    (reached : initial.Reaches placed sequencer) :
    Spaced config.triggerWidth (rowBoundaries placed) := by
  refine ⟨?_, ?_⟩
  · intro boundary member
    obtain ⟨one, placedOne, row, rfl⟩ := mem_rowBoundaries.mp member
    exact (starts.fits_of_reaches reached one placedOne).pulse_room row
  · induction reached with
    | initial => exact List.Pairwise.nil
    | @place placed sequencer next update boundary reached applied inductionHypothesis =>
      obtain ⟨rfl, resolved, accepts, -⟩ := apply_ok applied
      have behind := starts.boundary_le offset_finite offset_nonneg reached
      rw [rowBoundaries_append]
      by_cases row : Placed.hasRow ⟨update, sequencer.step⟩ = true
      · rw [if_pos row]
        refine List.pairwise_append.mpr ⟨inductionHypothesis, List.pairwise_singleton _ _, ?_⟩
        intro earlier old later new
        obtain rfl := List.mem_singleton.mp new
        exact starts.le_pulseStart reached behind accepts
          (by simpa [Placed.hasRow] using row) earlier old
      · rw [if_neg row, List.append_nil]
        exact inductionHypothesis

/-- The words of the finished program carry the trigger exactly in the pulses of the rows. The
program ends at the cursor, which no pulse reaches beyond. -/
theorem Starts.finished_carries_synth_iff (starts : Starts channels config initial)
    (offset_finite : config.startOffset.isFinite = true) (offset_nonneg : 0 ≤ config.startOffset)
    (reached : initial.Reaches placed sequencer) (step : Nat) :
    Word.carries (sequencer.finish.waveform.toList[step]?.getD 0#32) Word.synthTrigger = true ↔
      ∃ boundary ∈ rowBoundaries placed,
        boundary ≤ step + config.triggerWidth ∧ step < boundary := by
  have pulses : (∃ one ∈ placed, one.pulses config.triggerWidth step = true) ↔
      ∃ boundary ∈ rowBoundaries placed,
        boundary ≤ step + config.triggerWidth ∧ step < boundary := by
    constructor
    · rintro ⟨one, member, up⟩
      obtain ⟨named, within⟩ := Placed.pulses_iff.mp up
      exact ⟨one.boundary, mem_rowBoundaries.mpr ⟨one, member, named, rfl⟩, within⟩
    · rintro ⟨boundary, row, within⟩
      obtain ⟨one, member, named, rfl⟩ := mem_rowBoundaries.mp row
      exact ⟨one, member, Placed.pulses_iff.mpr ⟨named, within⟩⟩
  rw [finish, Timeline.view_toList, List.getElem?_take, ← pulses,
    ← starts.carries_synth_iff reached]
  split
  · rfl
  · next beyond =>
    rw [starts.carries_synth_iff reached, pulses]
    constructor
    · intro up
      exact absurd up (by simp [Word.carries])
    · rintro ⟨boundary, row, -, before⟩
      obtain ⟨one, member, -, rfl⟩ := mem_rowBoundaries.mp row
      have behind := starts.boundary_le offset_finite offset_nonneg reached one member
      have inside := (starts.fits_of_reaches reached one member).inside
      rw [← (starts.keeps_of_reaches reached).capacity] at inside
      omega

/-- Along every run with a trigger pulse of at least one step, the rising edges of the finished
program and the touching pulses are together as many as the rows. So there is an edge for each row
exactly if no two rows lie one trigger width apart. The size of the timeline is not limited, and
neither are the updates.

Proof: the pulses of a run are spaced and the words carry the trigger in them only, so
`Spaced.edges_add_touching` counts them. The equivalence says that no pulse touches another. -/
theorem run_edges (started : start channels config = .ok initial)
    (offset_finite : config.startOffset.isFinite = true) (offset_nonneg : 0 ≤ config.startOffset)
    (positive : 0 < config.triggerWidth) (updates : List Update) :
    risingEdges Word.synthTrigger (initial.run updates).2.finish.waveform.toList +
        touching config.triggerWidth (rowBoundaries (initial.placed updates)) =
      (initial.run updates).2.finish.rowCount ∧
    (risingEdges Word.synthTrigger (initial.run updates).2.finish.waveform.toList =
        (initial.run updates).2.finish.rowCount ↔
      ∀ boundary ∈ rowBoundaries (initial.placed updates),
        boundary - config.triggerWidth ∉ rowBoundaries (initial.placed updates)) := by
  have starts := start_ok started
  have reached := run_reaches initial updates
  have keeps := starts.keeps_of_reaches reached
  have inside : ∀ boundary ∈ rowBoundaries (initial.placed updates),
      boundary ≤ (initial.run updates).2.finish.waveform.toList.length := by
    intro boundary row
    obtain ⟨one, member, -, rfl⟩ := mem_rowBoundaries.mp row
    have behind := starts.boundary_le offset_finite offset_nonneg reached one member
    have inside := (starts.fits_of_reaches reached one member).inside
    rw [finish, Timeline.view_toList, List.length_take, Timeline.words_length, keeps.capacity]
    omega
  have rows : (initial.run updates).2.finish.rowCount =
      (rowBoundaries (initial.placed updates)).length := by
    rw [rowBoundaries, List.length_map, ← List.countP_eq_length_filter,
      ← starts.rowCount_of_reaches reached]
    rfl
  have total := (starts.spaced offset_finite offset_nonneg reached).edges_add_touching positive
    inside (starts.finished_carries_synth_iff offset_finite offset_nonneg reached)
  rw [rows]
  refine ⟨total, ?_⟩
  have none_touching : touching config.triggerWidth (rowBoundaries (initial.placed updates)) = 0 ↔
      ∀ boundary ∈ rowBoundaries (initial.placed updates),
        boundary - config.triggerWidth ∉ rowBoundaries (initial.placed updates) := by
    simp only [touching, List.countP_eq_zero, decide_eq_true_eq]
  rw [← none_touching]
  omega

/-- The rows of the short compilation, counted by their edges. -/
theorem run_edges_sample : ∃ initial, start Sample.channels Sample.config = .ok initial ∧
    Sample.config.startOffset.isFinite = true ∧ 0 ≤ Sample.config.startOffset ∧
    0 < Sample.config.triggerWidth ∧
    risingEdges Word.synthTrigger (initial.run Sample.updates).2.finish.waveform.toList +
        touching Sample.config.triggerWidth (rowBoundaries (initial.placed Sample.updates)) =
      (initial.run Sample.updates).2.finish.rowCount := by
  obtain ⟨initial, started, -⟩ := Sample.starts
  obtain ⟨finite, nonneg, -, positive⟩ := Sample.timing
  exact ⟨initial, started, finite, nonneg, positive,
    (run_edges started finite nonneg positive Sample.updates).1⟩

/-- Two rows that lie one trigger width apart. -/
def touchingUpdates : List Update := [
  { duration := 4e-6, synth := [("f", 1)] },
  { duration := 4e-6, synth := [("f", 2)] }]

/-- Both rows are accepted, and the finished program has one rising edge for the two. -/
theorem run_edges_touching : ∃ initial,
    start Sample.channels Sample.config = .ok initial ∧
    Sample.config.startOffset.isFinite = true ∧ 0 ≤ Sample.config.startOffset ∧
    0 < Sample.config.triggerWidth ∧
    (initial.run touchingUpdates).1 = [.ok 8, .ok 12] ∧
    risingEdges Word.synthTrigger (initial.run touchingUpdates).2.finish.waveform.toList = 1 ∧
    (initial.run touchingUpdates).2.finish.rowCount = 2 := by
  have evaluated : (start Sample.channels Sample.config).toOption.map (fun initial =>
      ((initial.run touchingUpdates).1,
        risingEdges Word.synthTrigger (initial.run touchingUpdates).2.finish.waveform.toList,
        (initial.run touchingUpdates).2.finish.rowCount)) = some ([.ok 8, .ok 12], 1, 2) := by
    decide +kernel
  obtain ⟨initial, started, -⟩ := Sample.starts
  rw [started] at evaluated
  obtain ⟨outcomes, others⟩ := Prod.mk.inj (Option.some.inj evaluated)
  obtain ⟨edges, rows⟩ := Prod.mk.inj others
  obtain ⟨finite, nonneg, -, positive⟩ := Sample.timing
  exact ⟨initial, started, finite, nonneg, positive, outcomes, edges, rows⟩

end Sequencer

end PulseProgram

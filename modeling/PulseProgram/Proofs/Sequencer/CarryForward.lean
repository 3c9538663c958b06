import PulseProgram.Proofs.Sequencer.Atomicity
import PulseProgram.Proofs.Update.SynthEntries

/-!
# The rows of a run

A row is merged from the row before it, which is all that is left of the updates before. Yet
over a whole run every row says for each channel what the latest update that names the channel
gave to it, and zero if there is none: the last row always stands for all updates so far.
-/

namespace PulseProgram.Sequencer

/-- The value that a channel was given last, and zero if it never was. It is looked up in the whole
list of updates and knows nothing of rows. -/
def latest (channels : ChannelMap) (updates : List Update) (address : Fin 4) : Binary64 :=
  (updates.reverse.findSome? (·.given? channels address)).getD 0

/-- The latest values of all channels, as one row of the table. -/
def latestRow (channels : ChannelMap) (updates : List Update) : SynthRow :=
  Vector.ofFn (latest channels updates)

/-- One row for each update, with the latest values up to it. This is what the table of a run is
measured by. -/
def latestRows (channels : ChannelMap) (updates : List Update) : List SynthRow :=
  (List.range updates.length).map fun number => latestRow channels (updates.take (number + 1))

/-- What an update gives is the latest, and what it does not give stays as it was given before. -/
theorem latest_concat (channels : ChannelMap) (updates : List Update) (update : Update)
    (address : Fin 4) :
    latest channels (updates ++ [update]) address =
      (update.given? channels address).getD (latest channels updates address) := by
  rw [latest, List.reverse_append, List.reverse_singleton, List.singleton_append,
    List.findSome?_cons]
  cases update.given? channels address with
  | none => rfl
  | some value => rfl

/-- Without updates every channel is at zero, which is also the row that a table begins from. -/
theorem latestRow_nil (channels : ChannelMap) : latestRow channels [] = SynthRow.initial := by
  apply Vector.ext
  intro address inside
  rw [latestRow, Vector.getElem_ofFn, SynthRow.initial, Vector.getElem_replicate]
  rfl

/-- A later update adds a row and leaves those before it as they are. -/
theorem latestRows_concat (channels : ChannelMap) (updates : List Update) (update : Update) :
    latestRows channels (updates ++ [update]) =
      latestRows channels updates ++ [latestRow channels (updates ++ [update])] := by
  rw [latestRows, List.length_append, List.length_singleton, List.range_succ, List.map_append,
    List.map_singleton, List.take_of_length_le (by simp), latestRows]
  congr 1
  apply List.map_congr_left
  intro number inside
  rw [List.take_append_of_le_length (List.mem_range.mp inside)]

/-- Rows stay as they are, whatever updates follow: the rows so far begin those of any longer
list. -/
theorem latestRows_begin (channels : ChannelMap) (updates later : List Update) :
    latestRows channels updates <+: latestRows channels (updates ++ later) := by
  induction later generalizing updates with
  | nil => rw [List.append_nil]
  | cons update rest inductionHypothesis =>
    have longer := inductionHypothesis (updates ++ [update])
    rw [latestRows_concat, List.append_assoc, List.singleton_append] at longer
    exact (List.prefix_append _ _).trans longer

/-- The last row has the latest values of all updates, and an empty table stands at zero. -/
theorem latestRows_last (channels : ChannelMap) (updates : List Update) :
    (latestRows channels updates).getLast?.getD SynthRow.initial = latestRow channels updates := by
  rcases updates.eq_nil_or_concat with rfl | ⟨earlier, last, rfl⟩
  · exact (latestRow_nil channels).symm
  · rw [List.concat_eq_append, latestRows_concat, List.getLast?_concat, Option.getD_some]

/-- Merging an update into a table of the latest values makes the next row of them. The merge sees
the last row only, which is enough. -/
theorem merge_latest {table : SynthTable} {channels : ChannelMap} {updates : List Update}
    {update : Update} {values : SynthUpdate}
    (rows : table.rows.toList = latestRows channels updates)
    (given : ∀ (address : Nat) (inside : address < 4),
      values[address] = update.given? channels address) :
    table.merge values = latestRow channels (updates ++ [update]) := by
  have carried : table.rows.back?.getD SynthRow.initial = latestRow channels updates := by
    rw [← latestRows_last, ← rows, Array.getLast?_toList]
  apply Vector.ext
  intro address inside
  rw [SynthTable.merge, Vector.getElem_zipWith, carried, latestRow, latestRow,
    Vector.getElem_ofFn, Vector.getElem_ofFn, latest_concat]
  rw [given address inside]

/-- The updates that come with a row, which are those that name a synthesizer channel. -/
def withRow (updates : List Update) : List Update := updates.filter (!·.synth.isEmpty)

/-- A later update comes after all others, if it comes with a row at all. -/
theorem withRow_concat (updates : List Update) (update : Update) :
    withRow (updates ++ [update]) =
      withRow updates ++ if update.synth.isEmpty then [] else [update] := by
  rw [withRow, List.filter_append, List.filter_singleton]
  cases update.synth.isEmpty with
  | true => rfl
  | false => rfl

section Chains

variable {channels : ChannelMap} {config : Config} {initial sequencer : Sequencer}
  {placed : List Placed}

/-- Every placed update resolves in the map that the run started with. -/
theorem Starts.resolves_of_reaches (starts : Starts channels config initial)
    (reached : initial.Reaches placed sequencer) :
    ∀ one ∈ placed, ∃ resolved, one.update.resolve channels = .ok resolved := by
  induction reached with
  | initial =>
    intro one absent
    exact absurd absent List.not_mem_nil
  | @place placed sequencer next update boundary reached applied inductionHypothesis =>
    obtain ⟨-, resolved, accepts, -⟩ := apply_ok applied
    intro one member
    rcases List.mem_append.mp member with old | new
    · exact inductionHypothesis one old
    · obtain rfl := List.mem_singleton.mp new
      refine ⟨resolved, ?_⟩
      rw [← (starts.keeps_of_reaches reached).channels]
      exact accepts.resolves

/-- The table has the latest values up to each placed update that comes with a row.

Proof: by induction along the chain. An update with a row merges into the last row, which has the
latest values so far, and an update without one leaves table and values as they are. -/
theorem Starts.rows_of_reaches (starts : Starts channels config initial)
    (reached : initial.Reaches placed sequencer) :
    sequencer.table.rows.toList = latestRows channels (withRow (placed.map (·.update))) := by
  induction reached with
  | initial =>
    have none : initial.table.rows = #[] := Array.eq_empty_of_size_eq_zero starts.rowCount
    rw [none]
    rfl
  | @place placed sequencer next update boundary reached applied inductionHypothesis =>
    obtain ⟨-, resolved, accepts, follows⟩ := apply_ok applied
    obtain ⟨values, row, places⟩ := Update.resolve_synth accepts.resolves
    rw [(starts.keeps_of_reaches reached).channels] at places
    rw [List.map_append, List.map_singleton, withRow_concat, follows.table, row]
    by_cases unnamed : update.synth.isEmpty = true
    · rw [if_pos unnamed, if_pos unnamed, List.append_nil]
      exact inductionHypothesis
    · rw [if_neg unnamed, if_neg unnamed, latestRows_concat, Array.toList_push,
        inductionHypothesis,
        merge_latest inductionHypothesis fun address inside => (places address inside).1]

end Chains

/-! ## Runs -/

/-- What the rows of a finished run say: how many there are, what each holds for each channel, and
that neither refused updates nor later ones make a difference to them. -/
structure CarriesForward (channels : ChannelMap) (initial : Sequencer) (updates : List Update) :
    Prop where
  /-- There is one row for each placed update that names a synthesizer channel. -/
  count : (initial.run updates).2.finish.rows.length = (withRow (initial.accepted updates)).length
  /-- The row of such an update has the latest values up to it, in the order of the updates. -/
  value : ∀ number row, (initial.run updates).2.finish.rows[number]? = some row →
    ∀ address : Fin 4, row[address] =
      latest channels ((withRow (initial.accepted updates)).take (number + 1)) address
  /-- The value given to a channel is that of the one entry with a name of the channel. -/
  given : ∀ update ∈ initial.accepted updates, ∀ (address : Fin 4) (value : Binary64),
    update.given? channels address = some value ↔
      ∃ name, (name, value) ∈ update.synth ∧ channels.resolve name .synth = .ok address.val
  /-- Updates that are not placed make no difference. -/
  rejected : (initial.run (initial.accepted updates)).2.finish.rows =
    (initial.run updates).2.finish.rows
  /-- Rows stay as they are, whatever updates follow. -/
  kept : ∀ later, (initial.run updates).2.finish.rows <+:
    (initial.run (updates ++ later)).2.finish.rows

/-- Every run carries the latest values forward, over any mix of placed and refused updates. No map
has to be built, and neither the start of the cursor nor the size of the timeline is limited.

Proof: `Starts.rows_of_reaches` gives the rows of the run, `run_accepted` those without the refused
updates, and `latestRows_begin` those of a longer run. What an update gives is read off its
entries. -/
theorem run_carriesForward {channels : ChannelMap} {config : Config} {initial : Sequencer}
    (started : start channels config = .ok initial) (updates : List Update) :
    CarriesForward channels initial updates := by
  have starts := start_ok started
  have rows (updates : List Update) : (initial.run updates).2.finish.rows =
      latestRows channels (withRow (initial.accepted updates)) :=
    starts.rows_of_reaches (run_reaches initial updates)
  refine ⟨?_, ?_, ?_, ?_, ?_⟩
  · rw [rows, latestRows, List.length_map, List.length_range]
  · intro number row stored address
    rw [rows, latestRows, List.getElem?_map] at stored
    obtain ⟨position, listed, rfl⟩ := Option.map_eq_some_iff.mp stored
    obtain ⟨inside, rfl⟩ := List.getElem?_eq_some_iff.mp listed
    rw [List.getElem_range, latestRow]
    simp
  · intro update placed address value
    obtain ⟨one, member, rfl⟩ := List.mem_map.mp placed
    obtain ⟨resolved, resolves⟩ :=
      starts.resolves_of_reaches (run_reaches initial updates) one member
    exact Update.given?_eq_some_iff resolves
  · rw [initial.run_accepted updates]
  · intro later
    have longer := starts.rows_of_reaches ((run_reaches initial updates).run later)
    rw [List.map_append, withRow, List.filter_append] at longer
    rw [rows, run_append, finish, longer]
    exact latestRows_begin channels _ _

/-- The short compilation carries a value forward: its first and its last update come with a row,
and the update between them is not placed. -/
theorem run_carriesForward_sample : ∃ initial, start Sample.channels Sample.config = .ok initial ∧
    CarriesForward Sample.channels initial Sample.updates := by
  obtain ⟨initial, started, -⟩ := Sample.starts
  exact ⟨initial, started, run_carriesForward started Sample.updates⟩

end PulseProgram.Sequencer

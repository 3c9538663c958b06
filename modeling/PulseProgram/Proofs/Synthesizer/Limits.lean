import PulseProgram.Proofs.Synthesizer.Accepting
import PulseProgram.Proofs.Synthesizer.Script

/-!
# What tables can be loaded

A synthesizer that carries out every command refuses a table only for what cannot be made a
command: an entry behind the last index of the device, or a frequency that does not fit its
word. The first such entry of the table, with the terminal entries last, is what loading comes
to, whether the synthesizer is behind an accepting link or only simulated. Since the terminal
entries lie behind the rows, one row less fits than the device has entries.
-/

namespace PulseProgram.Synthesizer

/-- The frequency fits its word. -/
def TakesFrequency (megahertz : Binary64) : Prop :=
  ∃ word, frequencyWord megahertz = .ok word

instance (megahertz : Binary64) : Decidable (TakesFrequency megahertz) :=
  decidable_of_iff ((frequencyWord megahertz).toOption.isSome = true) <| by
    cases outcome : frequencyWord megahertz <;> simp [TakesFrequency, outcome, Except.toOption]

/-- Why an entry cannot be written. The index is looked at first. -/
def refusal (entry : TableEntry) : Option SynthError :=
  if lastTableIndex < entry.index then some (.tableIndexOutOfRange entry.index lastTableIndex)
  else if TakesFrequency entry.megahertz then none
  else some (.frequencyOutOfRange entry.megahertz)

/-- What an operation comes to that is refused for a cause or for none. -/
def verdict : Option SynthError → Except SynthError Unit
  | none => .ok ()
  | some cause => .error cause

/-- Why a command could not be formed. -/
def causeOf : Except SynthError Command → Option SynthError
  | .ok _ => none
  | .error cause => some cause

/-! ## Synthesizers that carry out everything -/

/-- Whenever it is ready, a synthesizer carries out any command and is ready again. A real one may
fail at any time, so this is said of synthesizers that accept everything. -/
def CarriesOut {τ : Type} [Synthesizer τ] (ready : τ → Prop) : Prop :=
  ∀ command synthesizer, ready synthesizer →
    ∃ after, Synthesizer.send command synthesizer = (.ok (), after) ∧ ready after

/-- Commands in turn then end at the first that could not be formed. The synthesizer decides
nothing, so two of them come to the same. -/
theorem CarriesOut.requestAll_verdict {τ : Type} [Synthesizer τ] {ready : τ → Prop}
    (carries : CarriesOut ready) (commands : List (Except SynthError Command))
    {synthesizer : τ} (begins : ready synthesizer) :
    (requestAll commands synthesizer).1 = verdict (commands.findSome? causeOf) := by
  induction commands generalizing synthesizer with
  | nil => rfl
  | cons command rest inductionHypothesis =>
    cases command with
    | error cause => rfl
    | ok command =>
      obtain ⟨after, sent, readyAfter⟩ := carries command synthesizer begins
      have goesOn : requestAll (.ok command :: rest) synthesizer = requestAll rest after :=
        Operation.bind_run_ok sent
      rw [goesOn, inductionHypothesis readyAfter]
      rfl

/-- A synthesizer that is not there carries out everything. It has no state that could keep it from
doing so. -/
theorem simulated_carriesOut : CarriesOut fun _ : Simulated => True :=
  fun _ synthesizer _ => ⟨synthesizer, rfl, trivial⟩

/-- A synthesizer behind an accepting link carries out everything, since an acceptance is pending
whenever it waits for one. -/
theorem accepting_carriesOut {σ : Type} [SerialLink σ] :
    CarriesOut fun link : σ => Accepting link := by
  rintro command link ⟨pending, accepts, bytes, ready⟩
  obtain ⟨after, sent, left⟩ := accepts.send_ok ready command
  exact ⟨after, sent, pending, accepts, left⟩

/-! ## Entries that are refused -/

/-- An entry is written if its index and its frequency fit. Its channel is one of the device in
every entry of a table. -/
theorem refusal_eq_none_iff (entry : TableEntry) :
    refusal entry = none ↔ entry.index ≤ 32767 ∧ TakesFrequency entry.megahertz := by
  by_cases beyond : lastTableIndex < entry.index
  · have large : ¬entry.index ≤ 32767 := Nat.not_le.mpr beyond
    simp [refusal, beyond, large]
  · have small : entry.index ≤ 32767 := Nat.not_lt.mp beyond
    by_cases takes : TakesFrequency entry.megahertz <;> simp [refusal, beyond, small, takes]

/-- An index that is refused is that of the entry, and it lies behind the last of the device. -/
theorem index_of_refusal {entry : TableEntry} {index last : Nat}
    (refused : refusal entry = some (.tableIndexOutOfRange index last)) :
    entry.index = index ∧ last = 32767 ∧ 32767 < entry.index := by
  by_cases beyond : lastTableIndex < entry.index
  · obtain ⟨same, limit⟩ : entry.index = index ∧ lastTableIndex = last := by
      simpa [refusal, beyond] using refused
    exact ⟨same, limit.symm, beyond⟩
  · by_cases takes : TakesFrequency entry.megahertz <;> simp [refusal, beyond, takes] at refused

/-- A frequency that does not fit is told as it is, and not as the number that it comes to. -/
theorem cause_of_frequencyWord {megahertz : Binary64} {cause : SynthError}
    (refused : frequencyWord megahertz = .error cause) : cause = .frequencyOutOfRange megahertz := by
  simp only [frequencyWord] at refused
  split at refused <;> simp_all

/-- An entry for a channel of the device is a command unless it is refused, and the cause that is
told is that of the refusal. -/
theorem causeOf_tableEntry {entry : TableEntry} (channel : entry.channel < channelCount) :
    causeOf (Command.tableEntry entry) = refusal entry := by
  have checked : checkChannel entry.channel = .ok () := if_pos channel
  by_cases beyond : lastTableIndex < entry.index
  · simp [Command.tableEntry, checked, beyond, refusal, causeOf, bind, Except.bind]
  · cases outcome : frequencyWord entry.megahertz with
    | ok word =>
      have takes : TakesFrequency entry.megahertz := ⟨word, outcome⟩
      simp [Command.tableEntry, checked, beyond, refusal, takes, outcome, causeOf, bind,
        Except.bind, pure, Except.pure]
    | error cause =>
      have refuses : ¬TakesFrequency entry.megahertz := by simp [TakesFrequency, outcome]
      obtain rfl := cause_of_frequencyWord outcome
      simp [Command.tableEntry, checked, beyond, refusal, refuses, outcome, causeOf, bind,
        Except.bind]

/-- Of the script only entries can be refused, so what comes before and behind them does not
decide. -/
theorem findSome?_script (rows : List SynthRow) :
    (script rows).findSome? causeOf = (tableScript rows).findSome? refusal := by
  have prepared : (preparing.map Except.ok).findSome? causeOf = none := rfl
  have same : (tableScript rows).map (causeOf ∘ Command.tableEntry) =
      (tableScript rows).map refusal :=
    List.map_congr_left fun entry written => causeOf_tableEntry (mem_tableScript written).1
  have entries : ((tableScript rows).map Command.tableEntry).findSome? causeOf =
      (tableScript rows).findSome? refusal := by
    simpa [List.findSome?_map, Function.comp_def] using congrArg (List.findSome? id) same
  simp [script, List.findSome?_append, prepared, entries, causeOf]

/-! ## The entries of a table -/

/-- Every entry has a value of the table, also the terminal ones, which repeat those of the last
row. -/
theorem value_of_mem_tableScript {rows : List SynthRow} {entry : TableEntry}
    (written : entry ∈ tableScript rows) :
    ∃ row ∈ rows, ∃ channel : Fin 4, entry.megahertz = row.get channel := by
  have inRow {row : SynthRow} {index : Nat} {terminal : Bool}
      (listed : entry ∈ rowScript row index terminal) :
      ∃ channel : Fin 4, entry.megahertz = row.get channel := by
    obtain ⟨channel, -, rfl⟩ := List.mem_map.mp listed
    exact ⟨channel, rfl⟩
  rcases List.mem_append.mp written with going | last
  · obtain ⟨⟨row, index⟩, numbered, listed⟩ := List.mem_flatMap.mp going
    exact ⟨row, List.fst_mem_of_mem_zipIdx numbered, inRow listed⟩
  · obtain ⟨row, ends, listed⟩ := List.mem_flatMap.mp last
    exact ⟨row, List.mem_of_getLast? (by simpa using ends), inRow listed⟩

/-- Every value of the table has an entry at the index of its row. -/
theorem exists_mem_tableScript {rows : List SynthRow} {index : Nat} {row : SynthRow}
    (stored : rows[index]? = some row) (channel : Fin 4) :
    ∃ entry ∈ tableScript rows, entry.index = index ∧ entry.megahertz = row.get channel := by
  refine ⟨⟨channel, index, row.get channel, 0#16, fullAmplitude, false⟩, ?_, rfl, rfl⟩
  refine List.mem_append_left _ (List.mem_flatMap.mpr ⟨(row, index), ?_, ?_⟩)
  · rwa [List.mem_zipIdx_iff_getElem?]
  · exact List.mem_map.mpr ⟨channel, List.mem_finRange channel, rfl⟩

/-- A table that is not empty has an entry at the index behind its rows. -/
theorem exists_terminal_tableScript {rows : List SynthRow} (filled : rows ≠ []) :
    ∃ entry ∈ tableScript rows, entry.index = rows.length := by
  refine ⟨⟨0, rows.length, (rows.getLast filled).get 0, 0#16, fullAmplitude, true⟩, ?_, rfl⟩
  refine List.mem_append_right _ (List.mem_flatMap.mpr ⟨rows.getLast filled, ?_, ?_⟩)
  · simp [List.getLast?_eq_some_getLast filled]
  · exact List.mem_map.mpr ⟨0, List.mem_finRange 0, rfl⟩

/-! ## What loading comes to -/

/-- What loading a table comes to where everything is carried out. It is told by the table alone. -/
structure Limits (rows : List SynthRow) (outcome : Except SynthError Unit) : Prop where
  /-- The first entry that is refused decides, the terminal ones coming last. -/
  first : outcome = verdict ((tableScript rows).findSome? refusal)
  /-- A table is loaded exactly if it has room and its frequencies fit. -/
  succeeds : outcome = .ok () ↔ rows.length ≤ 32767 ∧
    ∀ row ∈ rows, ∀ channel : Fin 4, TakesFrequency (row.get channel)
  /-- An index that is refused is the first one behind the device's table. -/
  index : ∀ index last, outcome = .error (.tableIndexOutOfRange index last) →
    index = 32768 ∧ last = 32767 ∧ 32767 < rows.length

/-- The first entry that is refused for its index is one right behind the device's table.

Proof: if its index were larger, the row before it would have an entry at an index that is refused
as well, and that entry comes earlier. -/
theorem index_of_refused {rows : List SynthRow} {index last : Nat}
    (refused : (tableScript rows).findSome? refusal = some (.tableIndexOutOfRange index last)) :
    index = 32768 ∧ last = 32767 ∧ 32767 < rows.length := by
  obtain ⟨earlier, entry, later, split, refused, before⟩ := List.findSome?_eq_some_iff.mp refused
  obtain ⟨rfl, rfl, beyond⟩ := index_of_refusal refused
  have written : entry ∈ tableScript rows := by simp [split]
  obtain ⟨-, inside, -⟩ := mem_tableScript written
  refine ⟨?_, rfl, by omega⟩
  by_contra other
  have deep : 32768 < rows.length := by omega
  obtain ⟨lower, listed, place, -⟩ :=
    exists_mem_tableScript (List.getElem?_eq_getElem deep) 0
  have ascends := tableScript_ascends rows
  rw [split] at listed ascends
  obtain ⟨-, ascends, -⟩ := List.pairwise_append.mp ascends
  rcases List.mem_append.mp listed with old | rest
  · have fits := (refusal_eq_none_iff lower).mp (before lower old)
    omega
  · rcases List.mem_cons.mp rest with rfl | new
    · omega
    · rcases (List.pairwise_cons.mp ascends).1 lower new with less | ⟨same, -⟩ <;> omega

/-- No entry is refused exactly if the table has room and its frequencies fit. An empty table has no
entries; any other has terminal ones, which take the index behind the rows. -/
theorem findSome?_refusal_eq_none_iff (rows : List SynthRow) :
    (tableScript rows).findSome? refusal = none ↔ rows.length ≤ 32767 ∧
      ∀ row ∈ rows, ∀ channel : Fin 4, TakesFrequency (row.get channel) := by
  simp only [List.findSome?_eq_none_iff, refusal_eq_none_iff]
  constructor
  · intro fits
    constructor
    · by_cases filled : rows = []
      · simp [filled]
      · obtain ⟨entry, written, behind⟩ := exists_terminal_tableScript filled
        exact behind ▸ (fits entry written).1
    · intro row member channel
      obtain ⟨index, stored⟩ := List.mem_iff_getElem?.mp member
      obtain ⟨entry, written, -, value⟩ := exists_mem_tableScript stored channel
      exact value ▸ (fits entry written).2
  · rintro ⟨room, takes⟩ entry written
    obtain ⟨-, inside, -⟩ := mem_tableScript written
    obtain ⟨row, member, channel, value⟩ := value_of_mem_tableScript written
    exact ⟨Nat.le_trans inside room, value ▸ takes row member channel⟩

/-- The entries alone decide what loading comes to, so the same holds of every synthesizer that
carries out everything. -/
theorem limits_verdict (rows : List SynthRow) :
    Limits rows (verdict ((tableScript rows).findSome? refusal)) where
  first := rfl
  succeeds := by
    rw [← findSome?_refusal_eq_none_iff]
    cases (tableScript rows).findSome? refusal <;> simp [verdict]
  index := by
    intro index last refused
    cases found : (tableScript rows).findSome? refusal with
    | none => simp [verdict, found] at refused
    | some cause =>
      obtain rfl : cause = .tableIndexOutOfRange index last := by
        simpa [verdict, found] using refused
      exact index_of_refused found

/-- Where everything is carried out, loading a table comes to what its entries decide. -/
theorem CarriesOut.programTable_eq {τ : Type} [Synthesizer τ] {ready : τ → Prop}
    (carries : CarriesOut ready) (rows : List SynthRow) {synthesizer : τ}
    (begins : ready synthesizer) :
    (programTable (rows.map Vector.toList) synthesizer).1 =
      verdict ((tableScript rows).findSome? refusal) := by
  rw [Synthesizer.programTable_eq, carries.requestAll_verdict _ begins, findSome?_script]

end PulseProgram.Synthesizer

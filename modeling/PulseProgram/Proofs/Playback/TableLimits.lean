import PulseProgram.Proofs.Playback.Order
import PulseProgram.Proofs.Sequencer.Runs
import PulseProgram.Proofs.Synthesizer.Limits
import PulseProgram.Rehearsal.Bench

/-!
# Programs whose rows fit the synthesizer

The device has one entry more than a sequencer table has rows by default, which the terminal
copy of the last row needs. So if a program was compiled for no more rows than that, loading it
into a device that accepts everything can fail for a frequency only, and not for an index, even
if the table is filled to its last row.
-/

namespace PulseProgram

open Synthesizer

/-- A program that was compiled for at most so many rows, by some run of updates over some map and
configuration. -/
def CompiledWithin (rows : Nat) (program : Program) : Prop :=
  ∃ channels config initial, Sequencer.start channels config = .ok initial ∧
    config.synthCapacity ≤ rows ∧ ∃ updates, program = (initial.run updates).2.finish

/-- Such a program has no more rows, since a row that has no room is refused when it is compiled. -/
theorem CompiledWithin.length_le {rows : Nat} {program : Program}
    (compiled : CompiledWithin rows program) : program.rows.length ≤ rows := by
  obtain ⟨channels, config, initial, started, small, updates, rfl⟩ := compiled
  have room := (Sequencer.start_ok started).rowCount_le (Sequencer.run_reaches initial updates)
  calc (initial.run updates).2.finish.rows.length
      = (initial.run updates).2.table.rowCount := Array.length_toList
    _ ≤ config.synthCapacity := room
    _ ≤ rows := small

section Loading

variable {ω : Type} [SynthesizerConnection ω] {program : Program} {device opened : ω}

/-- What loading the rows comes to does not depend on the link being closed. The link that was
opened accepts everything, so the rows alone decide. -/
theorem Program.loadRows_limits
    (connected : SynthesizerConnection.connect device = (.ok (), opened))
    (accepting : Accepting opened) : Limits program.rows (program.loadRows device).1 := by
  rw [Program.loadRows_of_connected connected, Program.table,
    accepting_carriesOut.programTable_eq program.rows accepting]
  exact limits_verdict program.rows

variable [ClockedOutput ω]

/-- If playing is refused for an index, either loading is or the output says so. The latter is left
open, since nothing is assumed of the output. -/
theorem Program.loadRows_or_putOut
    (connected : SynthesizerConnection.connect device = (.ok (), opened)) {cause : SynthError}
    (failed : (program.play device).1 = .error (.synthesizer cause)) :
    (program.loadRows device).1 = .error cause ∨
      ∃ ready : ω, (program.putOut ready).1 = .error (.synthesizer cause) := by
  by_cases rows : program.rows = []
  · rw [Program.play_of_no_rows rows] at failed
    exact .inr ⟨device, failed⟩
  · cases loaded : Synthesizer.programTable program.table opened with
    | mk result after =>
      cases result with
      | ok _ =>
        rw [Program.play_programmed rows connected loaded] at failed
        exact .inr ⟨_, failed⟩
      | error other =>
        rw [Program.play_unprogrammed rows connected loaded] at failed
        obtain rfl : other = cause := by simpa using failed
        left
        rw [Program.loadRows_of_connected connected, loaded]

end Loading

/-- A bench passes the calls of its link on, so it accepts what its link does. -/
theorem Bench.passesOn (ο : Type) :
    PassesOn Bench.link (fun (bench : Bench ο) link => { bench with link }) fun _ => True where
  part_replace := fun _ _ => rfl
  stays := fun _ _ _ => trivial
  clearInput := fun _ _ => rfl
  write := fun _ _ _ => rfl
  flush := fun _ _ => rfl
  readByte := fun _ _ => rfl

/-- A table comes to the same on an accepting link as on a synthesizer that is not there: it is
loaded if it has at most 32767 rows and all its frequencies fit, and else the first entry that does
not fit is reported. So a program that was compiled for at most as many rows as there are by default
is never refused for an index by loading it. Nothing is assumed of the rows or of the program beyond
that, nor of the output.

Proof: synthesizers that carry out every command come to what the entries decide. The entries of a
program that was compiled so lie within the table of the device, the terminal ones included. -/
theorem table_limits {σ ω : Type} [SerialLink σ] [SynthesizerConnection ω] [ClockedOutput ω]
    {link : σ} {device opened : ω} (accepting : Accepting link)
    (connected : SynthesizerConnection.connect device = (.ok (), opened))
    (acceptingOpened : Accepting opened) :
    (∀ rows : List SynthRow,
      (programTable (rows.map Vector.toList) link).1 =
        (programTable (rows.map Vector.toList) (⟨⟩ : Simulated)).1 ∧
      Limits rows (programTable (rows.map Vector.toList) link).1) ∧
    ∀ program, CompiledWithin defaultSynthCapacity program →
      ((program.loadRows device).1 = .ok () ↔
        ∀ row ∈ program.rows, ∀ channel : Fin 4, TakesFrequency (row.get channel)) ∧
      ∀ index last,
        (program.loadRows device).1 ≠ .error (.tableIndexOutOfRange index last) ∧
        ((program.play device).1 = .error (.synthesizer (.tableIndexOutOfRange index last)) →
          ∃ ready : ω, (program.putOut ready).1 =
            .error (.synthesizer (.tableIndexOutOfRange index last))) := by
  constructor
  · intro rows
    rw [accepting_carriesOut.programTable_eq rows accepting,
      simulated_carriesOut.programTable_eq rows trivial]
    exact ⟨rfl, limits_verdict rows⟩
  · intro program compiled
    have few : program.rows.length ≤ 32767 := compiled.length_le
    have limits : Limits program.rows (program.loadRows device).1 :=
      Program.loadRows_limits connected acceptingOpened
    have fits (index last : Nat) :
        (program.loadRows device).1 ≠ .error (.tableIndexOutOfRange index last) := by
      intro refused
      obtain ⟨-, -, many⟩ := limits.index index last refused
      omega
    refine ⟨by simp [limits.succeeds, few], fun index last => ⟨fits index last, fun failed => ?_⟩⟩
    exact (Program.loadRows_or_putOut connected failed).resolve_left (fits index last)

namespace Sample

/-- A device in memory that agrees to everything. -/
def agreeingDevice : ScriptedDevice (String → Option String) :=
  { responder := fun _ => some acceptance }

/-- A bench with such a device. -/
def agreeingBench : Bench Recorder where
  link := { link := { responder := { otherwise := some acceptance } } }
  output := {}

/-- The device makes an accepting link. -/
theorem agreeingDevice_accepting : Accepting agreeingDevice := by
  have agrees : ScriptedDevice.Agrees (· = fun _ : String => some acceptance) := by
    rintro line responder rfl
    exact ⟨rfl, rfl⟩
  exact ⟨_, ScriptedDevice.acceptsLines agrees, [], rfl, rfl⟩

/-- The bench opens an accepting link. -/
theorem agreeingBench_opens : ∃ opened,
    SynthesizerConnection.connect agreeingBench = (.ok (), opened) ∧ Accepting opened := by
  have agrees : ScriptedDevice.Agrees (· = ({ otherwise := some acceptance } : Script)) := by
    rintro line script rfl
    exact ⟨rfl, rfl⟩
  have accepts := (Bench.passesOn Recorder).acceptsLines
    (FailingLink.passesOn.acceptsLines (ScriptedDevice.acceptsLines agrees))
  exact ⟨_, rfl, _, accepts, [], trivial, rfl, rfl, rfl⟩

end Sample

/-- A short compilation on a bench that agrees to everything. -/
theorem table_limits_sample : ∃ (opened : Bench Recorder) (program : Program),
    Accepting Sample.agreeingDevice ∧
    SynthesizerConnection.connect Sample.agreeingBench = (.ok (), opened) ∧ Accepting opened ∧
    CompiledWithin defaultSynthCapacity program ∧
    (∀ rows : List SynthRow,
      (programTable (rows.map Vector.toList) Sample.agreeingDevice).1 =
        (programTable (rows.map Vector.toList) (⟨⟩ : Simulated)).1 ∧
      Limits rows (programTable (rows.map Vector.toList) Sample.agreeingDevice).1) ∧
    ((program.loadRows Sample.agreeingBench).1 = .ok () ↔
      ∀ row ∈ program.rows, ∀ channel : Fin 4, TakesFrequency (row.get channel)) ∧
    ∀ index last, (program.loadRows Sample.agreeingBench).1 ≠
      .error (.tableIndexOutOfRange index last) := by
  obtain ⟨opened, connected, accepting⟩ := Sample.agreeingBench_opens
  obtain ⟨initial, started, -⟩ := Sequencer.Sample.starts
  have compiled : CompiledWithin defaultSynthCapacity
      (initial.run Sequencer.Sample.updates).2.finish :=
    ⟨_, _, initial, started, by decide, _, rfl⟩
  obtain ⟨tables, programs⟩ :=
    table_limits Sample.agreeingDevice_accepting connected accepting
  obtain ⟨loads, fits⟩ := programs _ compiled
  exact ⟨opened, _, Sample.agreeingDevice_accepting, connected, accepting, compiled, tables, loads,
    fun index last => (fits index last).1⟩

end PulseProgram

import Mathlib.Algebra.Group.Nat.Defs
import PulseProgram.Proofs.Daq.Cleanup
import PulseProgram.Rehearsal.Library

/-!
# How many samples reach the device

A waveform is played with three counts of its samples. The clock is told how many samples to
give, the write says how many samples it hands over, and the library reports how many of them it
took. The count that is handed over has 32 bits with sign, so it is right for fewer than 2³¹
samples only. The reported count is not looked at: playing may succeed whatever it is.
-/

namespace PulseProgram

namespace Answered

/-- The samples that the clock is set up for. -/
def clocked : Answered → Option Int
  | ⟨.sampleClock _ _ _ _ _ samples, _⟩ => some samples
  | _ => none

/-- The samples that a write says it hands over. -/
def handedOver : Answered → Option Int
  | ⟨.writeDigital _ length _ _ _ _, _⟩ => some length.toInt
  | _ => none

/-- The samples that the library says it took. -/
def taken : Answered → Option Int
  | ⟨.writeDigital .., reply⟩ => some reply.written.toInt
  | _ => none

end Answered

/-- All counts told by the calls are that of the samples. Each count is told exactly once. -/
def NothingLost (waveform : Waveform) (calls : List Answered) : Prop :=
  ∀ count ∈ [Answered.clocked, Answered.handedOver, Answered.taken],
    calls.filterMap count = [(waveform.length : Int)]

instance (waveform : Waveform) (calls : List Answered) : Decidable (NothingLost waveform calls) :=
  inferInstanceAs (Decidable (∀ _ ∈ _, _))

/-- A count is told by the call of an exchange, not by the question about a failure, so at most once
in every exchange. -/
theorem Exchange.filterMap_calls (count : Answered → Option Int)
    (silent : ∀ size reply, count ⟨.extendedErrorInfo size, reply⟩ = none) (exchange : Exchange) :
    exchange.calls.filterMap count = (count ⟨exchange.call, exchange.reply⟩).toList := by
  cases asked : exchange.inquiry <;> cases told : count ⟨exchange.call, exchange.reply⟩ <;>
    simp [calls, asked, told, silent]

/-- A count in 32 bits with sign is right exactly below 2³¹. -/
theorem toInt_ofNat_eq_iff (count : Nat) :
    (Int32.ofNat count).toInt = count ↔ count < 2 ^ 31 := by
  simp only [Int32.toInt_ofNat', Int32.size, Int.bmod_def]
  split <;> omega

/-- Each count is told once in a playback that succeeds. All calls are made then, among them one
that sets up the clock and one that writes. -/
theorem Tidy.counts {device : String} {waveform : Waveform} {rate timeout : Binary64}
    {created : Exchange} {used cleared : List Exchange} {outcome : Except PlaybackError Unit}
    (tidy : Tidy device waveform rate timeout created used cleared outcome)
    (well : outcome = .ok ()) {calls : List Answered}
    (made : calls = (created :: used ++ cleared).flatMap Exchange.calls) :
    ∃ written : Int32,
      calls.filterMap Answered.clocked = [(waveform.length : Int)] ∧
      calls.filterMap Answered.handedOver = [(Int32.ofNat waveform.length).toInt] ∧
      calls.filterMap Answered.taken = [written.toInt] := by
  obtain ⟨named, steps⟩ := tidy.succeeds.mp well
  obtain ⟨clearing, rfl, clears⟩ := tidy.clears (steps created (by simp))
  have complete := tidy.complete named steps
  simp only [playCalls, List.map_eq_cons_iff, List.map_eq_nil_iff] at complete
  obtain ⟨lines, _, rfl, outputs, clock, _, rfl, clocks, write, _, rfl, writes, start, _, rfl,
      starts, wait, _, rfl, waits, stop, _, rfl, stops, rfl⟩ := complete
  subst made
  refine ⟨write.reply.written, ?_, ?_, ?_⟩
  · simp [Exchange.filterMap_calls Answered.clocked (fun _ _ => rfl), Answered.clocked,
      tidy.creates, outputs, clocks, writes, starts, waits, stops, clears]
  · simp [Exchange.filterMap_calls Answered.handedOver (fun _ _ => rfl), Answered.handedOver,
      tidy.creates, outputs, clocks, writes, starts, waits, stops, clears]
  · simp [Exchange.filterMap_calls Answered.taken (fun _ _ => rfl), Answered.taken,
      tidy.creates, outputs, clocks, writes, starts, waits, stops, clears]

namespace DaqOutput

variable {δ : Type} [DaqLibrary δ]

/-- A playback that succeeds has set up the clock for all samples. The count that it hands over is
that of the samples reduced to 32 bits with sign, and the count that the library reports may be any.
So nothing is lost exactly if there are fewer than 2³¹ samples and the library says that it took
them all. Nothing is assumed of the library but that the playback succeeds.

Proof: a playback that succeeds has made all its calls, each of which tells its count once. -/
theorem play_counts {device : String} {waveform : Waveform} {rate timeout : Binary64}
    {library : δ} {played : DaqOutput (Overheard δ)}
    (succeeds : ClockedOutput.play waveform rate timeout
      (⟨device, ⟨library, []⟩⟩ : DaqOutput (Overheard δ)) = (.ok (), played)) :
    ∃ written : Int32,
      played.library.calls.filterMap Answered.clocked = [(waveform.length : Int)] ∧
      played.library.calls.filterMap Answered.handedOver =
        [(waveform.length : Int).bmod (2 ^ 32)] ∧
      played.library.calls.filterMap Answered.taken = [written.toInt] ∧
      (NothingLost waveform played.library.calls ↔
        waveform.length < 2 ^ 31 ∧ written.toInt = waveform.length) := by
  obtain ⟨created, used, cleared, plays, overheard⟩ :=
    playOn_plays device waveform rate timeout library []
  rw [play_run, overheard] at succeeds
  obtain ⟨well, rfl⟩ := Prod.mk.inj succeeds
  obtain ⟨written, clocked, handedOver, taken⟩ := plays.tidy.counts well rfl
  refine ⟨written, clocked, ?_, taken, ?_⟩
  · simpa [Int32.toInt_ofNat'] using handedOver
  · simp only [NothingLost, List.forall_mem_cons, List.nil_append, clocked, handedOver, taken,
      List.cons.injEq, toInt_ofNat_eq_iff]
    simp

/-- Three samples. -/
def threeSamples : Waveform := .ofList [0, 0x40000000, 0]

/-- An output whose library follows a script. -/
def scripted (script : DaqScript) : DaqOutput (Overheard ScriptedDaq) :=
  ⟨"Dev1", ⟨{ script }, []⟩⟩

/-- A library that takes all three samples. -/
theorem play_counts_all :
    ∃ (played : DaqOutput (Overheard ScriptedDaq)) (written : Int32),
      ClockedOutput.play threeSamples 1e6 1.1 (scripted {}) = (.ok (), played) ∧
      played.library.calls.filterMap Answered.clocked = [(threeSamples.length : Int)] ∧
      played.library.calls.filterMap Answered.handedOver =
        [(threeSamples.length : Int).bmod (2 ^ 32)] ∧
      played.library.calls.filterMap Answered.taken = [written.toInt] ∧
      (NothingLost threeSamples played.library.calls ↔
        threeSamples.length < 2 ^ 31 ∧ written.toInt = threeSamples.length) := by
  have succeeds : ClockedOutput.play threeSamples 1e6 1.1 (scripted {}) =
      (.ok (), (ClockedOutput.play threeSamples 1e6 1.1 (scripted {})).2) := Prod.ext rfl rfl
  obtain ⟨written, counts⟩ := play_counts succeeds
  exact ⟨_, written, succeeds, counts⟩

/-- A library that takes two of three samples, and a playback that succeeds. -/
theorem play_counts_short :
    ∃ played : DaqOutput (Overheard ScriptedDaq),
      ClockedOutput.play threeSamples 1e6 1.1 (scripted { written := some 2 }) =
        (.ok (), played) ∧
      ¬ NothingLost threeSamples played.library.calls := by
  refine ⟨_, Prod.ext rfl rfl, ?_⟩
  decide +kernel

end DaqOutput

end PulseProgram

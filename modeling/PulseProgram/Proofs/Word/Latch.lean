import Mathlib.Algebra.Group.Nat.Defs
import PulseProgram.Word.Analog
import PulseProgram.Word.Digital

/-!
# Latch words

Every word that an update puts out for the boards is told apart from an unwritten one by
its board bits, and leaves the bits of the two triggers free. So a latch word never counts
as unwritten, and a trigger is only ever seen where it was laid.
-/

namespace PulseProgram.Word

/-- A word that is written and carries neither trigger. All that a timeline asks of the words of an
update is said by this. -/
structure IsLatch (word : Word) : Prop where
  nonzero : word ≠ 0#32
  no_epoch : word &&& epochTrigger = 0#32
  no_synth : word &&& synthTrigger = 0#32

/-- A flag is seen in words laid over each other exactly if it is in one of them. The flag may have
several bits; it is seen if any of them is. -/
theorem carries_or (first second flag : Word) :
    (first ||| second).carries flag = (first.carries flag || second.carries flag) := by
  rw [Bool.eq_iff_iff, Bool.or_eq_true, carries, carries, carries, bne_iff_ne, bne_iff_ne,
    bne_iff_ne, BitVec.and_or_distrib_right, Ne, BitVec.or_eq_zero_iff,
    Decidable.not_and_iff_or_not]

/-- A latch word does not carry the synthesizer trigger. -/
theorem IsLatch.carries_synth {word : Word} (latch : IsLatch word) :
    word.carries synthTrigger = false := by
  rw [carries, latch.no_synth]
  rfl

/-- A word below a power of two does not have its bit. -/
theorem and_twoPow_eq_zero {word flag : Word} {bit : Nat} (single : flag.toNat = 2 ^ bit)
    (low : word.toNat < 2 ^ bit) : word &&& flag = 0#32 := by
  apply BitVec.eq_of_toNat_eq
  rw [BitVec.toNat_and, single]
  apply Nat.eq_of_testBit_eq
  intro position
  rw [Nat.testBit_and, Nat.testBit_two_pow]
  by_cases here : bit = position
  · simp [← here, Nat.testBit_lt_two_pow low]
  · simp [here]

/-- A payload below the trigger bits that is not zero makes a pair of latch words. The strobe lies
on a bit of its own, so it neither hides the payload nor looks like a trigger. -/
theorem isLatch_pair {payload : Word} (positive : 0 < payload.toNat)
    (low : payload.toNat < 2 ^ 28) :
    ∀ word ∈ (LatchPair.of payload).words, IsLatch word := by
  have epoch : payload &&& epochTrigger = 0#32 :=
    @and_twoPow_eq_zero payload epochTrigger 30 rfl (by omega)
  have synth : payload &&& synthTrigger = 0#32 :=
    @and_twoPow_eq_zero payload synthTrigger 28 rfl low
  have written : payload ≠ 0#32 := by
    rintro rfl
    exact absurd positive (by decide)
  have strobed_written : payload ||| strobe ≠ 0#32 := by
    intro vanishes
    exact absurd (BitVec.or_eq_zero_iff.mp vanishes).2 (by decide)
  intro word member
  simp only [LatchPair.words, LatchPair.of, List.mem_cons, List.not_mem_nil, or_false] at member
  rcases member with rfl | rfl
  · refine ⟨strobed_written, ?_, ?_⟩
    · rw [BitVec.and_or_distrib_right, epoch]
      decide
    · rw [BitVec.and_or_distrib_right, synth]
      decide
  · exact ⟨written, epoch, synth⟩

/-! ## Analog words -/

/-- The payload of an analog channel consists of fields that do not overlap. The code is arbitrary
here: what does not fit its field is cut off. -/
theorem analogPayload_bounds {address : Nat} (valid : address < Channel.analogCount)
    (code : Word) :
    0 < (analogPayload address code).toNat ∧ (analogPayload address code).toNat < 2 ^ 28 := by
  have board : address / 8 < 4 := by
    have limit : address < 32 := valid
    omega
  have field : (code &&& analogCodeMask).toNat ≤ 0xffff := by
    rw [BitVec.toNat_and]
    exact Nat.and_le_right
  have channel : address % 8 < 8 := Nat.mod_lt _ (by decide)
  have select : ∀ index < 4, 0x100000 ≤ ((analogBoardSelect[index]?).getD 0#32).toNat ∧
      ((analogBoardSelect[index]?).getD 0#32).toNat ≤ 0xe00000 := by decide
  obtain ⟨above, below⟩ := select _ board
  have total : (analogPayload address code).toNat = (code &&& analogCodeMask).toNat +
      ((analogBoardSelect[address / 8]?).getD 0#32).toNat + address % 8 * 0x10000 := by
    rw [analogPayload, BitVec.toNat_add, BitVec.toNat_add, BitVec.toNat_mul, BitVec.toNat_ofNat,
      BitVec.toNat_ofNat, Channel.analogPerBoard]
    omega
  omega

/-- Encoding a voltage gives a pair of latch words, for every value that is encoded at all. -/
theorem encodeAnalog_isLatch {address : Nat} {value : Binary64} {pair : LatchPair}
    (encoded : encodeAnalog address value = .ok pair) : ∀ word ∈ pair.words, IsLatch word := by
  unfold encodeAnalog at encoded
  split at encoded
  · exact absurd encoded (by simp)
  · next valid =>
    split at encoded
    · exact absurd encoded (by simp)
    · obtain rfl := Except.ok.inj encoded
      obtain ⟨positive, low⟩ := analogPayload_bounds (Nat.lt_of_not_le valid) _
      exact isLatch_pair positive low

/-! ## Digital words -/

/-- Setting lines keeps the identifier of a board and stays below the next bits, for any list of
lines, those of other boards included. -/
theorem boardPayload_bounds {board : Nat} {id : Word} (positive : 0 < id.toNat)
    (low : id.toNat < 2 ^ 18) (lines : List (Nat × Bool)) :
    0 < (boardPayload board id lines).toNat ∧ (boardPayload board id lines).toNat < 2 ^ 18 := by
  unfold boardPayload
  induction lines generalizing id with
  | nil => exact ⟨positive, low⟩
  | cons line rest inductionHypothesis =>
    rw [List.foldl_cons]
    split
    · have bit : (lineBit line.1).toNat < 2 ^ 18 := by
        have place : line.1 % 16 < 16 := Nat.mod_lt _ (by decide)
        have size : 2 ^ (line.1 % 16) < 2 ^ 18 :=
          Nat.pow_lt_pow_right (by decide) (by omega)
        simp only [lineBit, Channel.linesPerBoard, BitVec.toNat_shiftLeft, BitVec.toNat_ofNat]
        rw [Nat.shiftLeft_eq, Nat.mod_eq_of_lt (by decide : 1 < 2 ^ 32), Nat.one_mul]
        exact Nat.lt_of_le_of_lt (Nat.mod_le _ _) size
      apply inductionHypothesis
      · rw [BitVec.toNat_or]
        exact Nat.lt_of_lt_of_le positive Nat.left_le_or
      · rw [BitVec.toNat_or]
        exact Nat.or_lt_two_pow low bit
    · exact inductionHypothesis positive low

/-- The words of a digital update are latch words, also if no line is set high. -/
theorem encodeDigital_isLatch (lines : List (Nat × Bool)) :
    ∀ word ∈ encodeDigital lines, IsLatch word := by
  intro word member
  obtain ⟨pair, encoded, inside⟩ := List.mem_flatMap.mp member
  obtain ⟨board, stored, rfl⟩ := List.mem_mapIdx.mp encoded
  have identifiers : ∀ id ∈ lineBoardId, 0 < id.toNat ∧ id.toNat < 2 ^ 18 := by
    simp [lineBoardId]
  obtain ⟨positive, low⟩ := identifiers _ (List.getElem_mem stored)
  obtain ⟨written, short⟩ := @boardPayload_bounds board _ positive low lines
  exact isLatch_pair written (by omega) word inside

end PulseProgram.Word

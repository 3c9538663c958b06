import PulseProgram.Proofs.Binary64.Nearest
import PulseProgram.Proofs.Synthesizer.EntryText

/-!
# What a table entry's line tells

A frequency has a word exactly if it comes to a whole number of tenths of a hertz that 32 bits
can hold, and the word is that number. With this, an entry is written exactly if its channel, its
index and its frequency fit, and the line is an exact record: of one length, with every field in
its own columns, and the same for two entries only if all that they say is the same.
-/

namespace PulseProgram

open Binary64 Synthesizer

namespace Synthesizer

/-! ## Frequency words -/

/-- The test of a frequency, in terms of the exact number of tenths of a hertz. An undefined or
infinite number does not pass it. -/
theorem wordTest_eq_false_iff (tenths : Binary64) :
    (!tenths.isFinite || decide (tenths < 0) || decide (ofNat 0xffffffff < tenths)) = false ↔
      tenths.isFinite = true ∧ 0 ≤ tenths.toRat ∧ tenths.toRat ≤ 2 ^ 32 - 1 := by
  cases finite : tenths.isFinite with
  | false => simp
  | true =>
    have defined := ne_nan_of_isFinite finite
    have stands := position_of_isFinite finite
    have highest : (ofNat 0xffffffff).position = 2 ^ 32 - 1 := by
      rw [ofNat_position (by norm_num)]
      norm_num
    have high : ofNat 0xffffffff < tenths ↔ 2 ^ 32 - 1 < tenths.toRat := by
      rw [lt_iff (ofNat_ne_nan _) defined, highest, stands]
    simp [lt_zero_iff finite, high]

/-- Which frequencies have a word. The number of tenths is that of the rounded product, as the
driver computes it. -/
theorem exists_frequencyWord_iff (megahertz : Binary64) :
    (∃ word, frequencyWord megahertz = .ok word) ↔
      (megahertz * 1e7).round.isFinite = true ∧ 0 ≤ (megahertz * 1e7).round.toRat ∧
        (megahertz * 1e7).round.toRat ≤ 2 ^ 32 - 1 := by
  rw [← wordTest_eq_false_iff, frequencyWord]
  split
  · next refused => simp [refused]
  · next passed => simpa using passed

/-- The word of a frequency is the number of tenths of a hertz that it comes to. Nothing is cut off
or wrapped around, since the test excludes whatever 32 bits do not hold. -/
theorem frequencyWord_toNat {megahertz : Binary64} {word : BitVec 32}
    (formed : frequencyWord megahertz = .ok word) :
    (word.toNat : ℚ) = (megahertz * 1e7).round.toRat := by
  obtain ⟨finite, nonnegative, small⟩ := (exists_frequencyWord_iff megahertz).mp ⟨word, formed⟩
  have passed := (wordTest_eq_false_iff _).mpr ⟨finite, nonnegative, small⟩
  have whole := round_position (megahertz * 1e7)
  have stands := position_of_isFinite finite
  rw [stands] at whole
  rw [whole] at nonnegative small
  obtain ⟨tenths, natural⟩ : ∃ tenths : ℕ, nearestAway (megahertz * 1e7).position = tenths :=
    Int.eq_ofNat_of_zero_le (by exact_mod_cast nonnegative)
  rw [natural, Int.cast_natCast] at whole nonnegative small
  have fits : tenths ≤ 2 ^ 32 - 1 := by
    have below : (tenths : ℚ) < (2 ^ 32 : ℕ) := by
      push_cast
      linarith
    exact Nat.le_pred_of_lt (Nat.cast_lt.mp below)
  have counted : (megahertz * 1e7).round.toUnsigned 32 = tenths := by
    rw [toUnsigned_of_nonneg (by norm_num) (by rwa [stands, whole]), stands, whole,
      Int.floor_natCast, Int.toNat_natCast, Nat.min_eq_right fits]
  simp only [frequencyWord, passed, counted] at formed
  cases formed
  rw [whole, BitVec.toNat_ofNat, Nat.mod_eq_of_lt (by omega)]

end Synthesizer

namespace Command

/-- What the line of an entry is worth. Each field is a statement about all commands that the entry
can be written as, of which there is one at most. -/
structure Lossless (entry : TableEntry) : Prop where
  /-- An entry is written exactly if its channel, its index and its frequency fit. -/
  succeeds : (∃ command, tableEntry entry = .ok command) ↔
    entry.channel < 4 ∧ entry.index ≤ 0x7fff ∧
      (entry.megahertz * 1e7).round.isFinite = true ∧ 0 ≤ (entry.megahertz * 1e7).round.toRat ∧
        (entry.megahertz * 1e7).round.toRat ≤ 2 ^ 32 - 1
  /-- Every text has the same length. -/
  width : ∀ command, tableEntry entry = .ok command → command.text.length = 29
  /-- The columns of the text are what the entry says. -/
  recovers : ∀ command, tableEntry entry = .ok command →
    ∃ word, frequencyWord entry.megahertz = .ok word ∧
      (word.toNat : ℚ) = (entry.megahertz * 1e7).round.toRat ∧
        entryFields? command.text = some ⟨entry.channel, entry.index, word.toNat,
          entry.phase.toNat, entry.amplitude.toNat, entry.terminal⟩
  /-- Two entries have the same text exactly if they say the same. -/
  same : ∀ other command otherCommand, tableEntry entry = .ok command →
    tableEntry other = .ok otherCommand →
      (command.text = otherCommand.text ↔
        entry.channel = other.channel ∧ entry.index = other.index ∧
          frequencyWord entry.megahertz = frequencyWord other.megahertz ∧
            entry.phase = other.phase ∧ entry.amplitude = other.amplitude ∧
              entry.terminal = other.terminal)

/-- Two texts that read the same are those of entries that say the same, since each word is told by
its number. -/
theorem fields_eq_iff {first second : TableEntry} {firstWord secondWord : BitVec 32} :
    first.fields firstWord = second.fields secondWord ↔
      first.channel = second.channel ∧ first.index = second.index ∧ firstWord = secondWord ∧
        first.phase = second.phase ∧ first.amplitude = second.amplitude ∧
          first.terminal = second.terminal := by
  simp [TableEntry.fields, BitVec.toNat_inj]

/-- The line of a table entry is an exact record of the entry. Nothing is assumed of the entry:
where it cannot be written, the first field says why, and the others speak of no command.

Proof: the checks give the columns, reading the columns gives the fields, and the fields tell two
entries apart. -/
theorem tableEntry_lossless (entry : TableEntry) : Lossless entry where
  succeeds := by
    rw [← exists_frequencyWord_iff]
    constructor
    · rintro ⟨command, formed⟩
      obtain ⟨channel, room, word, fits, -⟩ := tableEntry_ok_iff.mp formed
      exact ⟨channel, room, word, fits⟩
    · rintro ⟨channel, room, word, fits⟩
      exact ⟨_, tableEntry_ok_iff.mpr ⟨channel, room, word, fits, rfl⟩⟩
  width := by
    intro command formed
    obtain ⟨-, room, word, -, rfl⟩ := tableEntry_ok_iff.mp formed
    rw [String.length_ofList, length_entryColumns room]
  recovers := by
    intro command formed
    obtain ⟨channel, room, word, fits, rfl⟩ := tableEntry_ok_iff.mp formed
    exact ⟨word, fits, frequencyWord_toNat fits, entryFields?_entryColumns channel room word⟩
  same := by
    intro other command otherCommand formed otherFormed
    obtain ⟨channel, room, word, fits, rfl⟩ := tableEntry_ok_iff.mp formed
    obtain ⟨otherChannel, otherRoom, otherWord, otherFits, rfl⟩ :=
      tableEntry_ok_iff.mp otherFormed
    rw [fits, otherFits, Except.ok.injEq, ← fields_eq_iff]
    constructor
    · exact fields_eq_of_entryColumns channel room otherChannel otherRoom
    · intro fields
      obtain ⟨channels, indices, words, phases, amplitudes, terminals⟩ := fields_eq_iff.mp fields
      simp only [entryColumns, channels, indices, words, phases, amplitudes, terminals]

end Command

end PulseProgram

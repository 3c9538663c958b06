import PulseProgram.Proofs.Word.Latch

/-!
# What the payload of a word says

The payload of a word is what is left without its flags, so it can be read whatever triggers
were laid over the word. The payload of an analog channel gives back the channel and the
code, and the payloads of the three line boards give back which lines are high. The select
bits of the converter boards tell the two kinds apart: no payload of a line board has any,
and every analog payload has some.
-/

namespace PulseProgram.Word

/-! ## Payloads -/

/-- The payload of words laid over each other is made of their payloads, so words without payload
may be laid over any word. -/
theorem payload_or (first second : Word) :
    (first ||| second).payload = first.payload ||| second.payload := by
  rw [payload, BitVec.and_or_distrib_right, payload, payload]

/-- A word below the flags has none. -/
theorem and_flagMask_of_lt {word : Word} (low : word.toNat < 2 ^ 28) :
    word &&& flagMask = 0#32 := by
  have strobes : word &&& strobe = 0#32 :=
    @and_twoPow_eq_zero word strobe 31 rfl (Nat.lt_trans low (by decide))
  have epochs : word &&& epochTrigger = 0#32 :=
    @and_twoPow_eq_zero word epochTrigger 30 rfl (Nat.lt_trans low (by decide))
  have synths : word &&& synthTrigger = 0#32 := @and_twoPow_eq_zero word synthTrigger 28 rfl low
  rw [flagMask, BitVec.and_or_distrib_left, BitVec.and_or_distrib_left, strobes, epochs, synths]
  rfl

/-- A word below the flags is its own payload. -/
theorem payload_of_lt {word : Word} (low : word.toNat < 2 ^ 28) : word.payload = word := by
  have split : word = word &&& ~~~flagMask ||| word &&& flagMask := by
    rw [← BitVec.and_or_distrib_left, BitVec.or_comm, BitVec.or_not_self, BitVec.and_allOnes]
  rw [and_flagMask_of_lt low, BitVec.or_zero] at split
  exact split.symm

/-- A word without payload has no bit in common with a field. This is how every reading of a field
ignores the flags. -/
theorem and_eq_zero_of_payload {flags mask : Word} (only : flags.payload = 0#32)
    (inside : mask.payload = mask) : flags &&& mask = 0#32 := by
  rw [payload] at only
  rw [← inside, payload, BitVec.and_comm mask, ← BitVec.and_assoc, only, BitVec.zero_and]

/-- Both words of a pair have the payload that the pair latches. -/
theorem payload_pair {word : Word} (low : word.toNat < 2 ^ 28) :
    (LatchPair.of word).words.map payload = [word, word] := by
  have strobes : payload strobe = 0#32 := by decide
  rw [LatchPair.words, LatchPair.of, List.map_cons, List.map_cons, List.map_nil, payload_or,
    payload_of_lt low, strobes, BitVec.or_zero]

/-! ## Analog payloads -/

/-- The channel and the code in an analog word, whatever its flags; none if the select bits belong
to no converter board. -/
def analogField (word : Word) : Option (Nat × BitVec 16) :=
  (analogBoardSelect.findIdx? (· = word &&& analogBoardMask)).map fun board =>
    (board * Channel.analogPerBoard + ((word &&& analogChannelMask) >>> 16).toNat,
      word.setWidth 16)

/-- The bits that select an analog channel. -/
def analogSelect (address : Nat) : Word :=
  (analogBoardSelect[address / Channel.analogPerBoard]?).getD 0#32 +
    BitVec.ofNat 32 (address % Channel.analogPerBoard) * 0x10000#32

/-- An analog payload is the code beside the bits that select the channel. They do not overlap, so
the sum of the fields is the union of their bits. -/
theorem analogPayload_eq {address : Nat} (valid : address < Channel.analogCount) (code : Word) :
    analogPayload address code = analogSelect address ||| code &&& analogCodeMask := by
  have apart : ∀ address < 32, analogSelect address &&& analogCodeMask = 0#32 := by
    decide +kernel
  have disjoint : analogSelect address &&& (code &&& analogCodeMask) = 0#32 := by
    rw [BitVec.and_comm code, ← BitVec.and_assoc, apart address valid, BitVec.zero_and]
  rw [← BitVec.add_eq_or_of_and_eq_zero _ _ disjoint, analogPayload, analogSelect,
    BitVec.add_assoc, BitVec.add_comm]

/-- Outside the code an analog payload has the bits that select the channel, whatever the code
is. -/
theorem analogPayload_and {address : Nat} (valid : address < Channel.analogCount) (code : Word)
    {mask : Word} (outside : analogCodeMask &&& mask = 0#32) :
    analogPayload address code &&& mask = analogSelect address &&& mask := by
  rw [analogPayload_eq valid, BitVec.and_or_distrib_right, BitVec.and_assoc, outside,
    BitVec.and_zero, BitVec.or_zero]

/-- An analog payload gives back its channel and code. There are 32 channels, whose select bits are
all different, and the code lies outside of them. -/
theorem analogField_payload {address : Nat} (valid : address < Channel.analogCount)
    (code : Word) :
    analogField (analogPayload address code) = some (address, code.setWidth 16) := by
  have low : (analogPayload address code).setWidth 16 = code.setWidth 16 := by
    have selects : ∀ address < 32, (analogSelect address).setWidth 16 = 0#16 := by
      decide +kernel
    have full : analogCodeMask.setWidth 16 = BitVec.allOnes 16 := by decide
    rw [analogPayload_eq valid, BitVec.setWidth_or, BitVec.setWidth_and, selects address valid,
      full, BitVec.and_allOnes, BitVec.zero_or]
  have place : ∀ address < 32,
      ((analogBoardSelect.findIdx? (· = analogSelect address &&& analogBoardMask)).map
        fun board => board * Channel.analogPerBoard +
          ((analogSelect address &&& analogChannelMask) >>> 16).toNat) = some address := by
    decide +kernel
  rw [analogField, low, analogPayload_and valid code (by decide),
    analogPayload_and valid code (by decide)]
  obtain ⟨board, found, same⟩ := Option.map_eq_some_iff.mp (place address valid)
  rw [found, Option.map_some, same]

/-- An analog payload selects a converter board, so it is never taken for the payload of a line
board. -/
theorem analogPayload_selects {address : Nat} (valid : address < Channel.analogCount)
    (code : Word) : analogPayload address code &&& analogBoardMask ≠ 0#32 := by
  have selects : ∀ address < 32, analogSelect address &&& analogBoardMask ≠ 0#32 := by
    decide +kernel
  rw [analogPayload_and valid code (by decide)]
  exact selects address valid

/-! ## Payloads of the line boards -/

/-- Entering a line adds its bit if it is a high line of the board. -/
theorem boardPayload_cons (board : Nat) (id : Word) (line : Nat × Bool)
    (rest : List (Nat × Bool)) :
    boardPayload board id (line :: rest) =
      boardPayload board
        (if line.1 / Channel.linesPerBoard = board && line.2 then id ||| lineBit line.1 else id)
        rest := rfl

/-- Outside the lines a board payload has the identifier of the board, whatever lines are set. -/
theorem boardPayload_and {mask : Word} (outside : ∀ address, lineBit address &&& mask = 0#32)
    (board : Nat) (id : Word) (lines : List (Nat × Bool)) :
    boardPayload board id lines &&& mask = id &&& mask := by
  induction lines generalizing id with
  | nil => rfl
  | cons line rest inductionHypothesis =>
    rw [boardPayload_cons, inductionHypothesis]
    split
    · rw [BitVec.and_or_distrib_right, outside, BitVec.or_zero]
    · rfl

/-- A line bit depends on the place within the board. -/
theorem lineBit_mod (address : Nat) : lineBit (address % 16) = lineBit address := by
  rw [lineBit, lineBit, Channel.linesPerBoard, Nat.mod_mod]

/-- A line bit is the bit at its place within the board. -/
theorem lineBit_getLsbD (address place : Nat) :
    (lineBit address).getLsbD place = decide (address % 16 = place) := by
  have within : address % 16 < 16 := Nat.mod_lt _ (by decide)
  rw [lineBit, Channel.linesPerBoard, BitVec.getLsbD_shiftLeft, BitVec.getLsbD_one,
    Bool.eq_iff_iff]
  simp only [Bool.and_eq_true, decide_eq_true_eq, Bool.not_eq_true', decide_eq_false_iff_not]
  omega

/-- A word carries a line bit if it has the bit at that place. -/
theorem carries_lineBit (word : Word) (address : Nat) :
    word.carries (lineBit address) = word.getLsbD (address % 16) := by
  have single : lineBit address = BitVec.twoPow 32 (address % 16) := rfl
  have lit : BitVec.twoPow 32 (address % 16) ≠ 0#32 := by
    intro vanishes
    have here := lineBit_getLsbD address (address % 16)
    rw [single, vanishes] at here
    simp at here
  rw [carries, single, BitVec.and_twoPow]
  cases word.getLsbD (address % 16) with
  | false => rfl
  | true => simpa using lit

/-- Beside the bits of its identifier, a board payload has one for each high line of its board. An
entry that sets a line low takes nothing back, so one entry that sets it high is enough. -/
theorem boardPayload_getLsbD (board : Nat) (id : Word) (lines : List (Nat × Bool)) (place : Nat) :
    (boardPayload board id lines).getLsbD place = true ↔
      id.getLsbD place = true ∨ place < 16 ∧ (board * 16 + place, true) ∈ lines := by
  induction lines generalizing id with
  | nil => simp [boardPayload]
  | cons line rest inductionHypothesis =>
    obtain ⟨other, high⟩ := line
    rw [boardPayload_cons, inductionHypothesis, List.mem_cons, and_or_left, ← or_assoc]
    apply or_congr_left
    split
    · next entered =>
      obtain ⟨sameBoard, rfl⟩ : other / 16 = board ∧ high = true := by
        rwa [Bool.and_eq_true, decide_eq_true_eq] at entered
      have here : other % 16 = place ↔
          place < 16 ∧ (board * 16 + place, true) = (other, true) := by
        rw [Prod.mk.injEq, and_iff_left rfl]
        omega
      rw [BitVec.getLsbD_or, Bool.or_eq_true, lineBit_getLsbD, decide_eq_true_eq, here]
    · next skipped =>
      have elsewhere : ¬(place < 16 ∧ (board * 16 + place, true) = (other, high)) := by
        rintro ⟨within, same⟩
        obtain ⟨rfl, rfl⟩ := Prod.mk.inj same
        refine skipped ?_
        rw [Bool.and_true, decide_eq_true_eq, Channel.linesPerBoard]
        omega
      rw [or_iff_left elsewhere]

/-- A board carries the bit of a line exactly if its identifier does or an entry sets the line
high. -/
theorem boardPayload_carries (id : Word) (lines : List (Nat × Bool)) (address : Nat) :
    (boardPayload (address / 16) id lines).carries (lineBit address) = true ↔
      id.carries (lineBit address) = true ∨ (address, true) ∈ lines := by
  have within : address % 16 < 16 := Nat.mod_lt _ (by decide)
  rw [carries_lineBit, carries_lineBit, boardPayload_getLsbD, and_iff_right within,
    Nat.div_add_mod']

/-- The payloads that put lines on the boards, counted back from the boundary. -/
def boardPayloads (lines : List (Nat × Bool)) : List Word :=
  ((encodeDigital lines).map payload).reverse

/-- The lines that are set high, as far as there are boards. -/
def highAddresses (lines : List (Nat × Bool)) : List Nat :=
  (List.range 48).filter fun address => decide ((address, true) ∈ lines)

/-- The payloads of the line boards. Each board has two words with the same one. -/
theorem boardPayloads_eq (lines : List (Nat × Bool)) :
    boardPayloads lines =
      [boardPayload 2 0x10000#32 lines, boardPayload 2 0x10000#32 lines,
        boardPayload 1 0x20000#32 lines, boardPayload 1 0x20000#32 lines,
        boardPayload 0 0x30000#32 lines, boardPayload 0 0x30000#32 lines] := by
  have low : ∀ board id, 0 < id.toNat → id.toNat < 2 ^ 18 →
      (boardPayload board id lines).toNat < 2 ^ 28 := fun board id positive small =>
    Nat.lt_trans (boardPayload_bounds positive small lines).2 (by decide)
  have blocks : encodeDigital lines =
      (LatchPair.of (boardPayload 0 0x30000#32 lines)).words ++
        (LatchPair.of (boardPayload 1 0x20000#32 lines)).words ++
        (LatchPair.of (boardPayload 2 0x10000#32 lines)).words := rfl
  rw [boardPayloads, blocks, List.map_append, List.map_append,
    payload_pair (low 0 _ (by decide) (by decide)), payload_pair (low 1 _ (by decide) (by decide)),
    payload_pair (low 2 _ (by decide) (by decide))]
  rfl

/-- Lines are no part of the identifier of a board, nor of the select bits of a converter board, so
boards are told apart whatever lines are high. -/
theorem lineBit_apart (address : Nat) :
    lineBit address &&& lineBoardMask = 0#32 ∧ lineBit address &&& analogBoardMask = 0#32 := by
  have places : ∀ place < 16,
      lineBit place &&& lineBoardMask = 0#32 ∧ lineBit place &&& analogBoardMask = 0#32 := by
    decide +kernel
  rw [← lineBit_mod address]
  exact places _ (Nat.mod_lt _ (by decide))

/-- No payload of a line board selects a converter board. -/
theorem boardPayload_selects_none {board : Nat} {id : Word} (stored : id ∈ lineBoardId)
    (lines : List (Nat × Bool)) : boardPayload board id lines &&& analogBoardMask = 0#32 := by
  have clear : ∀ id ∈ lineBoardId, id &&& analogBoardMask = 0#32 := by
    simp [lineBoardId, analogBoardMask]
  rw [boardPayload_and fun address => (lineBit_apart address).2]
  exact clear id stored

/-- The high lines of a board payload are those of its board that some entry sets high. The
identifier tells the board, and the bits below it tell the places. -/
theorem mem_highLines {board : Nat} {id : Word} (stored : lineBoardId[board]? = some id)
    (lines : List (Nat × Bool)) (address : Nat) :
    address ∈ highLines (boardPayload board id lines) ↔
      address / 16 = board ∧ (address, true) ∈ lines := by
  have identified : lineBoardId.findIdx? (· = id &&& lineBoardMask) = some board ∧
      ∀ place < 16, id.carries (lineBit place) = false := by
    have boards : ∀ board < 3,
        lineBoardId.findIdx? (· = (lineBoardId[board]?).getD 0#32 &&& lineBoardMask) =
          some board ∧
        ∀ place < 16, ((lineBoardId[board]?).getD 0#32).carries (lineBit place) = false := by
      decide +kernel
    have identifies := boards board (List.getElem?_eq_some_iff.mp stored).1
    rwa [stored] at identifies
  have free : ∀ address, ¬id.carries (lineBit address) = true := by
    intro address
    rw [← lineBit_mod, identified.2 _ (Nat.mod_lt _ (by decide))]
    exact Bool.false_ne_true
  rw [highLines, boardPayload_and fun address => (lineBit_apart address).1, identified.1]
  simp only [List.mem_map, List.mem_filter, List.mem_range, Channel.linesPerBoard]
  constructor
  · rintro ⟨place, ⟨within, up⟩, rfl⟩
    have here : (board * 16 + place) / 16 = board := by omega
    have bit : lineBit (board * 16 + place) = lineBit place := by
      rw [← lineBit_mod, Nat.mul_add_mod_self_right, Nat.mod_eq_of_lt within]
    have read := boardPayload_carries id lines (board * 16 + place)
    rw [here, bit] at read
    exact ⟨here, (read.mp up).resolve_left (free place)⟩
  · rintro ⟨rfl, member⟩
    refine ⟨address % 16, ⟨Nat.mod_lt _ (by decide), ?_⟩, by omega⟩
    rw [lineBit_mod]
    exact (boardPayload_carries id lines address).mpr (.inr member)

/-- Words give back the high lines if each of them is read as the payload of a board, and each board
is there. Their order and number do not matter. -/
theorem decodeDigital_eq {lines : List (Nat × Bool)} {words : List Word}
    (sound : ∀ word ∈ words, ∃ board id, lineBoardId[board]? = some id ∧
      highLines word = highLines (boardPayload board id lines))
    (complete : ∀ board id, lineBoardId[board]? = some id → ∃ word ∈ words,
      highLines word = highLines (boardPayload board id lines)) :
    decodeDigital words = highAddresses lines := by
  refine List.filter_congr fun address inside => ?_
  rw [Bool.eq_iff_iff, List.any_eq_true, decide_eq_true_eq]
  constructor
  · rintro ⟨word, given, high⟩
    obtain ⟨board, id, stored, read⟩ := sound word given
    rw [decide_eq_true_eq, read, mem_highLines stored] at high
    exact high.2
  · intro high
    have board : address / 16 < lineBoardId.length := by
      have near : address < 48 := List.mem_range.mp inside
      change address / 16 < 3
      omega
    have stored := List.getElem?_eq_getElem board
    obtain ⟨word, given, read⟩ := complete _ _ stored
    refine ⟨word, given, ?_⟩
    rw [decide_eq_true_eq, read, mem_highLines stored]
    exact ⟨rfl, high⟩

/-- The payloads of the line boards give back which lines are high, in ascending order and each of
them once, although every board has two words. -/
theorem decodeDigital_boardPayloads (lines : List (Nat × Bool)) :
    decodeDigital (boardPayloads lines) = highAddresses lines := by
  rw [boardPayloads_eq]
  apply decodeDigital_eq
  · intro word given
    simp only [List.mem_cons, List.not_mem_nil, or_false] at given
    rcases given with rfl | rfl | rfl | rfl | rfl | rfl
    · exact ⟨2, _, rfl, rfl⟩
    · exact ⟨2, _, rfl, rfl⟩
    · exact ⟨1, _, rfl, rfl⟩
    · exact ⟨1, _, rfl, rfl⟩
    · exact ⟨0, _, rfl, rfl⟩
    · exact ⟨0, _, rfl, rfl⟩
  · intro board id stored
    match board, stored with
    | 0, rfl => exact ⟨_, by simp, rfl⟩
    | 1, rfl => exact ⟨_, by simp, rfl⟩
    | 2, rfl => exact ⟨_, by simp, rfl⟩

end PulseProgram.Word

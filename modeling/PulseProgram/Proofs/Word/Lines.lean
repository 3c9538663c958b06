import PulseProgram.Proofs.Word.Fields

/-!
# Lines as a set

To the line boards a list of lines is the set of the addresses that some entry sets high. Beyond
its identifier a board payload has one bit for each such address on its board, so lists of the
same set are put out as the same words. Decoding gives the set back, in ascending order. For that
it needs one word of each pair, in any order, and no flag disturbs it.
-/

namespace PulseProgram.Word

/-! ## The same set, the same words -/

/-- An address is high if there is a board for it and some entry sets it high. What other entries
say of it does not matter. -/
theorem mem_highAddresses (lines : List (Nat × Bool)) (address : Nat) :
    address ∈ highAddresses lines ↔ address < 48 ∧ (address, true) ∈ lines := by
  rw [highAddresses, List.mem_filter, List.mem_range, decide_eq_true_eq]

/-- Lists that set the same lines high are put out as the same words. Only addresses with a board
are compared. -/
theorem encodeDigital_congr {first second : List (Nat × Bool)}
    (same : ∀ address < 48, (address, true) ∈ first ↔ (address, true) ∈ second) :
    encodeDigital first = encodeDigital second := by
  have payloads (board : Nat) (stored : board < 3) (id : Word) :
      boardPayload board id first = boardPayload board id second := by
    refine BitVec.eq_of_getLsbD_eq fun place _ => ?_
    rw [Bool.eq_iff_iff, boardPayload_getLsbD, boardPayload_getLsbD]
    refine or_congr_right (and_congr_right fun within => same _ ?_)
    omega
  have boards (lines : List (Nat × Bool)) : encodeBoards lines =
      [LatchPair.of (boardPayload 0 0x30000#32 lines),
        LatchPair.of (boardPayload 1 0x20000#32 lines),
        LatchPair.of (boardPayload 2 0x10000#32 lines)] := rfl
  rw [encodeDigital, encodeDigital, boards, boards, payloads 0 (by decide),
    payloads 1 (by decide), payloads 2 (by decide)]

/-! ## Words that arrive -/

/-- A word with more flags laid over it. -/
def Flagged (sent word : Word) : Prop :=
  ∃ flags : Word, flags.payload = 0#32 ∧ word = sent ||| flags

/-- Words that tell the lines: one or both words of each pair, in any order and number, and any
flags laid over them. Both parts are needed: nothing else is among the words, and nothing is
missing. -/
structure Conveys (lines : List (Nat × Bool)) (words : List Word) : Prop where
  of_pair : ∀ word ∈ words, ∃ pair ∈ encodeBoards lines, ∃ sent ∈ pair.words, Flagged sent word
  each_pair : ∀ pair ∈ encodeBoards lines, ∃ sent ∈ pair.words, ∃ word ∈ words, Flagged sent word

/-- No flag lies on the lines or the identifier of a board, so the high lines are read through any
flags. -/
theorem highLines_or_flags (word : Word) {flags : Word} (only : flags.payload = 0#32) :
    highLines (word ||| flags) = highLines word := by
  have board : flags &&& lineBoardMask = 0#32 := and_eq_zero_of_payload only (by decide)
  have free (line : Nat) : flags.carries (lineBit line) = false := by
    have places : ∀ line < 16, (lineBit line).payload = lineBit line := by decide +kernel
    have inside := places (line % 16) (Nat.mod_lt _ (by decide))
    rw [lineBit_mod] at inside
    rw [carries, and_eq_zero_of_payload only inside]
    rfl
  simp only [highLines, BitVec.and_or_distrib_right, board, BitVec.or_zero, carries_or, free,
    Bool.or_false]

/-- Both words of a pair are read alike, whatever flags are laid over them, and as the payload that
the pair latches. The strobe is one more flag. -/
theorem Flagged.highLines_eq {payload sent word : Word} (flagged : Flagged sent word)
    (member : sent ∈ (LatchPair.of payload).words) : highLines word = highLines payload := by
  obtain ⟨flags, only, rfl⟩ := flagged
  rw [highLines_or_flags sent only]
  simp only [LatchPair.words, LatchPair.of, List.mem_cons, List.not_mem_nil, or_false] at member
  obtain rfl | rfl := member
  · exact highLines_or_flags payload (by decide)
  · rfl

/-- The pairs of the boards. -/
theorem mem_encodeBoards {lines : List (Nat × Bool)} {pair : LatchPair} :
    pair ∈ encodeBoards lines ↔
      ∃ board id, lineBoardId[board]? = some id ∧
        pair = LatchPair.of (boardPayload board id lines) := by
  rw [encodeBoards, List.mem_mapIdx]
  constructor
  · rintro ⟨board, stored, rfl⟩
    exact ⟨board, _, List.getElem?_eq_getElem stored, rfl⟩
  · rintro ⟨board, id, stored, rfl⟩
    obtain ⟨inside, rfl⟩ := List.getElem?_eq_some_iff.mp stored
    exact ⟨board, inside, rfl⟩

/-- Words that tell the lines give back the high ones. How often a word is there and in which order
does not matter. -/
theorem Conveys.decodeDigital_eq {lines : List (Nat × Bool)} {words : List Word}
    (conveys : Conveys lines words) : decodeDigital words = highAddresses lines := by
  apply Word.decodeDigital_eq
  · intro word given
    obtain ⟨pair, encoded, sent, member, flagged⟩ := conveys.of_pair word given
    obtain ⟨board, id, stored, rfl⟩ := mem_encodeBoards.mp encoded
    exact ⟨board, id, stored, flagged.highLines_eq member⟩
  · intro board id stored
    obtain ⟨sent, member, word, given, flagged⟩ :=
      conveys.each_pair _ (mem_encodeBoards.mpr ⟨board, id, stored, rfl⟩)
    exact ⟨word, given, flagged.highLines_eq member⟩

/-- A word is there without more flags. -/
theorem Flagged.refl (word : Word) : Flagged word word :=
  ⟨0#32, by decide, (BitVec.or_zero).symm⟩

/-- The words that were put out tell the lines, so what is said of all words that do is said of
them. -/
theorem conveys_encodeDigital (lines : List (Nat × Bool)) :
    Conveys lines (encodeDigital lines) where
  of_pair word given := by
    obtain ⟨pair, encoded, member⟩ := List.mem_flatMap.mp given
    exact ⟨pair, encoded, word, member, Flagged.refl word⟩
  each_pair pair encoded := by
    have member : pair.plain ∈ pair.words := List.mem_cons_of_mem _ (List.mem_singleton_self _)
    exact ⟨pair.plain, member, pair.plain, List.mem_flatMap.mpr ⟨pair, encoded, member⟩,
      Flagged.refl _⟩

/-- Decoding the words for lines gives each address that has a board and is set high once, in
ascending order. It does so from one word of each pair too, whatever their order and the flags laid
over them. The words depend on that set alone: no order or repetition of the entries matters, and no
entry that is low or beyond the boards.

Nothing is assumed of the list of lines, which may contradict itself: an address that is set both
high and low is high. -/
theorem decodeDigital_encodeDigital (lines : List (Nat × Bool)) :
    (decodeDigital (encodeDigital lines)).Pairwise (· < ·) ∧
      (∀ address, address ∈ decodeDigital (encodeDigital lines) ↔
        address < 48 ∧ (address, true) ∈ lines) ∧
      (∀ words, Conveys lines words →
        decodeDigital words = decodeDigital (encodeDigital lines)) ∧
      (∀ extra other : List (Nat × Bool),
        (∀ entry ∈ extra, entry ∈ lines ∨ entry.2 = false ∨ 48 ≤ entry.1) →
        (extra ++ lines).Perm other → encodeDigital other = encodeDigital lines) ∧
      encodeDigital ((decodeDigital (encodeDigital lines)).map fun address => (address, true)) =
        encodeDigital lines := by
  rw [(conveys_encodeDigital lines).decodeDigital_eq]
  refine ⟨List.pairwise_lt_range.filter _, mem_highAddresses lines,
    fun words conveys => conveys.decodeDigital_eq, fun extra other idle arranged => ?_, ?_⟩
  · refine encodeDigital_congr fun address near => ?_
    rw [← arranged.mem_iff, List.mem_append]
    constructor
    · rintro (added | listed)
      · obtain listed | low | beyond := idle _ added
        · exact listed
        · exact nomatch low
        · exact absurd near (Nat.not_lt_of_le beyond)
      · exact listed
    · exact Or.inr
  · refine encodeDigital_congr fun address near => ?_
    have high := mem_highAddresses lines address
    simp only [List.mem_map, Prod.mk.injEq, and_true, exists_eq_right, high, near, true_and]

/-- Lines on the first and the last board, an entry that is low again, and one beyond the boards,
read from one word of each pair with a trigger on two of them. -/
theorem decodeDigital_encodeDigital_sample :
    let lines := [(33, true), (0, true), (5, false), (33, false), (60, true)]
    decodeDigital [0x40010002#32, 0x80030001#32, 0x10020000#32] =
        decodeDigital (encodeDigital lines) ∧
      encodeDigital [(0, true), (33, true)] = encodeDigital lines := by
  intro lines
  have pairs : encodeBoards lines = [LatchPair.of 0x30001#32, LatchPair.of 0x20000#32,
      LatchPair.of 0x10002#32] := by
    decide
  have last : Flagged 0x10002#32 0x40010002#32 := ⟨epochTrigger, by decide, by decide⟩
  have first := Flagged.refl 0x80030001#32
  have middle : Flagged 0x20000#32 0x10020000#32 := ⟨synthTrigger, by decide, by decide⟩
  have conveys : Conveys lines [0x40010002#32, 0x80030001#32, 0x10020000#32] := by
    constructor
    · rw [pairs]
      simp only [List.forall_mem_cons, List.not_mem_nil, false_implies, implies_true, and_true]
      exact ⟨⟨LatchPair.of 0x10002#32, by decide, _, by decide, last⟩,
        ⟨LatchPair.of 0x30001#32, by decide, _, by decide, first⟩,
        ⟨LatchPair.of 0x20000#32, by decide, _, by decide, middle⟩⟩
    · rw [pairs]
      simp only [List.forall_mem_cons, List.not_mem_nil, false_implies, implies_true, and_true]
      exact ⟨⟨_, by decide, _, by simp, first⟩, ⟨_, by decide, _, by simp, middle⟩,
        ⟨_, by decide, _, by simp, last⟩⟩
  obtain ⟨-, -, given, -, again⟩ := decodeDigital_encodeDigital lines
  have high : decodeDigital (encodeDigital lines) = [0, 33] := by decide +kernel
  rw [high] at again
  exact ⟨given _ conveys, again⟩

end PulseProgram.Word

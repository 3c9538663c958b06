import PulseProgram.Proofs.Update.LatchWords
import PulseProgram.Proofs.Word.Fields

/-!
# Reading an update back from its latch words

Counted back from the boundary, the payloads of the latch words say all that an update sets
on the boards. If the nearest one selects no converter board, then it is the last of six for
the line boards; all others come in pairs, one for each analog entry in the order given. So
the payloads are read without knowing the update.
-/

namespace PulseProgram

/-! ## Reading payloads -/

namespace Word

/-- The fields of payloads of which each comes twice. -/
def readPairs : List Word → List (Option (Nat × BitVec 16))
  | plain :: _ :: rest => analogField plain :: readPairs rest
  | _ => []

/-- What the payloads before a boundary say, the nearest first: which lines are high, if any line is
set, and the analog fields. Nothing of the update or of the map is needed to read them. -/
def readLatch : List Word → Option (List Nat) × List (Option (Nat × BitVec 16))
  | [] => (none, [])
  | nearest :: lower =>
    if nearest &&& analogBoardMask = 0#32 then
      (some (decodeDigital ((nearest :: lower).take digitalWords)),
        readPairs ((nearest :: lower).drop digitalWords))
    else (none, readPairs (nearest :: lower))

/-- The payloads of the line boards are read as the high lines, and the rest as pairs. The nearest
payload selects no converter board, which tells that lines are set. -/
theorem readLatch_boards (lines : List (Nat × Bool)) (lower : List Word) :
    readLatch (boardPayloads lines ++ lower) = (some (highAddresses lines), readPairs lower) := by
  have none_selected : boardPayload 2 0x10000#32 lines &&& analogBoardMask = 0#32 :=
    boardPayload_selects_none (by simp [lineBoardId]) lines
  have boards := decodeDigital_boardPayloads lines
  rw [boardPayloads_eq] at boards ⊢
  rw [List.cons_append, readLatch, if_pos none_selected, ← boards]
  rfl

/-- Payloads that select a converter board are read as pairs, so without lines there is no mistaking
the nearest one for a line board. No payloads at all say nothing. -/
theorem readLatch_pairs {payloads : List Word}
    (selecting : ∀ payload ∈ payloads, payload &&& analogBoardMask ≠ 0#32) :
    readLatch payloads = (none, readPairs payloads) := by
  cases payloads with
  | nil => rfl
  | cons nearest lower => rw [readLatch, if_neg (selecting nearest List.mem_cons_self)]

/-- The payloads of the line boards are not zero, since each has the identifier of its board. -/
theorem ne_zero_of_mem_boardPayloads {lines : List (Nat × Bool)} {payload : Word}
    (member : payload ∈ boardPayloads lines) : payload ≠ 0#32 := by
  have positive : ∀ board id, 0 < id.toNat → id.toNat < 2 ^ 18 →
      boardPayload board id lines ≠ 0#32 := by
    intro board id positive small zero
    have bounds := (@boardPayload_bounds board id positive small lines).1
    rw [zero] at bounds
    exact absurd bounds (by decide)
  rw [boardPayloads_eq] at member
  simp only [List.mem_cons, List.not_mem_nil, or_false] at member
  rcases member with rfl | rfl | rfl | rfl | rfl | rfl <;>
    exact positive _ _ (by decide) (by decide)

end Word

namespace Update

/-- The channel and the code of an analog entry, if its name is known. -/
def analogField? (map : ChannelMap) (entry : String × Binary64) : Option (Nat × BitVec 16) :=
  (map.resolve entry.1 .analog).toOption.map (·, BitVec.ofNat 16 (Word.analogCode entry.2))

/-- The lines that the update sets high, if any digital channel is named. -/
def highLines? (map : ChannelMap) (update : Update) : Option (List Nat) :=
  if update.digital.isEmpty then none
  else some (Word.highAddresses (update.digital.filterMap (digitalLine? map)))

/-- The payloads of pairs that are stacked downward, the nearest to the boundary first. -/
def pairPayloads (pairs : List LatchPair) : List Word :=
  ((pairs.map LatchPair.words).reverse.flatten.map Word.payload).reverse

/-- The first pair is the nearest. -/
theorem pairPayloads_cons (pair : LatchPair) (pairs : List LatchPair) :
    pairPayloads (pair :: pairs) =
      (pair.words.map Word.payload).reverse ++ pairPayloads pairs := by
  rw [pairPayloads, List.map_cons, List.reverse_cons, List.flatten_append, List.flatten_singleton,
    List.map_append, List.reverse_append, pairPayloads]

/-- The pair of an analog entry has the payload that its channel and code give. The channel is one
of those that there are select bits for. -/
theorem analogPair?_eq {map : ChannelMap} {entry : String × Binary64} {pair : LatchPair}
    (encoded : analogPair? map entry = some pair) :
    ∃ address code, address < Channel.analogCount ∧
      pair = LatchPair.of (Word.analogPayload address code) ∧
      analogField? map entry = some (address, code.setWidth 16) := by
  unfold analogPair? at encoded
  split at encoded
  · next address resolved =>
    unfold Word.encodeAnalog at encoded
    split at encoded
    · exact nomatch encoded
    · next valid =>
      split at encoded
      · exact nomatch encoded
      · refine ⟨address, _, Nat.lt_of_not_le valid, (Option.some.inj encoded).symm, ?_⟩
        rw [analogField?, resolved, BitVec.setWidth_ofNat_of_le (by decide)]
        rfl
  · exact nomatch encoded

/-- The payloads of the pairs of analog entries are read as the fields of the entries, in their
order, and each of them selects a converter board. It is by induction on the entries, of which the
first has the nearest pair. -/
theorem readPairs_pairPayloads {map : ChannelMap} {entries : List (String × Binary64)}
    {pairs : List LatchPair} (encoded : entries.map (analogPair? map) = pairs.map some) :
    Word.readPairs (pairPayloads pairs) = entries.map (analogField? map) ∧
      ∀ payload ∈ pairPayloads pairs, payload &&& Word.analogBoardMask ≠ 0#32 := by
  induction entries generalizing pairs with
  | nil =>
    obtain rfl := List.map_eq_nil_iff.mp encoded.symm
    exact ⟨rfl, fun payload absent => absurd absent List.not_mem_nil⟩
  | cons entry rest inductionHypothesis =>
    cases pairs with
    | nil => exact nomatch encoded
    | cons pair others =>
      obtain ⟨first, remaining⟩ := List.cons.inj encoded
      obtain ⟨address, code, valid, rfl, field⟩ := analogPair?_eq first
      obtain ⟨read, selecting⟩ := inductionHypothesis remaining
      have payloads : pairPayloads (LatchPair.of (Word.analogPayload address code) :: others) =
          Word.analogPayload address code :: Word.analogPayload address code ::
            pairPayloads others := by
        rw [pairPayloads_cons, Word.payload_pair (Word.analogPayload_bounds valid code).2]
        rfl
      rw [payloads]
      constructor
      · rw [Word.readPairs, read, Word.analogField_payload valid, List.map_cons, field]
      · intro payload member
        rcases List.mem_cons.mp member with rfl | member
        · exact Word.analogPayload_selects valid code
        · rcases List.mem_cons.mp member with rfl | member
          · exact Word.analogPayload_selects valid code
          · exact selecting payload member

namespace ResolvesTo

variable {map : ChannelMap} {update : Update} {resolved : ResolvedUpdate}

/-- The payloads of the latch words, the nearest to the boundary first: those of the line
boards, if any digital channel is named, and then those of the pairs. -/
theorem payloads_eq (resolves : update.ResolvesTo map resolved) :
    (resolved.stacked.map Word.payload).reverse =
      (if update.digital.isEmpty then []
        else Word.boardPayloads (update.digital.filterMap (digitalLine? map))) ++
      pairPayloads resolved.analog := by
  rw [resolves.stacked_eq, List.map_append, List.reverse_append, lineWords]
  cases update.digital.isEmpty <;> rfl

/-- No payload of the latch words is zero, so a latch word is told from a step that has flags
only. -/
theorem payload_ne_zero (resolves : update.ResolvesTo map resolved) :
    ∀ word ∈ resolved.stacked, word.payload ≠ 0#32 := by
  intro word member
  have listed : word.payload ∈ (resolved.stacked.map Word.payload).reverse :=
    List.mem_reverse.mpr (List.mem_map_of_mem member)
  rw [resolves.payloads_eq] at listed
  rcases List.mem_append.mp listed with board | pair
  · split at board
    · exact absurd board List.not_mem_nil
    · exact Word.ne_zero_of_mem_boardPayloads board
  · intro zero
    have selects := (readPairs_pairPayloads resolves.analog).2 _ pair
    rw [zero] at selects
    exact selects (by decide)

/-- The payloads of the latch words are read as what the update sets. This is said of accepted
updates alone: others put out no words. -/
theorem readLatch_stacked (resolves : update.ResolvesTo map resolved) :
    Word.readLatch (resolved.stacked.map Word.payload).reverse =
      (update.highLines? map, update.analog.map (analogField? map)) := by
  obtain ⟨read, selecting⟩ := readPairs_pairPayloads resolves.analog
  rw [resolves.payloads_eq, highLines?]
  split
  · rw [List.nil_append, Word.readLatch_pairs selecting, read]
  · rw [Word.readLatch_boards, read]

end ResolvesTo

end Update

end PulseProgram

import PulseProgram.Proofs.Update.Resolution

/-!
# Where the latch words of an update stand

The latch words of an update end right before its boundary. Counted back from the boundary
come first the six words of the line boards, if a digital channel is named, and then two
words for each analog entry: the plain word of the pair nearer to the boundary and its
strobed word before it. This is said of the entries alone; the words that are put out are
the same.
-/

namespace PulseProgram

namespace Update

/-- The words of the line boards, if any digital channel is named. -/
def lineWords (map : ChannelMap) (update : Update) : List Word :=
  if update.digital.isEmpty then []
  else Word.encodeDigital (update.digital.filterMap (digitalLine? map))

/-- The latch word that stands a number of steps before the boundary. It is told by the entries of
the update alone. -/
def latchWordBefore? (map : ChannelMap) (update : Update) (distance : Nat) : Option Word :=
  let lines := update.lineWords map
  if distance ≤ lines.length then lines[lines.length - distance]?
  else
    let beyond := distance - lines.length
    (update.analog[(beyond - 1) / 2]?.bind (analogPair? map)).map fun pair =>
      if beyond % 2 = 0 then pair.strobed else pair.plain

/-- A pair reads as its plain word one step from its end and its strobed word two steps. -/
theorem pair_getElem? (pair : LatchPair) {distance : Nat} (positive : 0 < distance)
    (within : distance ≤ 2) :
    pair.words[2 - distance]? = some (if distance % 2 = 0 then pair.strobed else pair.plain) := by
  have cases : distance = 1 ∨ distance = 2 := by omega
  rcases cases with rfl | rfl <;> rfl

/-- Pairs have two words each. -/
theorem length_stackedPairs (pairs : List LatchPair) :
    (pairs.map LatchPair.words).reverse.flatten.length = 2 * pairs.length := by
  induction pairs with
  | nil => rfl
  | cons pair rest inductionHypothesis =>
    rw [List.map_cons, List.reverse_cons, List.flatten_append, List.flatten_singleton,
      List.length_append, inductionHypothesis, List.length_cons]
    rfl

/-- Pairs that are stacked downward, the first one last, read from their end. Every pair takes two
steps, of which the one nearer to the end has the plain word. -/
theorem stackedPairs_getElem? (pairs : List LatchPair) {distance : Nat}
    (positive : 0 < distance) (within : distance ≤ 2 * pairs.length) :
    (pairs.map LatchPair.words).reverse.flatten[2 * pairs.length - distance]? =
      pairs[(distance - 1) / 2]?.map fun pair =>
        if distance % 2 = 0 then pair.strobed else pair.plain := by
  induction pairs generalizing distance with
  | nil => exact absurd positive (Nat.not_lt.mpr within)
  | cons pair rest inductionHypothesis =>
    have length := length_stackedPairs rest
    rw [List.map_cons, List.reverse_cons, List.flatten_append, List.flatten_singleton]
    rw [List.length_cons] at within ⊢
    by_cases last : distance ≤ 2
    · have place : 2 * (rest.length + 1) - distance - 2 * rest.length = 2 - distance := by omega
      have first : (distance - 1) / 2 = 0 := by omega
      rw [List.getElem?_append_right (by omega), length, place, pair_getElem? pair positive last,
        first]
      rfl
    · have place : 2 * (rest.length + 1) - distance = 2 * rest.length - (distance - 2) := by omega
      have index : (distance - 1) / 2 = (distance - 2 - 1) / 2 + 1 := by omega
      have parity : distance % 2 = (distance - 2) % 2 := by omega
      rw [List.getElem?_append_left (by omega), place,
        @inductionHypothesis (distance - 2) (by omega) (by omega), index, List.getElem?_cons_succ,
        parity]

namespace ResolvesTo

variable {map : ChannelMap} {update : Update} {resolved : ResolvedUpdate}

/-- The words put out are the stacked pairs and, after them, the words of the lines. So the lines
stand nearest to the boundary. -/
theorem stacked_eq (resolves : update.ResolvesTo map resolved) :
    resolved.stacked =
      (resolved.analog.map LatchPair.words).reverse.flatten ++ update.lineWords map := by
  rw [ResolvedUpdate.stacked, ResolvedUpdate.latchBlocks, List.reverse_append,
    List.flatten_append, resolves.digital, lineWords]
  cases update.digital.isEmpty <;> simp

/-- The words of the line boards are six or none. -/
theorem latchLength_split (resolves : update.ResolvesTo map resolved) :
    update.latchLength = 2 * resolved.analog.length + (update.lineWords map).length := by
  rw [latchLength, lineWords, resolves.length_analog]
  cases update.digital.isEmpty <;> rfl

/-- As many latch words are put out as are reserved, so they fill their region on the timeline. -/
theorem length_stacked (resolves : update.ResolvesTo map resolved) :
    resolved.stacked.length = update.latchLength := by
  rw [resolves.stacked_eq, resolves.latchLength_split, List.length_append, length_stackedPairs]

/-- A word that is put out is the one that the entries say, whether it is one of the lines or of a
pair. -/
theorem stacked_getElem? (resolves : update.ResolvesTo map resolved) {distance : Nat}
    (within : distance ≤ update.latchLength) :
    resolved.stacked[update.latchLength - distance]? = update.latchWordBefore? map distance := by
  have length := length_stackedPairs resolved.analog
  have total := resolves.latchLength_split
  rw [resolves.stacked_eq, latchWordBefore?]
  by_cases line : distance ≤ (update.lineWords map).length
  · have place : update.latchLength - distance - 2 * resolved.analog.length =
        (update.lineWords map).length - distance := by omega
    simp only [line, if_true]
    rw [List.getElem?_append_right (by omega), length, place]
  · have place : update.latchLength - distance =
        2 * resolved.analog.length - (distance - (update.lineWords map).length) := by omega
    simp only [line, if_false]
    rw [List.getElem?_append_left (by omega), place, stackedPairs_getElem? _ (by omega) (by omega),
      resolves.analog_getElem?]

/-- Beyond the latch words there are none, so the distance needs no bound where words are looked
up. -/
theorem latchWordBefore?_of_lt (resolves : update.ResolvesTo map resolved) {distance : Nat}
    (beyond : update.latchLength < distance) : update.latchWordBefore? map distance = none := by
  have total := resolves.latchLength_split
  have line : ¬distance ≤ (update.lineWords map).length := by omega
  simp only [latchWordBefore?, line, if_false]
  rw [resolves.analog_getElem?, List.getElem?_eq_none (by omega)]
  rfl

/-- All words put out are latch words, so none of them looks unwritten and none carries a
trigger. -/
theorem stacked_isLatch (resolves : update.ResolvesTo map resolved) :
    ∀ word ∈ resolved.stacked, Word.IsLatch word := by
  intro word member
  rw [resolves.stacked_eq] at member
  rcases List.mem_append.mp member with pairWord | lineWord
  · obtain ⟨words, stored, inside⟩ := List.mem_flatten.mp pairWord
    obtain ⟨pair, resolvedPair, rfl⟩ := List.mem_map.mp (List.mem_reverse.mp stored)
    have encoded : some pair ∈ update.analog.map (analogPair? map) := by
      rw [resolves.analog]
      exact List.mem_map_of_mem resolvedPair
    obtain ⟨⟨name, value⟩, _, same⟩ := List.mem_map.mp encoded
    unfold analogPair? at same
    split at same
    · next address _ =>
      refine @Word.encodeAnalog_isLatch address value pair ?_ word inside
      cases result : Word.encodeAnalog address value with
      | error cause => rw [result] at same; exact nomatch same
      | ok other => rw [result] at same; exact congrArg Except.ok (Option.some.inj same)
    · exact nomatch same
  · unfold lineWords at lineWord
    split at lineWord
    · exact absurd lineWord List.not_mem_nil
    · exact Word.encodeDigital_isLatch _ word lineWord

end ResolvesTo

end Update

end PulseProgram

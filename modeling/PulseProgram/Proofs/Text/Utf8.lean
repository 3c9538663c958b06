import PulseProgram.Text.Utf8

/-!
# Text that comes back

Decoding gives back what was encoded. The first byte of a character tells how many bytes follow
and where the next one may lie, and each byte that follows adds six bits. The bounds on the
second byte shut out only what no character is encoded as. Every byte of a character that takes
more than one is above those of the characters that take one, so none looks like a line feed.
-/

namespace PulseProgram.Text

/-! ## The bytes of a character -/

/-- A small number is the value of its byte. -/
theorem toNat_byte {value : Nat} (small : value < 256) : (UInt8.ofNat value).toNat = value := by
  rw [UInt8.toNat_ofNat', Nat.mod_eq_of_lt small]

/-- A byte within the bounds adds its bits to a character of which more is missing. The bounds hold
for this byte alone; the next one may be any byte that goes on. -/
theorem decodeFrom_goesOn {lower upper : UInt8} {bits : Nat} (short : bits < 64)
    (above : lower.toNat ≤ bits + 128) (below : bits + 128 ≤ upper.toNat) (missing value : Nat)
    (rest : Bytes) :
    decodeFrom (some ⟨missing + 2, lower, upper, value⟩) (UInt8.ofNat (bits + 128) :: rest) =
      decodeFrom (some ⟨missing + 1, 0x80, 0xbf, value * 64 + bits⟩) rest := by
  have byte := @toNat_byte (bits + 128) (by omega)
  have added : (bits + 128) % 64 = bits := by omega
  rw [← byte, ← UInt8.le_iff_toNat_le] at above below
  rw [decodeFrom, if_pos ⟨above, below⟩, if_neg (by simp), byte, added]
  rfl

/-- The last byte of a character adds its bits and completes it. What follows is decoded afresh. -/
theorem decodeFrom_ends {bits : Nat} (short : bits < 64) (value : Nat) (rest : Bytes) :
    decodeFrom (some ⟨1, 0x80, 0xbf, value⟩) (UInt8.ofNat (bits + 128) :: rest) =
      some (Char.ofNat (value * 64 + bits)) :: decodeFrom none rest := by
  have byte := @toNat_byte (bits + 128) (by omega)
  have added : (bits + 128) % 64 = bits := by omega
  have within : 0x80 ≤ UInt8.ofNat (bits + 128) ∧ UInt8.ofNat (bits + 128) ≤ 0xbf := by
    rw [UInt8.le_iff_toNat_le, UInt8.le_iff_toNat_le, byte]
    exact ⟨Nat.le_add_left 128 bits, Nat.add_le_add_right (Nat.le_of_lt_succ short) 128⟩
  rw [decodeFrom, if_pos within, if_pos (Nat.le_refl 1), byte, added]

/-- One byte is a character of its own. -/
theorem decodeFrom_one {value : Nat} (small : value < 128) (rest : Bytes) :
    decodeFrom none (UInt8.ofNat value :: rest) =
      some (Char.ofNat value) :: decodeFrom none rest := by
  have byte := @toNat_byte value (by omega)
  have whole : lead (UInt8.ofNat value) = .whole (some (Char.ofNat value)) := by
    simp only [lead, UInt8.lt_iff_toNat_lt, byte, UInt8.reduceToNat, if_pos small]
  rw [decodeFrom, whole]

/-- Of two bytes, the first is high enough that one byte would not do. -/
theorem decodeFrom_two {high last : Nat} (shortest : 2 ≤ high) (small : high < 32)
    (short : last < 64) (rest : Bytes) :
    decodeFrom none (UInt8.ofNat (high + 192) :: UInt8.ofNat (last + 128) :: rest) =
      some (Char.ofNat (high * 64 + last)) :: decodeFrom none rest := by
  have byte := @toNat_byte (high + 192) (by omega)
  have value : (high + 192) % 32 = high := by omega
  have first : lead (UInt8.ofNat (high + 192)) = .first ⟨1, 0x80, 0xbf, high⟩ := by
    simp only [lead, UInt8.lt_iff_toNat_lt, byte, UInt8.reduceToNat, value]
    rw [if_neg (by omega), if_neg (by omega), if_pos (by omega)]
  rw [decodeFrom, first]
  exact decodeFrom_ends short high rest

/-- Of three bytes, the second has a higher lower bound if the form could be shorter, and a
lower upper bound where the surrogates would be. -/
theorem decodeFrom_three {high middle last : Nat} (small : high < 16) (shortMiddle : middle < 64)
    (short : last < 64) (shortest : high = 0 → 32 ≤ middle) (scalar : high = 13 → middle < 32)
    (rest : Bytes) :
    decodeFrom none (UInt8.ofNat (high + 224) :: UInt8.ofNat (middle + 128) ::
        UInt8.ofNat (last + 128) :: rest) =
      some (Char.ofNat ((high * 64 + middle) * 64 + last)) :: decodeFrom none rest := by
  obtain ⟨lower, upper, first, above, below⟩ : ∃ lower upper : UInt8,
      lead (UInt8.ofNat (high + 224)) = .first ⟨2, lower, upper, high⟩ ∧
        lower.toNat ≤ middle + 128 ∧ middle + 128 ≤ upper.toNat := by
    have byte := @toNat_byte (high + 224) (by omega)
    have value : (high + 224) % 16 = high := by omega
    simp only [lead, UInt8.lt_iff_toNat_lt, ← UInt8.toNat_inj, byte, UInt8.reduceToNat, value]
    rw [if_neg (by omega), if_neg (by omega), if_neg (by omega)]
    split
    · next least =>
      obtain rfl : high = 0 := by omega
      refine ⟨0xa0, 0xbf, rfl, ?_, ?_⟩ <;> simp only [UInt8.reduceToNat] <;> omega
    · split
      · next surrogates =>
        obtain rfl : high = 13 := by omega
        refine ⟨0x80, 0x9f, rfl, ?_, ?_⟩ <;> simp only [UInt8.reduceToNat] <;> omega
      · rw [if_pos (by omega)]
        refine ⟨0x80, 0xbf, rfl, ?_, ?_⟩ <;> simp only [UInt8.reduceToNat] <;> omega
  rw [decodeFrom, first]
  exact (decodeFrom_goesOn shortMiddle above below 0 high _).trans (decodeFrom_ends short _ rest)

/-- Of four bytes, the second has a higher lower bound if the form could be shorter, and a lower
upper bound at the last code points. -/
theorem decodeFrom_four {high second third last : Nat} (small : high ≤ 4)
    (shortSecond : second < 64) (shortThird : third < 64) (short : last < 64)
    (shortest : high = 0 → 16 ≤ second) (within : high = 4 → second < 16) (rest : Bytes) :
    decodeFrom none (UInt8.ofNat (high + 240) :: UInt8.ofNat (second + 128) ::
        UInt8.ofNat (third + 128) :: UInt8.ofNat (last + 128) :: rest) =
      some (Char.ofNat (((high * 64 + second) * 64 + third) * 64 + last)) ::
        decodeFrom none rest := by
  obtain ⟨lower, upper, first, above, below⟩ : ∃ lower upper : UInt8,
      lead (UInt8.ofNat (high + 240)) = .first ⟨3, lower, upper, high⟩ ∧
        lower.toNat ≤ second + 128 ∧ second + 128 ≤ upper.toNat := by
    match high, small with
    | 0, _ =>
      refine ⟨0x90, 0xbf, rfl, ?_, ?_⟩ <;> simp only [UInt8.reduceToNat] <;> omega
    | 1, _ | 2, _ | 3, _ =>
      refine ⟨0x80, 0xbf, rfl, ?_, ?_⟩ <;> simp only [UInt8.reduceToNat] <;> omega
    | 4, _ =>
      refine ⟨0x80, 0x8f, rfl, ?_, ?_⟩ <;> simp only [UInt8.reduceToNat] <;> omega
  have third_within : (0x80 : UInt8).toNat ≤ third + 128 ∧ third + 128 ≤ (0xbf : UInt8).toNat := by
    simp only [UInt8.reduceToNat]
    omega
  rw [decodeFrom, first]
  exact (decodeFrom_goesOn shortSecond above below 1 high _).trans
    ((decodeFrom_goesOn shortThird third_within.1 third_within.2 0 _ _).trans
      (decodeFrom_ends short _ rest))

/-- A character comes back, whatever follows it.

Proof: there is one case for each number of bytes. The size of the number, and the gap that the
surrogates leave among the characters, give the bounds on the second byte. -/
theorem decodeFrom_encodeChar (char : Char) (rest : Bytes) :
    decodeFrom none (String.utf8EncodeChar char ++ rest) =
      some char :: decodeFrom none rest := by
  have valid : char.toNat < 0xd800 ∨ 0xdfff < char.toNat ∧ char.toNat < 0x110000 := char.valid
  have whole : Char.ofNat char.toNat = char := Char.ofNat_toNat char
  have number : char.val.toNat = char.toNat := rfl
  rw [String.utf8EncodeChar, number]
  generalize char.toNat = value at valid whole
  split
  · exact (decodeFrom_one (by omega) rest).trans (by rw [whole])
  · split
    · have sum : value / 64 % 32 * 64 + value % 64 = value := by omega
      exact (decodeFrom_two (by omega) (by omega) (by omega) rest).trans (by rw [sum, whole])
    · split
      · have sum : (value / 4096 % 16 * 64 + value / 64 % 64) * 64 + value % 64 = value := by
          omega
        exact (decodeFrom_three (by omega) (by omega) (by omega) (by omega) (by omega) rest).trans
          (by rw [sum, whole])
      · have sum : ((value / 262144 % 8 * 64 + value / 4096 % 64) * 64 + value / 64 % 64) * 64 +
            value % 64 = value := by
          omega
        exact (decodeFrom_four (by omega) (by omega) (by omega) (by omega) (by omega) (by omega)
          rest).trans (by rw [sum, whole])

/-- Only the line feed has the byte of a line feed. A character of several bytes has them all above
those of the characters that take one. -/
theorem eq_newline_of_mem {char : Char} (member : 0x0a ∈ String.utf8EncodeChar char) :
    char = '\n' := by
  have number : char.val.toNat = char.toNat := rfl
  have differs {bits lead : Nat} (high : 128 ≤ lead) (small : bits + lead < 256) :
      (0x0a : UInt8) ≠ UInt8.ofNat (bits + lead) := by
    rw [Ne, ← UInt8.toNat_inj, toNat_byte small]
    change ¬10 = bits + lead
    omega
  rw [String.utf8EncodeChar, number] at member
  split at member
  · next small =>
    have same := congrArg UInt8.toNat (List.mem_singleton.mp member)
    rw [toNat_byte (Nat.lt_of_le_of_lt small (by decide))] at same
    rw [← Char.ofNat_toNat char, ← same]
    rfl
  · refine absurd member ?_
    split
    · simp only [List.mem_cons, List.not_mem_nil, or_false, not_or]
      exact ⟨differs (by decide) (by omega), differs (by decide) (by omega)⟩
    · split
      · simp only [List.mem_cons, List.not_mem_nil, or_false, not_or]
        exact ⟨differs (by decide) (by omega), differs (by decide) (by omega),
          differs (by decide) (by omega)⟩
      · simp only [List.mem_cons, List.not_mem_nil, or_false, not_or]
        exact ⟨differs (by decide) (by omega), differs (by decide) (by omega),
          differs (by decide) (by omega), differs (by decide) (by omega)⟩

/-! ## Texts -/

/-- A text comes back in front of what follows it. The bytes that follow may be malformed: the text
ends at the end of a character, so nothing of it is read together with them. -/
theorem decodeLossy_encode_append (text : String) (rest : Bytes) :
    decodeLossy (encode text ++ rest) = text.toList ++ decodeLossy rest := by
  rw [encode]
  induction text.toList with
  | nil => rfl
  | cons char chars inductionHypothesis =>
    rw [decodeLossy] at inductionHypothesis ⊢
    rw [List.flatMap_cons, List.append_assoc, decodeFrom_encodeChar, List.map_cons,
      inductionHypothesis]
    rfl

/-- The bytes of a text without line feeds have none. -/
theorem newline_notMem_encode {text : String} (single : '\n' ∉ text.toList) :
    0x0a ∉ encode text := by
  intro member
  obtain ⟨char, listed, inside⟩ := List.mem_flatMap.mp member
  rw [eq_newline_of_mem inside] at listed
  exact single listed

end PulseProgram.Text

/-!
# Text as bytes

Text travels over links and in files as UTF-8. Decoding marks every invalid part
of the input: such a part is the longest beginning of a character's encoding that
the next byte does not continue, or a single byte that begins none. A reader
either replaces each marked part by one replacement character or refuses the
input.

The decoder consumes one byte at a time, so decoding is a recursion on the input
with the unfinished character as its state.
-/

namespace PulseProgram.Text

/-- A string of bytes. -/
abbrev Bytes := List UInt8

/-- The bytes of a text. -/
def encode (text : String) : Bytes := text.toList.flatMap String.utf8EncodeChar

/-- A character of which some bytes are still missing. The next byte has to lie
between `lower` and `upper`. -/
structure Unfinished where
  missing : Nat
  lower : UInt8
  upper : UInt8
  value : Nat

/-- What a byte at the start of a character means: a whole character, the first
byte of a longer one, or an invalid part (`none`). -/
inductive Lead where
  | whole (char : Option Char)
  | first (unfinished : Unfinished)

/-- Reads the first byte of a character. The bounds on the second byte exclude
overlong forms, surrogates and values beyond the last code point. -/
def lead (byte : UInt8) : Lead :=
  if byte < 0x80 then .whole (some (Char.ofNat byte.toNat))
  else if byte < 0xc2 then .whole none
  else if byte < 0xe0 then .first ⟨1, 0x80, 0xbf, byte.toNat % 32⟩
  else if byte = 0xe0 then .first ⟨2, 0xa0, 0xbf, 0⟩
  else if byte = 0xed then .first ⟨2, 0x80, 0x9f, 13⟩
  else if byte < 0xf0 then .first ⟨2, 0x80, 0xbf, byte.toNat % 16⟩
  else if byte = 0xf0 then .first ⟨3, 0x90, 0xbf, 0⟩
  else if byte < 0xf4 then .first ⟨3, 0x80, 0xbf, byte.toNat % 8⟩
  else if byte = 0xf4 then .first ⟨3, 0x80, 0x8f, 4⟩
  else .whole none

/-- The characters of the bytes, with `none` for each invalid part. -/
def decodeFrom : Option Unfinished → Bytes → List (Option Char)
  | none, [] => []
  | some _, [] => [none]
  | none, byte :: rest =>
    match lead byte with
    | .whole char => char :: decodeFrom none rest
    | .first unfinished => decodeFrom (some unfinished) rest
  | some unfinished, byte :: rest =>
    if unfinished.lower ≤ byte ∧ byte ≤ unfinished.upper then
      let value := unfinished.value * 64 + byte.toNat % 64
      if unfinished.missing ≤ 1 then some (Char.ofNat value) :: decodeFrom none rest
      else decodeFrom (some ⟨unfinished.missing - 1, 0x80, 0xbf, value⟩) rest
    else
      none ::
        match lead byte with
        | .whole char => char :: decodeFrom none rest
        | .first next => decodeFrom (some next) rest

/-- The characters of the bytes, with the replacement character for each invalid
part. -/
def decodeLossy (bytes : Bytes) : List Char :=
  (decodeFrom none bytes).map (·.getD (Char.ofNat 0xfffd))

/-- The characters of the bytes, if no part is invalid. -/
def decode? (bytes : Bytes) : Option (List Char) := (decodeFrom none bytes).mapM id

end PulseProgram.Text

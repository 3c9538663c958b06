/-!
# Blank characters

The white space of Unicode, and text with the white space at its ends removed.
-/

namespace PulseProgram.Text

/-- The characters of the Unicode property White_Space. -/
def isBlank (char : Char) : Bool :=
  let code := char.toNat
  (9 ≤ code && code ≤ 13) || code = 0x20 || code = 0x85 || code = 0xa0 || code = 0x1680 ||
    (0x2000 ≤ code && code ≤ 0x200a) || code = 0x2028 || code = 0x2029 || code = 0x202f ||
    code = 0x205f || code = 0x3000

/-- Removes blank characters from the end. -/
def trimRight (chars : List Char) : List Char := (chars.reverse.dropWhile isBlank).reverse

/-- Removes blank characters from both ends. -/
def trim (chars : List Char) : List Char := trimRight (chars.dropWhile isBlank)

end PulseProgram.Text

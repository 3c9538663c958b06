import PulseProgram.Binary64

/-!
# Decimal text of double-precision numbers

Messages print a number with the fewest significant digits that read back to the
same double, the nearest such digits to the exact value, and a tie going up. The
digits are always written positionally, without an exponent. Device commands
print a fixed number of decimal places, rounded from the exact value with ties
to even.

Digit search works on the interval of rationals that round to the number. Its
ends belong to it exactly when the significand is even.
-/

namespace PulseProgram.Binary64

/-- Digits and a power of ten: the value `digits * 10 ^ exponent`. -/
structure Digits where
  digits : Nat
  exponent : Int
deriving DecidableEq

/-- The exact value of digits and a power of ten. -/
def Digits.toRat (value : Digits) : Rat :=
  mkRat (value.digits * Nat.pow 10 value.exponent.toNat : Nat)
    (Nat.pow 10 (-value.exponent).toNat)

/-- The number of decimal digits of a natural number; zero has one. -/
def digitCount (value : Nat) : Nat := (Nat.toDigits 10 value).length

/-- The whole part of the decimal logarithm of a positive quotient. -/
def floorLogTen (numerator denominator : Nat) : Int :=
  let estimate : Int := (digitCount numerator : Int) - (digitCount denominator : Int)
  if denominator * Nat.pow 10 estimate.toNat ≤ numerator * Nat.pow 10 (-estimate).toNat
  then estimate
  else estimate - 1

/-- The rationals that round to one positive number: from `low` to `high`, with
or without the ends. -/
structure RoundingInterval where
  low : Rat
  high : Rat
  closed : Bool

/-- The interval of a number with this significand and exponent. Below a power of
two the numbers lie twice as close, except at the bottom of the range. -/
def RoundingInterval.of (significand : Nat) (exponent : Int) : RoundingInterval :=
  let value := (significand : Rat) * powerOfTwo exponent
  let below := if significand = Nat.pow 2 52 ∧ -1074 < exponent
    then powerOfTwo (exponent - 2) else powerOfTwo (exponent - 1)
  { low := value - below
    high := value + powerOfTwo (exponent - 1)
    closed := significand % 2 = 0 }

/-- Membership, with the ends as the interval has them. -/
def RoundingInterval.contains (interval : RoundingInterval) (value : Rat) : Bool :=
  if interval.closed then decide (interval.low ≤ value) && decide (value ≤ interval.high)
  else decide (interval.low < value) && decide (value < interval.high)

/-- The grid point that stands for a value on the decimal grid of one exponent:
of the two neighbours those inside the interval count, the nearer wins, and the
upper one wins a tie. -/
def RoundingInterval.onGrid (interval : RoundingInterval) (value : Rat) (exponent : Int) :
    Option Digits :=
  let scale := (Digits.mk 1 exponent).toRat
  let below : Digits := ⟨(value / scale).floor.toNat, exponent⟩
  let above : Digits := ⟨below.digits + 1, exponent⟩
  match interval.contains below.toRat, interval.contains above.toRat with
  | false, false => none
  | true, false => some below
  | false, true => some above
  | true, true => some (if value - below.toRat < above.toRat - value then below else above)

/-- Searches ever finer grids, one more digit each time. -/
def RoundingInterval.search (interval : RoundingInterval) (value : Rat) :
    (remaining : Nat) → (exponent : Int) → Digits
  | 0, exponent => ⟨nearestEven (value / (Digits.mk 1 exponent).toRat).num.natAbs
      (value / (Digits.mk 1 exponent).toRat).den, exponent⟩
  | remaining + 1, exponent =>
    match interval.onGrid value exponent with
    | some found => found
    | none => interval.search value remaining (exponent - 1)

/-- The fewest digits that read back to the positive number
`significand * 2 ^ exponent`. Seventeen always suffice. -/
def shortestDigits (significand : Nat) (exponent : Int) : Digits :=
  if significand = 0 then ⟨0, 0⟩
  else
    let value := (significand : Rat) * powerOfTwo exponent
    (RoundingInterval.of significand exponent).search value 17
      (floorLogTen value.num.natAbs value.den)

/-- The decimal digits of a natural number as text. -/
def naturalText (value : Nat) : String := String.ofList (Nat.toDigits 10 value)

/-- A fraction field without its trailing zeros. -/
def withoutTrailingZeros (digits : List Char) : List Char :=
  (digits.reverse.dropWhile (· = '0')).reverse

/-- Whole part and fraction digits of a decimal, written without an exponent. -/
def Digits.positional (value : Digits) : List Char × List Char :=
  let written := Nat.toDigits 10 value.digits
  if 0 ≤ value.exponent then
    (if value.digits = 0 then ['0'] else written ++ List.replicate value.exponent.toNat '0', [])
  else
    let places := (-value.exponent).toNat
    let padded := List.replicate (places + 1 - written.length) '0' ++ written
    (padded.take (padded.length - places), withoutTrailingZeros (padded.drop (padded.length - places)))

/-- The digits with a point only where a fraction follows. -/
def Digits.text (value : Digits) : String :=
  match value.positional with
  | (whole, []) => String.ofList whole
  | (whole, fraction) => String.ofList (whole ++ '.' :: fraction)

/-- The digits with at least one place after the point. -/
def Digits.textWithPoint (value : Digits) : String :=
  match value.positional with
  | (whole, []) => String.ofList (whole ++ ['.', '0'])
  | (whole, fraction) => String.ofList (whole ++ '.' :: fraction)

/-- Text with a leading minus sign where one is asked for. -/
def signed (negative : Bool) (text : String) : String :=
  if negative then "-" ++ text else text

/-- The text of a number in a message. -/
def text : Binary64 → String
  | .nan => "NaN"
  | .infinite negative => signed negative "inf"
  | .finite negative significand exponent _ =>
    signed negative (shortestDigits significand exponent).text

/-- The text of a number in a table, where a whole number keeps a decimal place. -/
def textWithPoint : Binary64 → String
  | .nan => "NaN"
  | .infinite negative => signed negative "inf"
  | .finite negative significand exponent _ =>
    signed negative (shortestDigits significand exponent).textWithPoint

/-- Digits padded on the left to at least the given length. -/
def padded (length : Nat) (digits : List Char) : List Char :=
  List.replicate (length - digits.length) '0' ++ digits

/-- The text with exactly `places` decimal places, rounded from the exact value
with ties to even. -/
def fixedText (places : Nat) : Binary64 → String
  | .nan => "NaN"
  | .infinite negative => signed negative "inf"
  | .finite negative significand exponent _ =>
    let scaled := significand * Nat.pow 10 places
    let units := nearestEven (scaled * Nat.pow 2 exponent.toNat) (Nat.pow 2 (-exponent).toNat)
    let digits := padded (places + 1) (Nat.toDigits 10 units)
    let whole := digits.take (digits.length - places)
    let fraction := digits.drop (digits.length - places)
    signed negative (String.ofList
      (if places = 0 then whole else whole ++ '.' :: fraction))

end PulseProgram.Binary64

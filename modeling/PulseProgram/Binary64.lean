/-!
# Double-precision numbers

A finite number is a sign, a significand and a binary exponent in the one form
the 64-bit interchange format stores. Its exact value is a rational number, and
arithmetic computes that rational result and rounds it once, to the nearest
representable number with ties to the even significand. Overflow gives an
infinity and underflow a signed zero.

Nothing here depends on the machine's floating-point unit: every operation is a
definition on natural numbers and rationals, so statements over all numbers can
be settled by proof.
-/

namespace PulseProgram

/-- A significand and exponent in stored form: at most 53 bits, the highest of
them set unless the exponent is already the smallest one. -/
def IsCanonical (significand : Nat) (exponent : Int) : Prop :=
  significand < Nat.pow 2 53 ∧ -1074 ≤ exponent ∧ exponent ≤ 971 ∧
    (Nat.pow 2 52 ≤ significand ∨ exponent = -1074)

instance (significand : Nat) (exponent : Int) : Decidable (IsCanonical significand exponent) :=
  inferInstanceAs (Decidable (_ ∧ _ ∧ _ ∧ _))

/-- A double-precision number. All quiet and signalling forms of "not a number"
are one value. -/
inductive Binary64 where
  /-- The result of an undefined operation. -/
  | nan
  /-- A value beyond the largest finite one. -/
  | infinite (negative : Bool)
  /-- The value `± significand * 2 ^ exponent`; zero keeps its sign. -/
  | finite (negative : Bool) (significand : Nat) (exponent : Int)
      (canonical : IsCanonical significand exponent)
deriving DecidableEq

/-- Two raised to any whole power, positive or negative, as an exact rational number. -/
def powerOfTwo (exponent : Int) : Rat :=
  mkRat (Nat.pow 2 exponent.toNat : Nat) (Nat.pow 2 (-exponent).toNat)

/-- The quotient rounded to the nearest natural number; a tie goes to the even
neighbour. -/
def nearestEven (numerator denominator : Nat) : Nat :=
  let quotient := numerator / denominator
  let doubled := 2 * (numerator % denominator)
  if doubled < denominator then quotient
  else if denominator < doubled then quotient + 1
  else quotient + quotient % 2

/-- The whole part of the binary logarithm of a positive quotient. The lengths of the terms give it
up to one, and a comparison settles which of the two it is. -/
def floorLogTwo (numerator denominator : Nat) : Int :=
  let estimate : Int := (numerator.log2 : Int) - (denominator.log2 : Int)
  if denominator * Nat.pow 2 estimate.toNat ≤ numerator * Nat.pow 2 (-estimate).toNat
  then estimate
  else estimate - 1

namespace Binary64

/-- Zero with the given sign, in the one form that is canonical. -/
def zero (negative : Bool) : Binary64 := .finite negative 0 (-1074) (by decide)

/-- The exact value of a finite number; zero stands in for the others. -/
def toRat : Binary64 → Rat
  | .finite false significand exponent _ => (significand : Rat) * powerOfTwo exponent
  | .finite true significand exponent _ => -((significand : Rat) * powerOfTwo exponent)
  | _ => 0

/-- A number from a significand that may have reached 53 bits and one: that one
carries into the exponent, and an exponent that is too large is an infinity. -/
def ofSignificand (negative : Bool) (significand : Nat) (exponent : Int) : Binary64 :=
  let carried := if significand = Nat.pow 2 53 then (Nat.pow 2 52, exponent + 1)
    else (significand, exponent)
  if canonical : IsCanonical carried.1 carried.2 then
    .finite negative carried.1 carried.2 canonical
  else .infinite negative

/-- The positive quotient of two naturals rounded to the nearest number of the
given sign. -/
def ofQuotient (negative : Bool) (numerator denominator : Nat) : Binary64 :=
  let exponent := max (-1074) (floorLogTwo numerator denominator - 52)
  ofSignificand negative
    (nearestEven (numerator * Nat.pow 2 (-exponent).toNat)
      (denominator * Nat.pow 2 exponent.toNat))
    exponent

/-- The number nearest to a rational one, ties to the even significand. An exact
zero takes the sign it is given. -/
def ofRat (negativeZero : Bool) (value : Rat) : Binary64 :=
  if value.num = 0 then zero negativeZero
  else ofQuotient (decide (value.num < 0)) value.num.natAbs value.den

/-- A natural number rounded to double precision. Up to two to the 53rd it is exact. -/
def ofNat (value : Nat) : Binary64 := ofRat false (value : Rat)

/-- An integer rounded to double precision. Zero has no sign bit. -/
def ofInt (value : Int) : Binary64 := ofRat false (value : Rat)

instance (value : Nat) : OfNat Binary64 value := ⟨ofNat value⟩

instance : Inhabited Binary64 := ⟨zero false⟩

/-- Neither an infinity nor an undefined result. -/
def isFinite : Binary64 → Bool
  | .finite .. => true
  | _ => false

/-- The sign bit; an undefined result counts as unsigned. -/
def isNegative : Binary64 → Bool
  | .nan => false
  | .infinite negative => negative
  | .finite negative .. => negative

/-! ## Arithmetic -/

/-- Changes the sign, also of zero and infinity. -/
def neg : Binary64 → Binary64
  | .nan => .nan
  | .infinite negative => .infinite (!negative)
  | .finite negative significand exponent canonical =>
    .finite (!negative) significand exponent canonical

/-- Drops the sign, also that of zero and infinity. -/
def abs : Binary64 → Binary64
  | .nan => .nan
  | .infinite _ => .infinite false
  | .finite _ significand exponent canonical => .finite false significand exponent canonical

/-- The rounded sum. Opposite infinities have none, and a sum of zero is
negative only if both terms are. -/
def add : Binary64 → Binary64 → Binary64
  | .nan, _ | _, .nan => .nan
  | .infinite left, .infinite right => if left = right then .infinite left else .nan
  | .infinite left, .finite .. => .infinite left
  | .finite .., .infinite right => .infinite right
  | left@(.finite ..), right@(.finite ..) =>
    ofRat (left.isNegative && right.isNegative) (left.toRat + right.toRat)

/-- The rounded difference, which is the sum with the sign changed. -/
def sub (left right : Binary64) : Binary64 := left.add right.neg

/-- The rounded product. Zero times an infinity is undefined. -/
def mul : Binary64 → Binary64 → Binary64
  | .nan, _ | _, .nan => .nan
  | .infinite left, .infinite right => .infinite (left ^^ right)
  | .infinite left, .finite right significand _ _
  | .finite right significand _ _, .infinite left =>
    if significand = 0 then .nan else .infinite (left ^^ right)
  | left@(.finite ..), right@(.finite ..) =>
    ofRat (left.isNegative ^^ right.isNegative) (left.toRat * right.toRat)

/-- The rounded quotient. Only zero by zero and infinity by infinity are
undefined; any other division by zero is an infinity. -/
def div : Binary64 → Binary64 → Binary64
  | .nan, _ | _, .nan => .nan
  | .infinite _, .infinite _ => .nan
  | .infinite left, .finite right .. => .infinite (left ^^ right)
  | .finite left .., .infinite right => zero (left ^^ right)
  | left@(.finite leftSign leftSignificand _ _), right@(.finite rightSign rightSignificand _ _) =>
    if rightSignificand = 0 then
      if leftSignificand = 0 then .nan else .infinite (leftSign ^^ rightSign)
    else ofRat (leftSign ^^ rightSign) (left.toRat / right.toRat)

instance : Neg Binary64 := ⟨neg⟩
instance : Add Binary64 := ⟨add⟩
instance : Sub Binary64 := ⟨sub⟩
instance : Mul Binary64 := ⟨mul⟩
instance : Div Binary64 := ⟨div⟩

/-! ## Order

An undefined result is in no relation to anything, itself included, and the two
zeros are equal. -/

/-- Strictly below, in the order of the exact values with the infinities at its ends. -/
def lt : Binary64 → Binary64 → Bool
  | .nan, _ | _, .nan => false
  | .infinite left, .infinite right => left && !right
  | .infinite left, .finite .. => left
  | .finite .., .infinite right => !right
  | left@(.finite ..), right@(.finite ..) => decide (left.toRat < right.toRat)

/-- Below or equal, in the same order. -/
def le : Binary64 → Binary64 → Bool
  | .nan, _ | _, .nan => false
  | .infinite left, .infinite right => left || !right
  | .infinite left, .finite .. => left
  | .finite .., .infinite right => !right
  | left@(.finite ..), right@(.finite ..) => decide (left.toRat ≤ right.toRat)

instance : LT Binary64 := ⟨fun left right => left.lt right = true⟩
instance : LE Binary64 := ⟨fun left right => left.le right = true⟩

instance (left right : Binary64) : Decidable (left < right) :=
  inferInstanceAs (Decidable (left.lt right = true))

instance (left right : Binary64) : Decidable (left ≤ right) :=
  inferInstanceAs (Decidable (left.le right = true))

/-- The larger of two numbers; a defined one wins over an undefined one. -/
def larger (left right : Binary64) : Binary64 :=
  match left with
  | .nan => right
  | _ => if left < right then right else left

/-! ## Whole numbers -/

/-- Applies a rounding to a whole number to the exact value. A zero result keeps
the sign of the argument. -/
def toWhole (round : Rat → Int) : Binary64 → Binary64
  | value@(.finite negative ..) => ofRat negative (round value.toRat : Rat)
  | value => value

/-- The greatest whole number that is not above. -/
def floor : Binary64 → Binary64 := toWhole Rat.floor

/-- The least whole number that is not below. -/
def ceil : Binary64 → Binary64 := toWhole Rat.ceil

/-- The nearest integer; a half goes away from zero. This is on exact values and is not rounded
itself. -/
def nearestAway (value : Rat) : Int :=
  if value < 0 then -(-value + mkRat 1 2).floor else (value + mkRat 1 2).floor

/-- The nearest whole number; a half goes away from zero. -/
def round : Binary64 → Binary64 := toWhole nearestAway

/-- The integer left when the fraction is dropped, which is toward zero on both sides. -/
def truncate (value : Rat) : Int :=
  if value < 0 then -(-value).floor else value.floor

/-- The whole part, clamped to `[low, high]`; an undefined result counts as
zero. -/
def toIntClamped (low high : Int) : Binary64 → Int
  | .nan => 0
  | .infinite negative => if negative then low else high
  | value@(.finite ..) => max low (min high (truncate value.toRat))

/-- The whole part as an unsigned integer of the given width, clamped to its
range. -/
def toUnsigned (width : Nat) (value : Binary64) : Nat :=
  (value.toIntClamped 0 ((Nat.pow 2 width : Nat) - 1)).toNat

/-- The whole part as a signed 64-bit integer, clamped to its range. -/
def toSigned (value : Binary64) : Int :=
  value.toIntClamped (-(Nat.pow 2 63 : Nat)) ((Nat.pow 2 63 : Nat) - 1)

/-! ## Decimal literals and the interchange format -/

/-- The number nearest to `± digits * 10 ^ exponent`. Exponents far outside the
range are decided by the number of digits alone, so no large power is formed. -/
def ofDecimal (negative : Bool) (digits : Nat) (exponent : Int) : Binary64 :=
  if digits = 0 then zero negative
  else
    let magnitude : Int := (digits.log2 : Int) / 4 + exponent
    if 400 < magnitude then .infinite negative
    else if (digits.log2 : Int) + 1 + exponent < -400 then zero negative
    else ofQuotient negative (digits * Nat.pow 10 exponent.toNat) (Nat.pow 10 (-exponent).toNat)

instance : OfScientific Binary64 where
  ofScientific digits negativeExponent exponent :=
    ofDecimal false digits (if negativeExponent then -(exponent : Int) else exponent)

/-- The 64 bits of the interchange format; the undefined result is the quiet
positive one. -/
def toBits : Binary64 → Nat
  | .nan => 0x7ff8000000000000
  | .infinite negative => (if negative then 0xfff0000000000000 else 0x7ff0000000000000)
  | .finite negative significand exponent _ =>
    (if negative then 0x8000000000000000 else 0) +
      (if significand < Nat.pow 2 52 then significand
       else (exponent + 1075).toNat * Nat.pow 2 52 + (significand - Nat.pow 2 52))

end Binary64

end PulseProgram

import PulseProgram.Toml.Value

/-!
# Numbers, truth values and dates of TOML

A scalar that is not in quotes is one word of letters, digits and a few signs.
What it denotes is decided on the whole word; a word that is none of these has no
value. Underscores may stand between digits only, a decimal number has no leading
zeros, integers have 64 bits, and a decimal fraction must not be too large for a
double.
-/

namespace PulseProgram.Toml

/-- May occur in an unquoted scalar. -/
def isScalarChar (char : Char) : Bool :=
  char.isAlphanum || char = '+' || char = '-' || char = '_' || char = '.' || char = ':'

/-- The value of a digit up to sixteen, in either case. -/
def digitValue (char : Char) : Nat :=
  if char.isDigit then char.toNat - '0'.toNat
  else if 'a' ≤ char && char ≤ 'f' then char.toNat - 'a'.toNat + 10
  else if 'A' ≤ char && char ≤ 'F' then char.toNat - 'A'.toNat + 10
  else 16

/-- Digits with single underscores between them, as the digits alone. -/
def digitRun (base : Nat) : List Char → Option (List Nat)
  | [] => none
  | [char] => if digitValue char < base then some [digitValue char] else none
  | char :: '_' :: rest =>
    if digitValue char < base then (digitRun base rest).map (digitValue char :: ·) else none
  | char :: rest =>
    if digitValue char < base then (digitRun base rest).map (digitValue char :: ·) else none

/-- The number written by digits. -/
def digitsToNat (base : Nat) (digits : List Nat) : Nat :=
  digits.foldl (fun value digit => value * base + digit) 0

/-- Decimal digits without a leading zero. -/
def decimalRun (chars : List Char) : Option (List Nat) :=
  match digitRun 10 chars with
  | some (0 :: _ :: _) => none
  | other => other

/-- The sign in front of a number, and the rest. -/
def takeSign : List Char → Bool × List Char
  | '-' :: rest => (true, rest)
  | '+' :: rest => (false, rest)
  | chars => (false, chars)

/-- An integer of 64 bits. -/
def integer? (chars : List Char) : Option Int := do
  let value : Int ← match chars with
    | '0' :: 'x' :: rest => (digitRun 16 rest).map fun digits => (digitsToNat 16 digits : Int)
    | '0' :: 'o' :: rest => (digitRun 8 rest).map fun digits => (digitsToNat 8 digits : Int)
    | '0' :: 'b' :: rest => (digitRun 2 rest).map fun digits => (digitsToNat 2 digits : Int)
    | chars =>
      let (negative, rest) := takeSign chars
      (decimalRun rest).map fun digits =>
        if negative then -(digitsToNat 10 digits : Int) else (digitsToNat 10 digits : Int)
  if -0x8000000000000000 ≤ value ∧ value ≤ 0x7fffffffffffffff then some value else none

/-- A whole part and an optional exponent part behind the first letter e. -/
def splitExponent (chars : List Char) : List Char × Option (List Char) :=
  match chars.dropWhile (fun char => !(char = 'e' || char = 'E')) with
  | [] => (chars, none)
  | _ :: exponent => (chars.takeWhile (fun char => !(char = 'e' || char = 'E')), some exponent)

/-- A whole part and an optional fraction behind the first point. -/
def splitFraction (chars : List Char) : List Char × Option (List Char) :=
  match chars.dropWhile (· ≠ '.') with
  | [] => (chars, none)
  | _ :: fraction => (chars.takeWhile (· ≠ '.'), some fraction)

/-- A power of ten after the letter e. -/
def exponent? (chars : List Char) : Option Int :=
  let (negative, rest) := takeSign chars
  (digitRun 10 rest).map fun digits =>
    if negative then -(digitsToNat 10 digits : Int) else (digitsToNat 10 digits : Int)

/-- A number with a fraction, an exponent or both, or one of the special ones. A
number that rounds to the positive infinity has no value. -/
def float? (chars : List Char) : Option Binary64 :=
  let (negative, rest) := takeSign chars
  if rest = ['i', 'n', 'f'] then some (.infinite negative)
  else if rest = ['n', 'a', 'n'] then some .nan
  else do
    let (mantissa, power) := splitExponent rest
    let (whole, fraction) := splitFraction mantissa
    if power.isNone && fraction.isNone then none
    else
      let whole ← decimalRun whole
      let fraction ← match fraction with
        | none => some []
        | some digits => digitRun 10 digits
      let power ← match power with
        | none => some 0
        | some digits => exponent? digits
      let value := Binary64.ofDecimal negative (digitsToNat 10 (whole ++ fraction))
        (power - fraction.length)
      if value = .infinite false then none else some value

/-- A number of exactly as many digits as there are characters. -/
def fixedNumber (chars : List Char) : Option Nat :=
  if chars.all Char.isDigit then
    some (digitsToNat 10 (chars.map digitValue))
  else none

/-- The length of a month. -/
def daysIn (year month : Nat) : Nat :=
  if month = 2 then
    if year % 4 = 0 && (year % 100 != 0 || year % 400 = 0) then 29 else 28
  else if month = 4 || month = 6 || month = 9 || month = 11 then 30
  else 31

/-- A day of the calendar. -/
def isDate : List Char → Bool
  | [y1, y2, y3, y4, '-', m1, m2, '-', d1, d2] =>
    match fixedNumber [y1, y2, y3, y4], fixedNumber [m1, m2], fixedNumber [d1, d2] with
    | some year, some month, some day =>
      decide (1 ≤ month) && decide (month ≤ 12) && decide (1 ≤ day) &&
        decide (day ≤ daysIn year month)
    | _, _, _ => false
  | _ => false

/-- Two digits up to a limit. -/
def isTwoDigits (limit : Nat) (first second : Char) : Bool :=
  match fixedNumber [first, second] with
  | some value => decide (value ≤ limit)
  | none => false

/-- A time of day with seconds, and what follows it. -/
def takeTime : List Char → Option (List Char)
  | h1 :: h2 :: ':' :: m1 :: m2 :: ':' :: s1 :: s2 :: rest =>
    if isTwoDigits 23 h1 h2 && isTwoDigits 59 m1 m2 && isTwoDigits 60 s1 s2 then
      match rest with
      | '.' :: digit :: more => if digit.isDigit then some (more.dropWhile Char.isDigit) else none
      | rest => some rest
    else none
  | _ => none

/-- A distance from universal time. -/
def isOffset : List Char → Bool
  | ['Z'] | ['z'] => true
  | [sign, h1, h2, ':', m1, m2] =>
    (sign = '+' || sign = '-') && isTwoDigits 23 h1 h2 && isTwoDigits 59 m1 m2
  | _ => false

/-- A time of day, with an offset where one is allowed. -/
def isTime (offsetAllowed : Bool) (chars : List Char) : Bool :=
  match takeTime chars with
  | none => false
  | some [] => true
  | some rest => offsetAllowed && isOffset rest

/-- A date, a time, or a date and a time with a letter between them. -/
def isMoment (chars : List Char) : Bool :=
  isDate chars || isTime false chars ||
    (isDate (chars.take 10) &&
      match chars.drop 10 with
      | separator :: time => (separator = 'T' || separator = 't') && isTime true time
      | [] => false)

/-- What an unquoted scalar denotes. -/
def scalar? (chars : List Char) : Option Value :=
  if chars = ['t', 'r', 'u', 'e'] then some (.boolean true)
  else if chars = ['f', 'a', 'l', 's', 'e'] then some (.boolean false)
  else if isMoment chars then some .moment
  else
    match integer? chars with
    | some value => some (.integer value)
    | none => (float? chars).map .float

end PulseProgram.Toml

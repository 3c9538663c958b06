import PulseProgram.Proofs.Binary64.Order
import PulseProgram.Proofs.Text.Numerals

/-!
# Decimals with a fixed number of places

The fixed text of a number is that of the nearest whole number of units in its last place. A
number without the sign bit is written as a decimal that reads back as these units; with it there
is a sign before the digits, also before those of zero, and no unsigned decimal is left. The
units are at most an odd bound exactly if the number lies less than half a unit above the bound,
since a number in the middle would go on to the even unit.
-/

namespace PulseProgram

namespace Text

/-- The value of a decimal without a sign, digits before and behind a point. -/
def decimal? (text : List Char) : Option ℚ :=
  match text.takeWhile (· != '.'), text.dropWhile (· != '.') with
  | [], _ | _, [] | _, [_] => none
  | whole, _ :: fraction =>
    (number? 10 (whole ++ fraction)).map fun units => units / 10 ^ fraction.length

/-- A point cuts a decimal at its whole part. There are digits on either side of it, and together
they are read as one number of units in the last place. -/
theorem decimal?_point {whole fraction : List Char} {units : Nat} (someWhole : whole ≠ [])
    (someFraction : fraction ≠ []) (read : number? 10 (whole ++ fraction) = some units) :
    decimal? (whole ++ '.' :: fraction) = some ((units : ℚ) / 10 ^ fraction.length) := by
  have digits : ∀ char ∈ whole, (char != '.') = true := by
    intro char member
    have digit := (number?_eq_some_iff.mp read).2.1 char (List.mem_append_left _ member)
    have point : ¬Toml.digitValue '.' < 10 := by decide
    exact bne_iff_ne.mpr fun same => point (same ▸ digit)
  rw [decimal?, List.takeWhile_append_of_pos digits, List.dropWhile_append_of_pos digits]
  obtain ⟨first, whole, rfl⟩ := List.exists_cons_of_ne_nil someWhole
  obtain ⟨next, fraction, rfl⟩ := List.exists_cons_of_ne_nil someFraction
  simp_all

/-- A minus is no digit, so it is not read as a part of a decimal. -/
theorem decimal?_minus (rest : List Char) : decimal? ('-' :: rest) = none := by
  have sign (whole : List Char) : number? 10 ('-' :: whole) = none :=
    number?_eq_none List.mem_cons_self (by decide)
  rw [decimal?, List.takeWhile_cons_of_pos (by decide), List.dropWhile_cons_of_pos (by decide)]
  split
  · rfl
  · rfl
  · rfl
  · simp_all

end Text

namespace Binary64

open Text

/-- The whole number of units in the last of so many decimal places that is nearest to
`significand * 2 ^ exponent`. -/
def fixedUnits (places significand : Nat) (exponent : Int) : Nat :=
  nearestEven (significand * Nat.pow 10 places * Nat.pow 2 exponent.toNat)
    (Nat.pow 2 (-exponent).toNat)

variable {places significand : Nat} {exponent : Int} {canonical : IsCanonical significand exponent}

/-- A fixed text is the digits of the units with a point among them, and a minus before them if the
sign bit is set. The digits are padded so that one stands before the point at least. -/
theorem fixedText_toList (negative : Bool) (visible : 0 < places) :
    ((finite negative significand exponent canonical).fixedText places).toList =
      (if negative then ['-'] else []) ++
        let digits := padded (places + 1) (Nat.toDigits 10 (fixedUnits places significand exponent))
        digits.take (digits.length - places) ++ '.' :: digits.drop (digits.length - places) := by
  have some_places : ¬places = 0 := Nat.ne_of_gt visible
  cases negative with
  | false =>
    rw [fixedText, if_neg some_places, signed, if_neg Bool.false_ne_true, String.toList_ofList]
    rfl
  | true =>
    rw [fixedText, if_neg some_places, signed, if_pos rfl, String.toList_append]
    exact congrArg ('-' :: ·) String.toList_ofList

/-- A number without the sign bit reads back as its units. So the text denotes the nearest decimal
with that many places, and not just some decimal nearby. -/
theorem decimal?_fixedText (visible : 0 < places) :
    decimal? ((finite false significand exponent canonical).fixedText places).toList =
      some ((fixedUnits places significand exponent : ℚ) / 10 ^ places) := by
  rw [fixedText_toList false visible]
  set digits := padded (places + 1) (Nat.toDigits 10 (fixedUnits places significand exponent))
    with written
  have read : number? 10 digits = some (fixedUnits places significand exponent) :=
    number?_padded (by decide) (by decide) _ _
  have long : places < digits.length := by
    simp only [written, padded, List.length_append, List.length_replicate]
    omega
  have behind : (digits.drop (digits.length - places)).length = places := by
    rw [List.length_drop]
    omega
  have before : digits.take (digits.length - places) ≠ [] := by
    rw [← List.length_pos_iff, List.length_take]
    omega
  have after : digits.drop (digits.length - places) ≠ [] := by
    rwa [← List.length_pos_iff, behind]
  have whole := decimal?_point before after (by rwa [List.take_append_drop])
  rwa [behind] at whole

/-- A number with the sign bit is no unsigned decimal, however small. -/
theorem decimal?_fixedText_negative (visible : 0 < places) :
    decimal? ((finite true significand exponent canonical).fixedText places).toList = none := by
  rw [fixedText_toList true visible]
  exact decimal?_minus _

/-- Rounding to the nearest natural number stays within an odd bound exactly for what lies less than
a half above it: from the middle the tie goes up, away from the odd bound. For an even bound the
middle would stay within. -/
theorem nearestEven_le_iff {numerator denominator bound : Nat} (positive : 0 < denominator)
    (odd : bound % 2 = 1) :
    nearestEven numerator denominator ≤ bound ↔
      2 * numerator < (2 * bound + 1) * denominator := by
  have split := Nat.div_add_mod numerator denominator
  have rest := Nat.mod_lt numerator positive
  have middle : (2 * bound + 1) * denominator = 2 * (denominator * bound) + denominator := by ring
  simp only [nearestEven]
  generalize numerator / denominator = quotient at split ⊢
  generalize numerator % denominator = remainder at split rest ⊢
  rcases Nat.lt_trichotomy quotient bound with below | rfl | above
  · have room : denominator * (quotient + 1) ≤ denominator * bound := Nat.mul_le_mul_left _ below
    rw [Nat.mul_add_one] at room
    have inside : 2 * numerator < (2 * bound + 1) * denominator := by omega
    simp only [inside, iff_true]
    split_ifs <;> omega
  · split_ifs <;> omega
  · have excess : denominator * (bound + 1) ≤ denominator * quotient :=
      Nat.mul_le_mul_left _ above
    rw [Nat.mul_add_one] at excess
    have outside : ¬2 * numerator < (2 * bound + 1) * denominator := by omega
    simp only [outside, iff_false]
    split_ifs <;> omega

/-- The units are within an odd bound exactly if the number is less than half a unit above. The
units are computed in natural numbers, so both denominators are cleared before the values are
compared. -/
theorem fixedUnits_le_iff {bound : Nat} (odd : bound % 2 = 1) :
    fixedUnits places significand exponent ≤ bound ↔
      (finite false significand exponent canonical).toRat * 10 ^ places < bound + 1 / 2 := by
  have positive : 0 < Nat.pow 2 (-exponent).toNat := Nat.two_pow_pos _
  have cleared : (0 : ℚ) < (Nat.pow 2 (-exponent).toNat : ℕ) := by exact_mod_cast positive
  have value : (finite false significand exponent canonical).toRat * 10 ^ places =
      (significand * Nat.pow 10 places * Nat.pow 2 exponent.toNat : ℕ) /
        (Nat.pow 2 (-exponent).toNat : ℕ) := by
    rw [toRat, powerOfTwo, Rat.mkRat_eq_div]
    push_cast [Nat.pow_eq]
    ring
  rw [fixedUnits, nearestEven_le_iff positive odd, value, div_lt_iff₀ cleared,
    ← Nat.cast_lt (α := ℚ)]
  push_cast [Nat.pow_eq]
  constructor
  · intro below
    linarith
  · intro below
    linarith

end Binary64

end PulseProgram

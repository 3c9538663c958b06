import Mathlib.Algebra.Group.Nat.Defs
import PulseProgram.Binary64.Decimal
import PulseProgram.Toml.Scalar

/-!
# Numerals in fields

A numeral is written in a base of at most sixteen and filled up with zeros on the left. Reading
takes all characters of a field as digits, so that anything else in the field, a sign or a space
as well, makes it unreadable. A numeral reads back as its number however many zeros it has, and
it is as wide as its field exactly if the number is below that power of the base.
-/

namespace PulseProgram

namespace Toml

/-- A digit has the value it was written for, in every base up to sixteen. -/
theorem digitValue_digitChar {digit : Nat} (small : digit < 16) :
    digitValue digit.digitChar = digit := by
  have each : ∀ digit < 16, digitValue (Nat.digitChar digit) = digit := by decide
  exact each digit small

/-- One more digit counts once, those before it as often as the base says. -/
theorem digitsToNat_concat (base : Nat) (digits : List Nat) (digit : Nat) :
    digitsToNat base (digits ++ [digit]) = digitsToNat base digits * base + digit := by
  simp [digitsToNat]

/-- Leading zeros do not count, however many there are. -/
theorem digitsToNat_zeros (base count : Nat) (digits : List Nat) :
    digitsToNat base (List.replicate count 0 ++ digits) = digitsToNat base digits := by
  have zeros : (List.replicate count 0).foldl (fun value digit => value * base + digit) 0 = 0 := by
    induction count with
    | zero => rfl
    | succ count inductionHypothesis => simpa [List.replicate_succ] using inductionHypothesis
  rw [digitsToNat, List.foldl_append, zeros, digitsToNat]

end Toml

namespace Text

open Toml Binary64

/-- The number that all characters of a field are the digits of. An empty field has none. -/
def number? (base : Nat) (field : List Char) : Option Nat :=
  if !field.isEmpty && field.all fun char => digitValue char < base then
    some (digitsToNat base (field.map digitValue))
  else none

/-- What is read is not empty and has digits only, and it is their number. So a sign or a blank
anywhere in the field leaves no number. -/
theorem number?_eq_some_iff {base value : Nat} {field : List Char} :
    number? base field = some value ↔ field ≠ [] ∧ (∀ char ∈ field, digitValue char < base) ∧
      digitsToNat base (field.map digitValue) = value := by
  simp [number?, and_assoc]

variable {base : Nat}

/-- The values of a numeral's characters: each is a digit, and together they are the number. Both
facts go into one induction, which takes off the last digit and divides by the base. -/
theorem digitValue_toDigits (above : 1 < base) (small : base ≤ 16) (value : Nat) :
    (∀ char ∈ Nat.toDigits base value, digitValue char < base) ∧
      digitsToNat base ((Nat.toDigits base value).map digitValue) = value := by
  induction value using Nat.strongRecOn with
  | ind value inductionHypothesis =>
    by_cases single : value < base
    · have reads := digitValue_digitChar (Nat.lt_of_lt_of_le single small)
      rw [Nat.toDigits_of_lt_base single]
      simp [reads, single, digitsToNat]
    · have large : base ≤ value := Nat.le_of_not_lt single
      have shorter : value / base < value :=
        Nat.div_lt_self (Nat.lt_of_lt_of_le (by omega) large) above
      have remainder : value % base < base := Nat.mod_lt value (by omega)
      have reads := digitValue_digitChar (Nat.lt_of_lt_of_le remainder small)
      obtain ⟨digits, same⟩ := inductionHypothesis (value / base) shorter
      rw [Nat.toDigits_of_base_le above large]
      constructor
      · intro char member
        rcases List.mem_append.mp member with earlier | last
        · exact digits char earlier
        · rw [List.mem_singleton.mp last, reads]
          exact remainder
      · rw [List.map_append, List.map_singleton, digitsToNat_concat, same, reads]
        exact Nat.div_add_mod' value base

/-- A numeral reads back as its number, whatever zeros are before it. The field may also be narrower
than the numeral, which is then not filled up. -/
theorem number?_padded (above : 1 < base) (small : base ≤ 16) (width value : Nat) :
    number? base (padded width (Nat.toDigits base value)) = some value := by
  obtain ⟨digits, same⟩ := digitValue_toDigits above small value
  have zero : digitValue '0' = 0 := rfl
  have filled : padded width (Nat.toDigits base value) ≠ [] := by
    simp [padded, Nat.toDigits_ne_nil]
  have readable : ∀ char ∈ padded width (Nat.toDigits base value), digitValue char < base := by
    intro char member
    rcases List.mem_append.mp member with filling | digit
    · rw [(List.mem_replicate.mp filling).2, zero]
      exact Nat.lt_of_succ_lt above
    · exact digits char digit
  refine number?_eq_some_iff.mpr ⟨filled, readable, ?_⟩
  rw [padded, List.map_append, List.map_replicate, zero, digitsToNat_zeros, same]

/-- A numeral without zeros before it reads back as its number. -/
theorem number?_toDigits (above : 1 < base) (small : base ≤ 16) (value : Nat) :
    number? base (Nat.toDigits base value) = some value := by
  simpa [padded] using number?_padded above small 0 value

/-- A decimal digit alone is a number. -/
theorem number?_digitChar {digit : Nat} (small : digit < 10) :
    number? 10 [digit.digitChar] = some digit := by
  rw [← Nat.toDigits_of_lt_base small]
  exact number?_toDigits (by decide) (by decide) digit

/-- The width of a numeral that fits its field: it is filled up to the whole field and not beyond
it. -/
theorem length_padded (above : 1 < base) {width value : Nat} (wide : 0 < width)
    (fits : value < base ^ width) : (padded width (Nat.toDigits base value)).length = width := by
  have short := (Nat.length_toDigits_le_iff above wide).mpr fits
  simp [padded, short]

/-- A field with a character that is no digit has no number. -/
theorem number?_eq_none {field : List Char} {char : Char} (member : char ∈ field)
    (other : base ≤ digitValue char) : number? base field = none := by
  rw [Option.eq_none_iff_forall_ne_some]
  intro value read
  obtain ⟨-, digits, -⟩ := number?_eq_some_iff.mp read
  exact absurd (digits char member) (Nat.not_lt.mpr other)

end Text

end PulseProgram

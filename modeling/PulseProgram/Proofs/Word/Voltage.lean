import PulseProgram.Proofs.Binary64.Nearest
import PulseProgram.Proofs.Word.Fields

/-!
# Voltages and their codes

A voltage becomes a code in three rounded steps and a cut: it is moved up by ten, multiplied by
the highest code, divided by the width of the range, and its fraction is dropped. Each step keeps
the order and is exact at both ends of the range, so no code needs more than its field. The
roundings together stay far below the step from one code to the next, and so do those of the
way back. What comes back is therefore the voltage or less than a step below it, up to a
deviation of a billionth of a volt.
-/

namespace PulseProgram

namespace Word

open Binary64

/-! ## From a voltage to its code -/

/-- A number in the range of the voltages. -/
structure IsVoltage (value : Binary64) : Prop where
  finite : value.isFinite = true
  low : -10 ≤ value.toRat
  high : value.toRat ≤ 10

/-- The lowest voltage is exact. -/
theorem analogMin_toRat : analogMin.isFinite = true ∧ analogMin.toRat = -10 := by
  decide +kernel

/-- The highest voltage is exact. -/
theorem analogMax_toRat : analogMax.isFinite = true ∧ analogMax.toRat = 10 := by
  decide +kernel

/-- The highest code and the width of the range are exact. -/
theorem analogScale_toRat :
    (analogFullScale.isFinite = true ∧ analogFullScale.toRat = 65535) ∧
      (analogMax - analogMin).isFinite = true ∧ (analogMax - analogMin).toRat = 20 := by
  decide +kernel

/-- The check of values passes exactly for the numbers in the range. The ends of the range are exact
and belong to it. -/
theorem check_iff (value : Binary64) :
    (!value.isFinite || decide (value < analogMin) || decide (analogMax < value)) = false ↔
      IsVoltage value := by
  obtain ⟨low_finite, low⟩ := analogMin_toRat
  obtain ⟨high_finite, high⟩ := analogMax_toRat
  simp only [Bool.or_eq_false_iff, Bool.not_eq_false', decide_eq_false_iff_not]
  have compared (finite : value.isFinite = true) :
      (¬value < analogMin ∧ ¬analogMax < value) ↔ -10 ≤ value.toRat ∧ value.toRat ≤ 10 := by
    rw [lt_iff (ne_nan_of_isFinite finite) (ne_nan_of_isFinite low_finite),
      lt_iff (ne_nan_of_isFinite high_finite) (ne_nan_of_isFinite finite),
      position_of_isFinite finite, position_of_isFinite low_finite,
      position_of_isFinite high_finite, low, high, not_lt, not_lt]
  constructor
  · rintro ⟨⟨finite, above⟩, below⟩
    obtain ⟨low, high⟩ := (compared finite).mp ⟨above, below⟩
    exact ⟨finite, low, high⟩
  · rintro ⟨finite, low, high⟩
    obtain ⟨above, below⟩ := (compared finite).mpr ⟨low, high⟩
    exact ⟨⟨finite, above⟩, below⟩

/-- The code of a voltage before its fraction is dropped. Each of the three steps is rounded. -/
def scaled (voltage : ℚ) : ℚ := rounded (rounded (rounded (voltage + 10) * 65535) / 20)

/-- Scaling keeps the order, since each of its steps and each rounding does. -/
theorem scaled_mono {low high : ℚ} (ordered : low ≤ high) : scaled low ≤ scaled high := by
  unfold scaled
  have moved : rounded (low + 10) ≤ rounded (high + 10) := rounded_mono (by linarith)
  have stretched : rounded (rounded (low + 10) * 65535) ≤ rounded (rounded (high + 10) * 65535) :=
    rounded_mono (by linarith)
  exact rounded_mono (by linarith)

/-- Scaling is exact at the ends of the range, so the lowest and the highest code are reached. -/
theorem scaled_ends : scaled (-10) = 0 ∧ scaled 10 = 65535 := by
  have whole (count : ℤ) (small : count.natAbs ≤ 2 ^ 53) : rounded (count : ℚ) = count :=
    rounded_intCast small
  have zero := whole 0 (by norm_num)
  have width := whole 20 (by norm_num)
  have product := whole 1310700 (by norm_num)
  have full := whole 65535 (by norm_num)
  push_cast at zero width product full
  constructor
  · rw [scaled, neg_add_cancel, zero, zero_mul, zero, zero_div, zero]
  · rw [scaled, show (10 + 10 : ℚ) = 20 by norm_num, width,
      show (20 * 65535 : ℚ) = 1310700 by norm_num, product,
      show (1310700 / 20 : ℚ) = 65535 by norm_num, full]

section Voltage

variable {value : Binary64}

/-- The scaled value of a voltage is between the lowest and the highest code, since scaling keeps
the order and is exact at both ends. So no rounding leads out of the range. -/
theorem IsVoltage.scaled_bounds (voltage : IsVoltage value) :
    0 ≤ scaled value.toRat ∧ scaled value.toRat ≤ 65535 := by
  obtain ⟨lowest, highest⟩ := scaled_ends
  have low := scaled_mono voltage.low
  have high := scaled_mono voltage.high
  rw [lowest] at low
  rw [highest] at high
  exact ⟨low, high⟩

/-- The three steps of scaling stay in the range, and each of them is rounded.

Proof: each result is near enough to zero, because the exact one and the error before it are, so no
step overflows. -/
theorem IsVoltage.scaled_toRat (voltage : IsVoltage value) :
    ((value - analogMin) * analogFullScale / (analogMax - analogMin)).isFinite = true ∧
      ((value - analogMin) * analogFullScale / (analogMax - analogMin)).toRat =
        scaled value.toRat := by
  obtain ⟨low_finite, low⟩ := analogMin_toRat
  obtain ⟨⟨full_finite, full⟩, width_finite, width⟩ := analogScale_toRat
  have moved_small : |value.toRat + 10| ≤ 20 :=
    abs_le.mpr ⟨by linarith [voltage.low], by linarith [voltage.high]⟩
  have moved : RoundedTo (value - analogMin) (value.toRat + 10) := by
    have result := sub_roundedTo voltage.finite low_finite
    rw [low, sub_neg_eq_add] at result
    exact result (moved_small.trans (by norm_num))
  have moved_error := abs_le.mp (rounded_near_of_abs_le moved_small)
  have moved_bounds := abs_le.mp moved_small
  have product : RoundedTo ((value - analogMin) * analogFullScale)
      (rounded (value.toRat + 10) * 65535) := by
    have result := mul_roundedTo moved.finite full_finite
    rw [moved.toRat_eq, full] at result
    exact result (abs_le.mpr ⟨by linarith, by linarith⟩)
  have product_small : |rounded (value.toRat + 10) * 65535| ≤ 1310701 :=
    abs_le.mpr ⟨by linarith, by linarith⟩
  have product_error := abs_le.mp (rounded_near_of_abs_le product_small)
  have product_bounds := abs_le.mp product_small
  have quotient := div_roundedTo product.finite width_finite (by rw [width]; norm_num)
  rw [product.toRat_eq, width] at quotient
  have in_range := quotient (abs_le.mpr ⟨by linarith, by linarith⟩)
  exact ⟨in_range.finite, in_range.toRat_eq⟩

/-- The code of a voltage is the whole part of its scaled value. It fits 16 bits, so the cut to an
unsigned number does nothing. -/
theorem IsVoltage.analogCode_eq (voltage : IsVoltage value) :
    analogCode value = ⌊scaled value.toRat⌋.toNat := by
  obtain ⟨finite, result⟩ := voltage.scaled_toRat
  obtain ⟨low, high⟩ := voltage.scaled_bounds
  rw [← position_of_isFinite finite] at result
  have whole : ⌊scaled value.toRat⌋ ≤ 65535 := by
    exact_mod_cast (Int.floor_le _).trans high
  rw [analogCode, toUnsigned_of_nonneg (by norm_num) (by rwa [result]), result]
  omega

/-- No code is above the highest one. -/
theorem IsVoltage.analogCode_le (voltage : IsVoltage value) : analogCode value ≤ 65535 := by
  have whole : ⌊scaled value.toRat⌋ ≤ 65535 := by
    exact_mod_cast (Int.floor_le _).trans voltage.scaled_bounds.2
  rw [voltage.analogCode_eq]
  omega

/-- A higher voltage has no lower code. -/
theorem IsVoltage.analogCode_mono {other : Binary64} (voltage : IsVoltage value)
    (otherVoltage : IsVoltage other) (ordered : value.toRat ≤ other.toRat) :
    analogCode value ≤ analogCode other := by
  rw [voltage.analogCode_eq, otherVoltage.analogCode_eq]
  exact Int.toNat_le_toNat (Int.floor_le_floor (scaled_mono ordered))

/-- The roundings of the way to a code are small parts of the step between codes. Each one is
bounded by the size of its result, and the later steps shrink the errors of the earlier ones. -/
theorem IsVoltage.scaled_near (voltage : IsVoltage value) :
    |scaled value.toRat - (value.toRat + 10) * 65535 / 20| ≤ 1 / 10 ^ 10 := by
  have moved_small : |value.toRat + 10| ≤ 20 :=
    abs_le.mpr ⟨by linarith [voltage.low], by linarith [voltage.high]⟩
  have moved := abs_le.mp (rounded_near_of_abs_le moved_small)
  obtain ⟨above, below⟩ := abs_le.mp moved_small
  unfold scaled
  generalize rounded (value.toRat + 10) = lifted at *
  have product_small : |lifted * 65535| ≤ 1310701 := by
    rw [abs_le]
    constructor <;> linarith
  have product := abs_le.mp (rounded_near_of_abs_le product_small)
  obtain ⟨above, below⟩ := abs_le.mp product_small
  generalize rounded (lifted * 65535) = stretched at *
  have quotient_small : |stretched / 20| ≤ 65536 := by
    rw [abs_le]
    constructor <;> linarith
  have quotient := abs_le.mp (rounded_near_of_abs_le quotient_small)
  rw [abs_le]
  constructor <;> linarith

end Voltage

/-! ## From a code to its voltage -/

/-- The voltage of a code. -/
def voltageOf (code : Nat) : Binary64 := Binary64.ofNat code * analogStep + analogMin

/-- The step between codes is stored with a small error. -/
theorem analogStep_near : analogStep.isFinite = true ∧
    20 / 65535 - 1 / 10 ^ 18 ≤ analogStep.toRat ∧
      analogStep.toRat ≤ 20 / 65535 + 1 / 10 ^ 18 := by
  decide +kernel

/-- The roundings of the way back are small too. The step between codes is stored with an error of
its own, which the code multiplies. -/
theorem voltageOf_near {code : Nat} (short : code ≤ 65535) :
    (voltageOf code).isFinite = true ∧
      |(voltageOf code).toRat - (code * 20 / 65535 - 10)| ≤ 1 / 10 ^ 10 := by
  obtain ⟨step_finite, step_low, step_high⟩ := analogStep_near
  obtain ⟨low_finite, low⟩ := analogMin_toRat
  obtain ⟨code_finite, code_exact⟩ := @ofNat_toRat code (short.trans (by norm_num))
  have code_le : (code : ℚ) ≤ 65535 := by exact_mod_cast short
  have code_nonneg : (0 : ℚ) ≤ code := by positivity
  have product_low : (code : ℚ) * (20 / 65535 - 1 / 10 ^ 18) ≤ code * analogStep.toRat := by
    gcongr
  have product_high : (code : ℚ) * analogStep.toRat ≤ code * (20 / 65535 + 1 / 10 ^ 18) := by
    gcongr
  have product_small : |(code : ℚ) * analogStep.toRat| ≤ 21 :=
    abs_le.mpr ⟨by linarith, by linarith⟩
  have product : RoundedTo (Binary64.ofNat code * analogStep) (code * analogStep.toRat) := by
    have result := mul_roundedTo code_finite step_finite
    rw [code_exact] at result
    exact result (product_small.trans (by norm_num))
  have product_error := abs_le.mp (rounded_near_of_abs_le product_small)
  have product_bounds := abs_le.mp product_small
  have sum_small : |rounded (code * analogStep.toRat) + -10| ≤ 32 :=
    abs_le.mpr ⟨by linarith, by linarith⟩
  have sum : RoundedTo (voltageOf code) (rounded (code * analogStep.toRat) + -10) := by
    have result := add_roundedTo product.finite low_finite
    rw [product.toRat_eq, low] at result
    exact result (sum_small.trans (by norm_num))
  have sum_error := abs_le.mp (rounded_near_of_abs_le sum_small)
  refine ⟨sum.finite, ?_⟩
  rw [sum.toRat_eq, abs_le]
  constructor <;> linarith

/-- A voltage that was cut to a code comes back less than a step lower, up to the roundings. It may
come back a little higher, by the roundings alone. -/
theorem IsVoltage.voltageOf_code {value : Binary64} (voltage : IsVoltage value) :
    -(1 / 10 ^ 9) < value.toRat - (voltageOf (analogCode value)).toRat ∧
      value.toRat - (voltageOf (analogCode value)).toRat < 20 / 65535 + 1 / 10 ^ 9 := by
  obtain ⟨-, back⟩ := voltageOf_near voltage.analogCode_le
  have there := abs_le.mp voltage.scaled_near
  have back := abs_le.mp back
  have nonnegative : 0 ≤ ⌊scaled value.toRat⌋ := Int.floor_nonneg.mpr voltage.scaled_bounds.1
  have whole : ((analogCode value : ℕ) : ℚ) = ⌊scaled value.toRat⌋ := by
    rw [voltage.analogCode_eq]
    exact_mod_cast Int.toNat_of_nonneg nonnegative
  have cut := Int.floor_le (scaled value.toRat)
  have next := Int.lt_floor_add_one (scaled value.toRat)
  rw [← whole] at cut next
  constructor <;> linarith

/-! ## Words -/

/-- The bits of the code make the number that they are: no bit above them is read. -/
theorem and_analogCodeMask_toNat (word : Word) :
    (word &&& analogCodeMask).toNat = (word.setWidth 16).toNat := by
  have mask : analogCodeMask.toNat = 2 ^ 16 - 1 := rfl
  rw [BitVec.toNat_and, mask, Nat.and_two_pow_sub_one_eq_mod, BitVec.toNat_setWidth]

/-- Decoding reads the fields of a word: the channel as it is, and the code as the voltage it stands
for. -/
theorem decodeAnalog_eq (word : Word) :
    decodeAnalog word =
      (analogField word).map fun field => (field.1, voltageOf field.2.toNat) := by
  rw [decodeAnalog, analogField, Option.map_map, and_analogCodeMask_toNat]
  rfl

/-- No flag lies on a field of an analog word, so the fields are read through any flags. -/
theorem analogField_or_flags (word : Word) {flags : Word} (only : flags.payload = 0#32) :
    analogField (word ||| flags) = analogField word := by
  have board : flags &&& analogBoardMask = 0#32 := and_eq_zero_of_payload only (by decide)
  have channel : flags &&& analogChannelMask = 0#32 := and_eq_zero_of_payload only (by decide)
  have code : flags.setWidth 16 = 0#16 := by
    apply BitVec.eq_of_toNat_eq
    rw [← and_analogCodeMask_toNat, and_eq_zero_of_payload only (by decide)]
    rfl
  rw [analogField, BitVec.and_or_distrib_right, BitVec.and_or_distrib_right, BitVec.setWidth_or,
    board, channel, code, BitVec.or_zero, BitVec.or_zero, BitVec.or_zero, analogField]

/-- What the two words for a voltage on an analog channel are, and what is read from them. -/
structure CarriesVoltage (address : Nat) (value : Binary64) (data : Word) : Prop where
  unflagged : data &&& flagMask = 0#32
  /-- The field has room for the whole code. -/
  code : (data &&& analogCodeMask).toNat = analogCode value
  code_le : analogCode value ≤ 65535
  /-- Whatever is laid over it beside a payload, the word gives back its address and one
  voltage. -/
  decodes : ∃ voltage : Binary64,
    (∀ flags : Word, flags.payload = 0#32 →
      decodeAnalog (data ||| flags) = some (address, voltage)) ∧
    voltage.isFinite = true ∧ -(1 / 10 ^ 9) < value.toRat - voltage.toRat ∧
      value.toRat - voltage.toRat < 20 / 65535 + 1 / 10 ^ 9

/-- The payload of a voltage carries it, on every channel there is. -/
theorem IsVoltage.carriesVoltage {value : Binary64} (voltage : IsVoltage value) {address : Nat}
    (valid : address < Channel.analogCount) :
    CarriesVoltage address value
      (analogPayload address (BitVec.ofNat 32 (analogCode value))) := by
  have code_le := voltage.analogCode_le
  have field : ((BitVec.ofNat 32 (analogCode value)).setWidth 16).toNat = analogCode value := by
    rw [BitVec.toNat_setWidth, BitVec.toNat_ofNat]
    omega
  have read := analogField_payload valid (BitVec.ofNat 32 (analogCode value))
  refine ⟨and_flagMask_of_lt (analogPayload_bounds valid _).2, ?_, code_le,
    voltageOf (analogCode value), ?_, (voltageOf_near code_le).1, voltage.voltageOf_code⟩
  · obtain ⟨board, -, same⟩ := Option.map_eq_some_iff.mp read
    rw [and_analogCodeMask_toNat, (Prod.mk.inj same).2, field]
  · intro flags only
    rw [decodeAnalog_eq, analogField_or_flags _ only, read, Option.map_some, field]

/-- A voltage can be put on an analog channel exactly if the channel exists and the voltage is a
number in the range. The two words are the same but for the strobe, and they give back the channel
and, up to the step between codes and a billionth of a volt, the voltage, whatever flags are laid
over them. The codes reach from zero to the largest that the field holds, and higher voltages have
no lower codes.

Nothing is assumed of address and value. All roundings are those of double precision and none is
taken as exact: the bounds on the error contain them. -/
theorem encodeAnalog_decodes (address : Nat) (value : Binary64) :
    ((∃ pair, encodeAnalog address value = .ok pair) ↔ address < 32 ∧ IsVoltage value) ∧
      (∀ pair, encodeAnalog address value = .ok pair →
        ∃ data, pair.words = [data ||| strobe, data] ∧ CarriesVoltage address value data) ∧
      analogCode (-10) = 0 ∧ analogCode 10 = 65535 ∧
      ∀ other, IsVoltage value → IsVoltage other → value.toRat ≤ other.toRat →
        analogCode value ≤ analogCode other := by
  have encoded (valid : address < Channel.analogCount) (voltage : IsVoltage value) :
      encodeAnalog address value =
        .ok (LatchPair.of (analogPayload address (BitVec.ofNat 32 (analogCode value)))) := by
    rw [encodeAnalog, if_neg (Nat.not_le_of_lt valid), (check_iff value).mpr voltage]
    rfl
  have accepted : (∃ pair, encodeAnalog address value = .ok pair) ↔
      address < 32 ∧ IsVoltage value := by
    constructor
    · rintro ⟨pair, made⟩
      unfold encodeAnalog at made
      split at made
      · exact nomatch made
      · next valid =>
        split at made
        · exact nomatch made
        · next passed =>
          exact ⟨Nat.lt_of_not_le valid, (check_iff value).mp (Bool.eq_false_iff.mpr passed)⟩
    · rintro ⟨valid, voltage⟩
      exact ⟨_, encoded valid voltage⟩
  refine ⟨accepted, fun pair made => ?_, by decide +kernel, by decide +kernel, ?_⟩
  · obtain ⟨valid, voltage⟩ := accepted.mp ⟨pair, made⟩
    rw [encoded valid voltage] at made
    obtain rfl := Except.ok.inj made
    exact ⟨_, rfl, voltage.carriesVoltage valid⟩
  · intro other voltage otherVoltage ordered
    exact voltage.analogCode_mono otherVoltage ordered

/-- Five volts on the second channel of the second converter board. -/
theorem encodeAnalog_decodes_sample :
    (∃ pair, encodeAnalog 9 5 = .ok pair) ∧ CarriesVoltage 9 5 0x11bfff#32 := by
  obtain ⟨accepted, carried, -⟩ := encodeAnalog_decodes 9 5
  have voltage : IsVoltage 5 := ⟨by decide +kernel, by decide +kernel, by decide +kernel⟩
  obtain ⟨pair, made⟩ := accepted.mpr ⟨by decide, voltage⟩
  obtain ⟨data, words, carries⟩ := carried pair made
  have plain : (encodeAnalog 9 5).toOption.map LatchPair.plain = some 0x11bfff#32 := by
    decide +kernel
  rw [made] at plain
  have same : data = 0x11bfff#32 := by
    rw [← Option.some.inj plain]
    exact (List.cons.inj (List.cons.inj words).2).1.symm
  exact ⟨⟨pair, made⟩, same ▸ carries⟩

end Word

end PulseProgram

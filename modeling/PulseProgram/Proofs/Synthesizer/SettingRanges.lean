import PulseProgram.Proofs.Binary64.FixedText
import PulseProgram.Proofs.Binary64.Whole
import PulseProgram.Proofs.Synthesizer.EntryText
import PulseProgram.Serial.ScriptedDevice

/-!
# Settings out of range

The frequency, the phase and the amplitude of a channel are set by one line each, and the device
would take a number that is out of range without complaint. A setting is guarded if it is either
refused before anything is sent or sends one line whose number the device can take. Which values
are guarded is said exactly: every amplitude, but no phase that comes to less than zero or more
than a turn, no frequency beyond the 32 bits of a frequency word, and not the negative zero.
-/

namespace PulseProgram

open Binary64 Synthesizer Text

/-- A refusal of what was asked for, not a failure of the dialogue. -/
def SynthError.IsRange : SynthError → Prop
  | .link _ | .unexpectedResponse _ _ => False
  | _ => True

/-- What can be set on a channel. -/
inductive Setting where
  | frequency
  | phase
  | gain

namespace Setting

/-- The command of a setting. -/
def command : Setting → Nat → Binary64 → Except SynthError Command
  | .frequency => Command.frequency
  | .phase => Command.phase
  | .gain => Command.gain

/-- The letter that the line of a setting begins with. -/
def letter : Setting → Char
  | .frequency => 'F'
  | .phase => 'P'
  | .gain => 'V'

/-- Digits of a number up to a bound. -/
def AtMost (bound : Nat) (number : List Char) : Prop :=
  ∃ value, number? 10 number = some value ∧ value ≤ bound

/-- The numbers that the device can take: a decimal number of megahertz, without a sign, whose
tenths of a hertz fit 32 bits, and steps of a phase and of an amplitude. This is said of the
characters that are sent and not of the values they were made from. -/
def InRange : Setting → List Char → Prop
  | .frequency, number =>
    ∃ megahertz, decimal? number = some megahertz ∧ megahertz * 10 ^ 7 ≤ 2 ^ 32 - 1
  | .phase, number => AtMost 16383 number
  | .gain, number => AtMost 1023 number

/-- A line that sets a channel of the device to a number in range. -/
def Admits (setting : Setting) (channel : Nat) (line : String) : Prop :=
  ∃ digit number, line.toList = setting.letter :: digit :: ' ' :: number ∧
    number? 10 [digit] = some channel ∧ channel < 4 ∧ setting.InRange number

variable {σ : Type} [SerialLink σ]

/-- A setting over a link through which nothing went before is either refused for its range and the
link is left alone, or one line is taken, and its number is in range. What the device answers is of
no concern here. -/
def Guarded (setting : Setting) (channel : Nat) (value : Binary64) (link : σ) : Prop :=
  let ended := Synthesizer.request (setting.command channel value) (Tapped.mk link [])
  (∃ cause, ended = (.error cause, ⟨link, []⟩) ∧ cause.IsRange) ∨
    ∃ line, Traffic.lines ended.2.traffic = [SerialLink.lineBytes line] ∧
      setting.Admits channel line

/-- The values that are guarded on a channel of the device, told by the values alone. -/
def Safe : Setting → Binary64 → Prop
  | .frequency, megahertz => megahertz.isFinite = false ∨ megahertz.toRat < 0 ∨
      megahertz.isNegative = false ∧ megahertz.toRat < (2 ^ 32 - 1) / 10 ^ 7
  | .phase, turns =>
      -(1 / 2) < (turns * 16383).position ∧ (turns * 16383).position < 16383 + 1 / 2
  | .gain, _ => True

/-! ## The commands of settings -/

/-- The number that a setting sends. -/
def number : Setting → Binary64 → String
  | .frequency, megahertz => megahertz.fixedText 6
  | .phase, turns => toString (turns * 16383).round.toSigned
  | .gain, volts => toString ((volts / 0.51 * 1024).floor.toUnsigned 16)

/-- Why a setting is refused on a channel of the device. -/
def refusal? : Setting → Binary64 → Option SynthError
  | .frequency, megahertz =>
    if !megahertz.isFinite || decide (megahertz < 0) then some (.frequencyOutOfRange megahertz)
    else none
  | .phase, _ => none
  | .gain, volts =>
    if decide (0 ≤ (volts / 0.51 * 1024).floor) &&
        decide ((volts / 0.51 * 1024).floor ≤ Binary64.ofNat fullAmplitude.toNat) then none
    else some (.amplitudeOutOfRange volts)

/-- The line of a setting that is not refused. -/
def line (setting : Setting) (channel : Nat) (value : Binary64) : List Char :=
  setting.letter :: channel.digitChar :: ' ' :: (setting.number value).toList

/-- A setting is refused for its channel first, whatever its value is. -/
theorem command_of_absent {channel : Nat} (absent : 4 ≤ channel) (setting : Setting)
    (value : Binary64) : setting.command channel value = .error (.invalidChannel channel) := by
  have refused : checkChannel channel = .error (.invalidChannel channel) :=
    if_neg (Nat.not_lt.mpr absent)
  cases setting <;>
    simp [command, Command.frequency, Command.phase, Command.gain, refused, bind, Except.bind]

/-- On a channel of the device a setting is refused for its value, or it is a line. So a setting is
told by three functions of the value: its refusal, its letter and its number. -/
theorem command_eq {channel : Nat} (present : channel < 4) (setting : Setting)
    (value : Binary64) :
    setting.command channel value = match setting.refusal? value with
      | some cause => .error cause
      | none => .ok ⟨String.ofList (setting.line channel value), true⟩ := by
  have checked : checkChannel channel = .ok () := if_pos present
  have digit : Nat.toDigits 10 channel = [channel.digitChar] :=
    Nat.toDigits_of_lt_base (Nat.lt_of_lt_of_le present (by decide))
  have written (letter : Char) (number : String) :
      String.singleton letter ++ toString channel ++ " " ++ number =
        String.ofList (letter :: channel.digitChar :: ' ' :: number.toList) := by
    apply String.toList_inj.mp
    simp [digit]
  cases setting with
  | frequency =>
    rw [command, Command.frequency, checked, refusal?, line, ← written]
    by_cases refused : (!value.isFinite || decide (value < 0)) = true
    · simp only [refused, if_true]
      rfl
    · simp only [refused]
      rfl
  | phase =>
    rw [command, Command.phase, checked, refusal?, line, ← written]
    rfl
  | gain =>
    rw [command, Command.gain, checked, refusal?, line, ← written]
    by_cases fits : (decide (0 ≤ (value / 0.51 * 1024).floor) &&
        decide ((value / 0.51 * 1024).floor ≤ Binary64.ofNat fullAmplitude.toNat)) = true
    · simp only [fits, if_true, bind, Except.bind]
      rfl
    · simp only [fits, bind, Except.bind]
      rfl

/-- Every refusal of a setting is one for its range. No setting fails for another reason before it
is sent. -/
theorem isRange_of_refusal? {setting : Setting} {value : Binary64} {cause : SynthError}
    (refused : setting.refusal? value = some cause) : cause.IsRange := by
  cases setting with
  | frequency =>
    rw [refusal?] at refused
    split at refused
    · obtain rfl := Option.some.inj refused
      trivial
    · contradiction
  | phase => contradiction
  | gain =>
    rw [refusal?] at refused
    split at refused
    · contradiction
    · obtain rfl := Option.some.inj refused
      trivial

/-! ## What is guarded -/

/-- A setting that is refused is guarded, over every link: the link is not touched. -/
theorem guarded_of_refused {setting : Setting} {channel : Nat} {value : Binary64}
    {cause : SynthError} (refused : setting.command channel value = .error cause)
    (range : cause.IsRange) (link : σ) : setting.Guarded channel value link := by
  refine .inl ⟨cause, ?_, range⟩
  rw [refused]
  rfl

/-- A line for a channel of the device is admitted if its number is in range. Its letter and its
channel are right by construction. -/
theorem admits_line_iff {channel : Nat} (present : channel < 4) (setting : Setting)
    (value : Binary64) :
    setting.Admits channel (String.ofList (setting.line channel value)) ↔
      setting.InRange (setting.number value).toList := by
  have single := number?_digitChar (Nat.lt_of_lt_of_le present (show 4 ≤ 10 by decide))
  constructor
  · rintro ⟨digit, sent, columns, -, -, range⟩
    rw [String.toList_ofList, line] at columns
    simp only [List.cons.injEq, true_and] at columns
    rwa [columns.2]
  · intro range
    exact ⟨_, _, String.toList_ofList, single, present, range⟩

/-- A setting that is sent is guarded exactly if its number is in range. The link takes the line, so
it is too late for a refusal, even if the answer is an error. -/
theorem guarded_iff_inRange {setting : Setting} {channel : Nat} {value : Binary64}
    (present : channel < 4) (formed : setting.refusal? value = none) {link : σ}
    (takes : TakesLines link) :
    setting.Guarded channel value link ↔ setting.InRange (setting.number value).toList := by
  have command := command_eq present setting value
  rw [formed] at command
  have requested : Synthesizer.request (setting.command channel value) (Tapped.mk link []) =
      Synthesizer.send ⟨String.ofList (setting.line channel value), true⟩
        (Tapped.mk link []) := by
    rw [command]
    rfl
  have taken := takes.send ⟨String.ofList (setting.line channel value), true⟩
  rw [← admits_line_iff present, Guarded, requested]
  constructor
  · rintro (⟨cause, ended, -⟩ | ⟨sent, lines, admitted⟩)
    · rw [ended] at taken
      contradiction
    · rw [taken] at lines
      obtain rfl := Text.encode_injective (List.append_cancel_right (List.cons.inj lines).1)
      exact admitted
  · intro admitted
    exact .inr ⟨_, taken, admitted⟩

/-! ## Numbers in range -/

/-- A natural number is in range up to the bound, since it reads back from its digits. -/
theorem atMost_toString_nat (bound value : Nat) :
    AtMost bound (toString value).toList ↔ value ≤ bound := by
  have read : number? 10 (toString value).toList = some value := by
    rw [Nat.toString_eq_repr, Nat.repr_eq_ofList_toDigits, String.toList_ofList]
    exact number?_toDigits (by decide) (by decide) value
  rw [AtMost, read]
  simp

/-- An integer is in range from zero up to the bound: a negative one has a sign, which is no
digit. -/
theorem atMost_toString_int (bound : Nat) (value : Int) :
    AtMost bound (toString value).toList ↔ 0 ≤ value ∧ value ≤ bound := by
  cases value with
  | ofNat value =>
    have natural : toString (Int.ofNat value) = toString value := rfl
    rw [natural, atMost_toString_nat]
    simp
  | negSucc value =>
    have written : (toString (Int.negSucc value)).toList =
        '-' :: (toString (value + 1)).toList := String.toList_append
    have unreadable : number? 10 ('-' :: (toString (value + 1)).toList) = none :=
      number?_eq_none List.mem_cons_self (by decide)
    rw [AtMost, written, unreadable]
    simp

/-- A frequency that is not refused is in range if it has no sign bit and fits its word.

Proof: the last unit of the text is ten tenths of a hertz, so 32 bits end within a unit and the
largest number of units in range is odd. The text is within it exactly for the values that lie less
than half a unit above. -/
theorem inRange_frequency_iff {megahertz : Binary64}
    (formed : refusal? .frequency megahertz = none) :
    InRange .frequency (number .frequency megahertz).toList ↔ Safe .frequency megahertz := by
  have passed : ¬(!megahertz.isFinite || decide (megahertz < 0)) = true := by
    intro refused
    simp [refusal?, refused] at formed
  cases megahertz with
  | nan => exact absurd rfl passed
  | infinite negative => exact absurd rfl passed
  | finite negative significand exponent canonical =>
    have nonnegative : ¬(finite negative significand exponent canonical).toRat < 0 := by
      intro below
      have less := (lt_zero_iff rfl).mpr below
      exact passed (by rw [decide_eq_true less, Bool.or_true])
    cases negative with
    | true =>
      rw [InRange, number, decimal?_fixedText_negative (by decide)]
      simp [Safe, isFinite, isNegative, nonnegative]
    | false =>
      have safe : Safe .frequency (finite false significand exponent canonical) ↔
          (finite false significand exponent canonical).toRat < (2 ^ 32 - 1) / 10 ^ 7 := by
        simp [Safe, isFinite, isNegative, nonnegative]
      have units := @fixedUnits_le_iff 6 significand exponent canonical 429496729 (by norm_num)
      have tenths : (fixedUnits 6 significand exponent : ℚ) / 10 ^ 6 * 10 ^ 7 ≤ 2 ^ 32 - 1 ↔
          fixedUnits 6 significand exponent ≤ 429496729 := by
        have exact : (fixedUnits 6 significand exponent : ℚ) / 10 ^ 6 * 10 ^ 7 =
            (10 * fixedUnits 6 significand exponent : ℕ) := by
          push_cast
          ring
        have limit : (2 : ℚ) ^ 32 - 1 = (4294967295 : ℕ) := by norm_num
        rw [exact, limit, Nat.cast_le]
        omega
      rw [InRange, number, decimal?_fixedText (by decide), safe]
      simp only [Option.some.injEq, exists_eq_left']
      rw [tenths, units]
      push_cast
      constructor
      · intro inside
        linarith
      · intro inside
        linarith

/-- A phase is in range if it comes to no less than zero and no more than a turn, once it is rounded
to steps. A half step to either side is therefore allowed. -/
theorem inRange_phase_iff (turns : Binary64) :
    InRange .phase (number .phase turns).toList ↔ Safe .phase turns := by
  have low := nearestAway_nonneg_iff (turns * 16383).position
  have high := nearestAway_le_iff (turns * 16383).position 16383
  rw [InRange, number, atMost_toString_int, toSigned_of_whole (round_position _), Safe, ← low,
    ← Nat.cast_ofNat (R := ℚ) (n := 16383), ← high]
  omega

/-- An amplitude that is not refused is in range. Here the check is made on the number that is
sent. -/
theorem inRange_gain {volts : Binary64} (formed : refusal? .gain volts = none) :
    InRange .gain (number .gain volts).toList := by
  rw [refusal?] at formed
  split at formed
  · next fits =>
    simp only [Bool.and_eq_true, decide_eq_true_eq] at fits
    obtain ⟨nonnegative, small⟩ := fits
    obtain ⟨defined, right⟩ := nonneg_iff.mp nonnegative
    have highest : (ofNat 1023).position = 1023 := by
      exact_mod_cast @ofNat_position 1023 (by norm_num)
    have below : (volts / 0.51 * 1024).floor.position ≤ 1023 := by
      rw [← highest]
      exact (le_iff defined (ofNat_ne_nan 1023)).mp small
    have floored : ⌊(volts / 0.51 * 1024).floor.position⌋ ≤ 1023 := by
      rw [← Int.floor_intCast (R := ℚ) 1023]
      exact Int.floor_mono below
    rw [InRange, number, atMost_toString_nat, toUnsigned_of_nonneg (by norm_num) right]
    omega
  · contradiction

/-- A setting that is not refused sends a number in range exactly if its value is safe. There is one
case for each setting, with its own range. -/
theorem inRange_number_iff {setting : Setting} {value : Binary64}
    (formed : setting.refusal? value = none) :
    setting.InRange (setting.number value).toList ↔ setting.Safe value := by
  cases setting with
  | frequency => exact inRange_frequency_iff formed
  | phase => exact inRange_phase_iff value
  | gain => exact iff_of_true (inRange_gain formed) trivial

/-- A value that is refused is safe, so being safe does not depend on being refused or not. -/
theorem safe_of_refusal? {setting : Setting} {value : Binary64} {cause : SynthError}
    (refused : setting.refusal? value = some cause) : setting.Safe value := by
  cases setting with
  | frequency =>
    rw [refusal?] at refused
    split at refused
    · next outside =>
      cases finite : value.isFinite with
      | false => exact .inl finite
      | true =>
        have below : value < 0 := by simpa [finite] using outside
        exact .inr (.inl ((lt_zero_iff finite).mp below))
    · contradiction
  | phase => contradiction
  | gain => trivial

/-! ## The guard of all settings -/

/-- A setting is guarded exactly if the device lacks its channel or its value is safe. Nothing is
assumed of the value, which may be infinite or undefined, or of the answers; the link only takes
what is written to it.

Proof: a channel that the device lacks is refused first. Otherwise the value is refused, and then it
is safe, or it is sent, and then the number decides. -/
theorem guarded_iff_safe {link : σ} (takes : TakesLines link) (setting : Setting) (channel : Nat)
    (value : Binary64) :
    setting.Guarded channel value link ↔ 4 ≤ channel ∨ setting.Safe value := by
  rcases Nat.lt_or_ge channel 4 with present | absent
  · have reached : ¬4 ≤ channel := Nat.not_le.mpr present
    simp only [reached, false_or]
    cases formed : setting.refusal? value with
    | some cause =>
      have refused : setting.command channel value = .error cause := by
        rw [command_eq present, formed]
      exact iff_of_true (guarded_of_refused refused (isRange_of_refusal? formed) link)
        (safe_of_refusal? formed)
    | none => rw [guarded_iff_inRange present formed takes, inRange_number_iff formed]
  · exact iff_of_true (guarded_of_refused (command_of_absent absent setting value) trivial link)
      (.inl absent)

/-- A device in memory takes everything, so it is one of the links that are spoken of above. -/
theorem scripted_takesLines {ρ : Type} [Responder ρ] (device : ScriptedDevice ρ) :
    TakesLines device :=
  fun _ => ⟨_, _, rfl, rfl⟩

/-- A device in memory that accepts every line. -/
def acceptingDevice : ScriptedDevice (String → Option String) where
  responder _ := some acceptance

/-- A whole turn is the largest phase that the device can take. -/
theorem guarded_iff_safe_sample :
    TakesLines acceptingDevice ∧ ¬4 ≤ 3 ∧ Safe .phase 1 ∧
      Guarded .phase 3 1 acceptingDevice := by
  have takes := scripted_takesLines acceptingDevice
  have safe : Safe .phase 1 := by
    rw [Safe]
    decide +kernel
  exact ⟨takes, by decide, safe, (guarded_iff_safe takes .phase 3 1).mpr (.inr safe)⟩

/-- A device is sent a frequency that its words cannot hold, a negative zero and a phase of two
turns. -/
theorem not_guarded :
    ¬Guarded .frequency 0 1000 acceptingDevice ∧
      ¬Guarded .frequency 0 (zero true) acceptingDevice ∧
      ¬Guarded .phase 0 2 acceptingDevice := by
  have takes := scripted_takesLines acceptingDevice
  refine ⟨?_, ?_, ?_⟩
  · have sent : number .frequency 1000 = "1000.000000" := by decide +kernel
    have read : decimal? "1000.000000".toList = some 1000 := by decide +kernel
    rw [guarded_iff_inRange (by decide) (by decide +kernel) takes, sent]
    rintro ⟨megahertz, same, fits⟩
    obtain rfl : 1000 = megahertz := Option.some.inj (read.symm.trans same)
    norm_num at fits
  · have sent : number .frequency (zero true) = "-0.000000" := by decide +kernel
    have unreadable : decimal? "-0.000000".toList = none := by decide +kernel
    rw [guarded_iff_inRange (by decide) (by decide +kernel) takes, sent]
    rintro ⟨megahertz, read, -⟩
    exact Option.some_ne_none megahertz (read.symm.trans unreadable)
  · have sent : number .phase 2 = "32766" := by decide +kernel
    have read : number? 10 "32766".toList = some 32766 := by decide +kernel
    rw [guarded_iff_inRange (by decide) rfl takes, sent]
    rintro ⟨steps, same, small⟩
    obtain rfl : 32766 = steps := Option.some.inj (read.symm.trans same)
    omega

end Setting

end PulseProgram

import PulseProgram.CompileError

/-!
# Outcomes of checked work

A chain of checks succeeds exactly if each of its parts does. The faults are of two kinds
that have to be told apart: a rejection, which is an answer to the caller, and an access
without a place, which no caller should ever see.
-/

namespace PulseProgram

variable {ε α β : Type}

/-- A chain succeeds exactly if its parts do. This takes checked work apart step by step, so that no
proof has to open the monad. -/
theorem bind_ok_iff {first : Except ε α} {next : α → Except ε β} {result : β} :
    (first >>= next) = .ok result ↔ ∃ value, first = .ok value ∧ next value = .ok result := by
  cases first with
  | error cause =>
    constructor
    · intro impossible
      cases impossible
    · rintro ⟨value, impossible, _⟩
      cases impossible
  | ok value =>
    constructor
    · intro after
      exact ⟨value, rfl, after⟩
    · rintro ⟨other, same, after⟩
      cases same
      exact after

/-- The value of an outcome is that of its success. -/
theorem toOption_eq_some_iff {outcome : Except ε α} {value : α} :
    outcome.toOption = some value ↔ outcome = .ok value := by
  cases outcome <;> simp [Except.toOption]

/-- A check made as a rejection succeeds exactly if it does. Only the form of a failure changes. -/
theorem rejecting_ok_iff {outcome : Except CompileError α} {value : α} :
    rejecting outcome = .ok value ↔ outcome = .ok value := by
  cases outcome <;> simp [rejecting]

/-- A creation succeeds exactly if there is room to store its result. -/
theorem storable_ok_iff {made : Option α} {value : α} :
    storable made = .ok value ↔ made = some value := by
  cases made <;> simp [storable]

/-- If an outcome is a fault, the fault is a rejection. An access without a place is no rejection,
so this says that there was none. -/
def StaysInBounds (outcome : Except Fault α) : Prop :=
  ∀ fault, outcome = .error fault → ∃ cause, fault = .rejected cause

/-- A success is no fault. -/
theorem staysInBounds_ok (value : α) : StaysInBounds (.ok value) :=
  fun _ impossible => nomatch impossible

/-- A rejection stays in bounds. -/
theorem staysInBounds_rejected (cause : CompileError) :
    StaysInBounds (.error (.rejected cause) : Except Fault α) := by
  intro fault same
  exact ⟨cause, (Except.error.inj same).symm⟩

/-- A check made as a rejection stays in bounds. -/
theorem staysInBounds_rejecting (outcome : Except CompileError α) :
    StaysInBounds (rejecting outcome) := by
  cases outcome with
  | ok value => exact staysInBounds_ok value
  | error cause => exact staysInBounds_rejected cause

/-- A fault is in bounds whatever result it stands in place of, so it may be passed on to a caller
with a result of another type. -/
theorem StaysInBounds.of_error {fault : Fault}
    (stays : StaysInBounds (.error fault : Except Fault α)) :
    StaysInBounds (.error fault : Except Fault β) := by
  intro other same
  obtain rfl : fault = other := Except.error.inj same
  exact stays fault rfl

/-- A chain stays in bounds if its parts do. The second part is asked only for the values that the
first one can give. -/
theorem StaysInBounds.bind {first : Except Fault α} {next : α → Except Fault β}
    (first_stays : StaysInBounds first)
    (next_stays : ∀ value, first = .ok value → StaysInBounds (next value)) :
    StaysInBounds (first >>= next) := by
  cases first with
  | ok value => exact next_stays value rfl
  | error fault => exact first_stays.of_error

end PulseProgram

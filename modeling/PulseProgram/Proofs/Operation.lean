import PulseProgram.Operation

/-!
# Laws of operations

Operations carried out one after the other do what they do in any grouping. A chain that stops
at its first failure leaves the device as that failure left it.
-/

namespace PulseProgram.Operation

variable {σ ε δ α β : Type}

instance : LawfulMonad (Operation σ ε) := by
  refine LawfulMonad.mk' _ ?_ ?_ ?_
  · intro α operation
    funext state
    cases outcome : operation state with
    | mk result after =>
      cases result with
      | ok value => exact bind_run_ok outcome
      | error cause => exact bind_run_error outcome
  · intro α β value next
    rfl
  · intro α β γ operation next last
    funext state
    cases outcome : operation state with
    | mk result after =>
      cases result with
      | ok value =>
        have first : (operation >>= next) state = next value after := bind_run_ok outcome
        rw [bind_run_ok outcome]
        cases goesOn : next value after with
        | mk result reached =>
          rw [goesOn] at first
          cases result with
          | ok value => rw [bind_run_ok first, bind_run_ok goesOn]
          | error cause => rw [bind_run_error first, bind_run_error goesOn]
      | error cause => rw [bind_run_error outcome, bind_run_error (bind_run_error outcome)]

/-- Converting a result changes neither the device nor the cause of a failure. -/
theorem map_run (convert : α → β) (operation : Operation σ ε α) (state : σ) :
    (convert <$> operation) state = ((operation state).1.map convert, (operation state).2) := by
  cases outcome : operation state with
  | mk result after =>
    cases result with
    | ok value => exact bind_run_ok outcome
    | error cause => exact bind_run_error outcome

/-- An operation that succeeds has no cause to tell in other terms, and the device is left as it was
left before. -/
theorem withCause_run_ok (describe : ε → δ) {operation : Operation σ ε α} {state after : σ}
    {value : α} (ended : operation state = (.ok value, after)) :
    operation.withCause describe state = (.ok value, after) := by
  rw [withCause, ended]
  rfl

/-- An operation that fails leaves the same device, and its cause is told in other terms. -/
theorem withCause_run_error (describe : ε → δ) {operation : Operation σ ε α} {state after : σ}
    {cause : ε} (ended : operation state = (.error cause, after)) :
    operation.withCause describe state = (.error (describe cause), after) := by
  rw [withCause, ended]
  rfl

/-- What is made of a result does not matter to the cause of a failure. -/
theorem withCause_map (describe : ε → δ) (convert : α → β) (operation : Operation σ ε α) :
    (convert <$> operation).withCause describe = convert <$> operation.withCause describe := by
  funext state
  simp only [withCause, map_run]
  cases (operation state).1 <;> rfl

/-- Operations that begin alike go on alike. The two devices may differ, as long as the first
operation does not tell them apart. -/
theorem bind_run_congr {operation : Operation σ ε α} {first second : σ}
    (same : operation first = operation second) (next : α → Operation σ ε β) :
    (operation >>= next) first = (operation >>= next) second := by
  cases outcome : operation second with
  | mk result after =>
    rw [outcome] at same
    cases result with
    | ok value => rw [bind_run_ok same, bind_run_ok outcome]
    | error cause => rw [bind_run_error same, bind_run_error outcome]

/-- A failure that is the same is the same in other terms. -/
theorem withCause_run_congr {operation : Operation σ ε α} {first second : σ}
    (same : operation first = operation second) (describe : ε → δ) :
    operation.withCause describe first = operation.withCause describe second := by
  rw [withCause, withCause, same]

end PulseProgram.Operation

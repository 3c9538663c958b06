/-!
# Operations on a device

An operation is carried out on a device, which is any state that remembers what
happened to it. It ends with a result or with the cause of its failure, and in
either case with the device as it then is: a failure takes nothing back.

Nothing is assumed of the device, so a statement about an operation that holds
for every state type holds for every behaviour of a real device.
-/

namespace PulseProgram

/-- What is done to a device of state `σ`. -/
def Operation (σ ε α : Type) : Type := σ → Except ε α × σ

namespace Operation

variable {σ ε δ α β : Type}

instance : Monad (Operation σ ε) where
  pure value := fun state => (.ok value, state)
  bind first next := fun state =>
    match first state with
    | (.ok value, after) => next value after
    | (.error cause, after) => (.error cause, after)

/-- The outcome of a check that does not need the device. -/
def check (outcome : Except ε α) : Operation σ ε α := fun state => (outcome, state)

/-- The outcome of a look at the device, which stays as it is. -/
def examine (look : σ → Except ε α) : Operation σ ε α := fun state => (look state, state)

/-- Changes the device and cannot fail. -/
def change (change : σ → σ) : Operation σ ε Unit := fun state => (.ok (), change state)

/-- Tells the cause of a failure in other terms. -/
def withCause (describe : ε → δ) (operation : Operation σ ε α) : Operation σ δ α :=
  fun state => ((operation state).1.mapError describe, (operation state).2)

/-- Carries out `last` whether or not the operation succeeds, and then ends as the
operation did; how `last` ends does not matter. -/
def thenAlways (operation : Operation σ ε α) (last : Operation σ ε β) : Operation σ ε α :=
  fun state => ((operation state).1, (last (operation state).2).2)

/-- Carries out an operation on a part of a larger device. -/
def onPart {τ : Type} (part : τ → σ) (replace : τ → σ → τ) (operation : Operation σ ε α) :
    Operation τ ε α :=
  fun whole =>
    let (outcome, after) := operation (part whole)
    (outcome, replace whole after)

/-- An operation that only returns a value leaves the state alone. -/
@[simp] theorem pure_run (value : α) (state : σ) :
    (pure value : Operation σ ε α) state = (.ok value, state) := rfl

/-- After an operation that ends with a value the next one goes on from the state it has left. -/
theorem bind_run_ok {first : Operation σ ε α} {next : α → Operation σ ε β} {state after : σ}
    {value : α} (ended : first state = (.ok value, after)) :
    (first >>= next) state = next value after := by
  show (match first state with
    | (.ok value, after) => next value after
    | (.error cause, after) => (.error cause, after)) = _
  rw [ended]

/-- After an operation that fails nothing more is done, and the state is the one it has left. -/
theorem bind_run_error {first : Operation σ ε α} {next : α → Operation σ ε β} {state after : σ}
    {cause : ε} (ended : first state = (.error cause, after)) :
    (first >>= next) state = (.error cause, after) := by
  show (match first state with
    | (.ok value, after) => next value after
    | (.error cause, after) => (.error cause, after)) = _
  rw [ended]

end Operation

end PulseProgram

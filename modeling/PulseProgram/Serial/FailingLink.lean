import PulseProgram.Serial.Link

/-!
# Links that break

A failing link passes its calls on to another link until a planned moment. From
then on every call of one kind fails and the device behind it sees nothing of it.
-/

namespace PulseProgram

/-- The calls of a link, by what they do. -/
inductive LinkCall where
  | read
  | write
  | flush
  | clear
deriving DecidableEq

/-- Which calls fail: all of one kind from number `first` on, counted from zero. -/
structure Breakdown where
  call : LinkCall
  first : Nat
  reason : String
deriving DecidableEq

/-- A link with the number of calls of the kind that is to fail. Without a breakdown it is the link
itself. -/
structure FailingLink (σ : Type) where
  link : σ
  breakdown : Option Breakdown := none
  calls : Nat := 0

namespace FailingLink

variable {σ α : Type}

/-- Passes a call on, without counting it. -/
def pass (operation : Operation σ String α) : Operation (FailingLink σ) String α :=
  operation.onPart FailingLink.link fun whole link => { whole with link }

/-- Passes a call on unless it is planned to fail. A call that fails is counted, but the link does
not see it. -/
def attempt (call : LinkCall) (operation : Operation σ String α) :
    Operation (FailingLink σ) String α := fun whole =>
  match whole.breakdown with
  | none => pass operation whole
  | some breakdown =>
    if breakdown.call = call then
      let counted := { whole with calls := whole.calls + 1 }
      if breakdown.first ≤ whole.calls then (.error breakdown.reason, counted)
      else pass operation counted
    else pass operation whole

instance [SerialLink σ] : SerialLink (FailingLink σ) where
  readByte := attempt .read SerialLink.readByte
  write bytes := attempt .write (SerialLink.write bytes)
  flush := attempt .flush SerialLink.flush
  clearInput := attempt .clear SerialLink.clearInput

end FailingLink

end PulseProgram

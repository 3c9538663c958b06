import PulseProgram.Proofs.Operation
import PulseProgram.Serial.Link

/-!
# Lines that are there to be read

What receiving a byte comes to is told by one read. On a link that has the bytes already this
says what reading a line comes to: a line that fits is read up to its line feed, a longer one is
given up, and where nothing comes the wait ends.
-/

namespace PulseProgram.SerialLink

variable {σ : Type} [SerialLink σ]

/-- What comes of receiving a byte, by what the read comes to. The four cases are a failure, an
empty read, a line feed and any other byte, and the link is left as the read leaves it. -/
theorem receive_run (received : Text.Bytes) (goOn : UInt8 → Operation σ LinkError String)
    (link : σ) :
    receive received goOn link = match readByte link with
      | (.error reason, after) => (.error (.failed reason), after)
      | (.ok none, after) => (.error .timedOut, after)
      | (.ok (some byte), after) =>
        if byte = 0x0a then (.ok (lineText received.reverse), after) else goOn byte after := by
  cases read : readByte link with
  | mk result after =>
    cases result with
    | error reason =>
      rw [receive, Operation.bind_run_error (Operation.withCause_run_error _ read)]
    | ok byte =>
      rw [receive, Operation.bind_run_ok (Operation.withCause_run_ok _ read)]
      cases byte with
      | none => rfl
      | some byte => by_cases ends : byte = 0x0a <;> simp [ends]

/-- A link gives one after the other the bytes that it is said to have pending. What comes after
them is left open, and so is what the link does when it is not read. -/
def GivesPending (pending : Text.Bytes → σ → Prop) : Prop :=
  ∀ byte rest link, pending (byte :: rest) link →
    ∃ after, readByte link = (.ok (some byte), after) ∧ pending rest after

section Pending

variable {pending : Text.Bytes → σ → Prop} {line rest : Text.Bytes} {link : σ} {room : Nat}

/-- A pending byte is received. It ends the line or is gone on with, and the other bytes are pending
afterwards. -/
theorem receive_pending (gives : GivesPending pending) {byte : UInt8}
    (ready : pending (byte :: rest) link) (received : Text.Bytes)
    (goOn : UInt8 → Operation σ LinkError String) :
    ∃ after, pending rest after ∧ receive received goOn link =
      if byte = 0x0a then (.ok (lineText received.reverse), after) else goOn byte after := by
  obtain ⟨after, given, left⟩ := gives byte rest link ready
  exact ⟨after, left, by rw [receive_run, given]⟩

/-- A pending line is read up to its line feed. What is pending behind the line feed stays pending,
and the line may take up all the room that is left. -/
theorem readLineFrom_pending (gives : GivesPending pending) (received : Text.Bytes)
    (unended : 0x0a ∉ line) (short : line.length ≤ room)
    (ready : pending (line ++ 0x0a :: rest) link) :
    ∃ after, pending rest after ∧ readLineFrom received room link =
      (.ok (lineText (received.reverse ++ line)), after) := by
  induction line generalizing received room link with
  | nil =>
    have ended := receive_pending gives ready received
    cases room <;> simpa [readLineFrom] using ended _
  | cons byte line inductionHypothesis =>
    cases room with
    | zero => simp at short
    | succ room =>
      obtain ⟨after, left, received_eq⟩ := receive_pending gives ready received
        fun byte => readLineFrom (byte :: received) room
      obtain ⟨more, unended⟩ : 0x0a ≠ byte ∧ 0x0a ∉ line := by simpa using unended
      have shorter : line.length ≤ room := by simpa using short
      obtain ⟨last, left, read⟩ := inductionHypothesis (byte :: received) unended shorter left
      refine ⟨last, left, ?_⟩
      rw [readLineFrom, received_eq, if_neg (Ne.symm more), read]
      simp

/-- Where a line has more bytes than there is room for, it is given up, whether or not a line feed
would come later. -/
theorem readLineFrom_overlong (gives : GivesPending pending) (received : Text.Bytes)
    (unended : 0x0a ∉ line) (long : room < line.length) (ready : pending (line ++ rest) link) :
    (readLineFrom received room link).1 = .error .lineTooLong := by
  induction line generalizing received room link with
  | nil => exact absurd long (Nat.not_lt_zero room)
  | cons byte line inductionHypothesis =>
    obtain ⟨more, unended⟩ : 0x0a ≠ byte ∧ 0x0a ∉ line := by simpa using unended
    cases room with
    | zero =>
      obtain ⟨after, -, received_eq⟩ := receive_pending gives ready received
        fun _ => .check (.error .lineTooLong)
      rw [readLineFrom, received_eq, if_neg (Ne.symm more)]
      rfl
    | succ room =>
      obtain ⟨after, left, received_eq⟩ := receive_pending gives ready received
        fun byte => readLineFrom (byte :: received) room
      rw [readLineFrom, received_eq, if_neg (Ne.symm more)]
      exact inductionHypothesis (byte :: received) unended (Nat.lt_of_succ_lt_succ long) left

end Pending

/-- Where nothing comes, the wait for a line ends, however many bytes of the line were received and
however many might still come. -/
theorem readLineFrom_silent {link after : σ} (silent : readByte link = (.ok none, after))
    (received : Text.Bytes) (room : Nat) :
    readLineFrom received room link = (.error .timedOut, after) := by
  cases room with
  | zero => rw [readLineFrom, receive_run, silent]
  | succ room => rw [readLineFrom, receive_run, silent]

end PulseProgram.SerialLink

import PulseProgram.Proofs.Serial.Reading
import PulseProgram.Serial.FailingLink
import PulseProgram.Serial.ScriptedDevice
import PulseProgram.Synthesizer.Programming

/-!
# Links that accept everything

The calls of an accepting link never fail. It gives the bytes that it has pending, drops them
when it is told to, and has an acceptance pending after each line. So every command that is sent
over it is carried out, whether it is answered or not: what is left pending after a command that
nobody reads is dropped before the next one.
-/

namespace PulseProgram

/-- The calls of a link never fail, and each line is answered by an acceptance. `pending` says which
bytes a link has to give. A link of any kind may satisfy this, in memory or not. -/
structure AcceptsLines {σ : Type} [SerialLink σ] (pending : Text.Bytes → σ → Prop) : Prop where
  clears : ∀ {bytes link}, pending bytes link →
    ∃ after, SerialLink.clearInput link = (.ok (), after) ∧ pending [] after
  /-- Whatever else a line brings about, an acceptance comes first. -/
  answers : ∀ (line : String) {link}, pending [] link →
    ∃ after reply rest, SerialLink.write (SerialLink.lineBytes line) link = (.ok (), after) ∧
      0x0a ∉ reply ∧ reply.length ≤ SerialLink.longestLine ∧
      SerialLink.lineText reply = Synthesizer.acceptance ∧ pending (reply ++ 0x0a :: rest) after
  flushes : ∀ {bytes link}, pending bytes link →
    ∃ after, SerialLink.flush link = (.ok (), after) ∧ pending bytes after
  gives : ∀ {byte rest link}, pending (byte :: rest) link →
    ∃ after, SerialLink.readByte link = (.ok (some byte), after) ∧ pending rest after

/-- A link that accepts every line from now on, whatever bytes it has to give at first. -/
def Accepting {σ : Type} [SerialLink σ] (link : σ) : Prop :=
  ∃ pending, AcceptsLines pending ∧ ∃ bytes, pending bytes link

/-! ## Commands on an accepting link -/

namespace AcceptsLines

variable {σ : Type} [SerialLink σ] {pending : Text.Bytes → σ → Prop} {link : σ}

/-- Every command is carried out, whether it is answered or not. Bytes may be pending before it and
after it; the next command drops them. -/
theorem send_ok (accepts : AcceptsLines pending) {bytes : Text.Bytes}
    (ready : pending bytes link) (command : Command) :
    ∃ after, Synthesizer.send command link = (.ok (), after) ∧ ∃ bytes, pending bytes after := by
  obtain ⟨cleared, clears, empty⟩ := accepts.clears ready
  obtain ⟨written, reply, rest, writes, unended, short, accepted, answer⟩ :=
    accepts.answers command.text empty
  obtain ⟨flushed, flushes, answer⟩ := accepts.flushes answer
  have moved : (do
      SerialLink.clearInput
      SerialLink.write (SerialLink.lineBytes command.text)
      SerialLink.flush : Operation σ String Unit) link = (.ok (), flushed) := by
    rw [Operation.bind_run_ok clears, Operation.bind_run_ok writes, flushes]
  have sent : (SerialLink.writeLine command.text).withCause SynthError.link link =
      (.ok (), flushed) :=
    Operation.withCause_run_ok _ (Operation.withCause_run_ok _ moved)
  cases answered : command.answered with
  | false =>
    refine ⟨flushed, ?_, _, answer⟩
    simp [Synthesizer.send, Operation.bind_run_ok sent, answered]
  | true =>
    obtain ⟨after, left, read⟩ :=
      SerialLink.readLineFrom_pending (fun _ _ _ => accepts.gives) [] unended short answer
    have reads : SerialLink.readLine flushed = (.ok Synthesizer.acceptance, after) := by
      simpa [SerialLink.readLine, accepted] using read
    refine ⟨after, ?_, _, left⟩
    simp [Synthesizer.send, Operation.bind_run_ok sent, answered, Synthesizer.awaitAcceptance,
      Operation.bind_run_ok (Operation.withCause_run_ok _ reads)]

end AcceptsLines

/-! ## Devices that accept everything -/

namespace ScriptedDevice

variable {ρ : Type} [Responder ρ]

/-- A responder that replies to every line with an acceptance, and still will afterwards. -/
def Agrees (agreeing : ρ → Prop) : Prop :=
  ∀ line responder, agreeing responder →
    (Responder.respond line responder).1 = some Synthesizer.acceptance ∧
      agreeing (Responder.respond line responder).2

/-- The bytes of an acceptance. -/
def acceptanceBytes : Text.Bytes := SerialLink.lineBytes Synthesizer.acceptance

/-- An agreeing device sends an acceptance back for each line feed written to it, however the lines
are cut into writes and whatever is in them. -/
theorem write_agreeing {agreeing : ρ → Prop} (agrees : Agrees agreeing) (bytes : Text.Bytes)
    (device : ScriptedDevice ρ) (ready : agreeing device.responder) :
    agreeing (device.write bytes).responder ∧ (device.write bytes).input =
      device.input ++ (List.replicate (bytes.count 0x0a) acceptanceBytes).flatten := by
  induction bytes generalizing device with
  | nil => simpa [write] using ready
  | cons byte bytes inductionHypothesis =>
    have next : device.write (byte :: bytes) = (device.takeByte byte).write bytes := rfl
    rw [next]
    by_cases ends : byte = 0x0a
    · subst ends
      obtain ⟨reply, remains⟩ :=
        agrees (SerialLink.lineText (device.unfinished ++ [0x0a])) device.responder ready
      have taken := inductionHypothesis (device.takeByte 0x0a) (by simpa [takeByte, answer])
      simpa [takeByte, answer, reply, replyBytes, acceptanceBytes, List.replicate_succ] using taken
    · have taken := inductionHypothesis (device.takeByte byte) (by simpa [takeByte, ends])
      simpa [takeByte, ends] using taken

/-- A device that agrees to everything makes an accepting link. Its responder may keep a state, as
long as it goes on agreeing. -/
theorem acceptsLines {agreeing : ρ → Prop} (agrees : Agrees agreeing) :
    AcceptsLines fun bytes (device : ScriptedDevice ρ) =>
      device.input = bytes ∧ agreeing device.responder where
  clears := by
    rintro bytes device ⟨-, ready⟩
    exact ⟨device.clear, rfl, rfl, ready⟩
  answers := by
    rintro line device ⟨empty, ready⟩
    obtain ⟨remains, input⟩ := write_agreeing agrees (SerialLink.lineBytes line) device ready
    refine ⟨_, Text.encode Synthesizer.acceptance ++ [0x0d],
      (List.replicate ((Text.encode line).count 0x0a) acceptanceBytes).flatten, rfl,
      by decide +kernel, by decide +kernel, by decide +kernel, ?_, remains⟩
    rw [input, empty]
    simp [SerialLink.lineBytes, acceptanceBytes, List.replicate_succ]
  flushes := by
    rintro bytes device ready
    exact ⟨device, rfl, ready⟩
  gives := by
    rintro byte rest device ⟨input, ready⟩
    refine ⟨{ device with input := rest }, ?_, rfl, ready⟩
    simp [SerialLink.readByte, input]

end ScriptedDevice

/-! ## Links that pass their calls on -/

/-- While `passing` holds of it, a link passes its calls on to the link that is a part of it. It may
keep more than that link, and may stop passing calls on for a reason of its own. -/
structure PassesOn {τ σ : Type} [SerialLink τ] [SerialLink σ] (part : τ → σ)
    (replace : τ → σ → τ) (passing : τ → Prop) : Prop where
  part_replace : ∀ whole link, part (replace whole link) = link
  stays : ∀ whole link, passing whole → passing (replace whole link)
  clearInput : ∀ whole, passing whole →
    SerialLink.clearInput whole = SerialLink.clearInput.onPart part replace whole
  write : ∀ bytes whole, passing whole →
    SerialLink.write bytes whole = (SerialLink.write bytes).onPart part replace whole
  flush : ∀ whole, passing whole →
    SerialLink.flush whole = SerialLink.flush.onPart part replace whole
  readByte : ∀ whole, passing whole →
    SerialLink.readByte whole = SerialLink.readByte.onPart part replace whole

/-- Such a link accepts what the other link does, since each of its calls comes to the same. -/
theorem PassesOn.acceptsLines {τ σ : Type} [SerialLink τ] [SerialLink σ] {part : τ → σ}
    {replace : τ → σ → τ} {passing : τ → Prop} (passes : PassesOn part replace passing)
    {pending : Text.Bytes → σ → Prop} (accepts : AcceptsLines pending) :
    AcceptsLines fun bytes whole => passing whole ∧ pending bytes (part whole) := by
  have follow {α : Type} {operation : Operation σ String α} {outcome : Except String α}
      {whole : τ} {after : σ} {bytes : Text.Bytes} (holds : passing whole)
      (ended : operation (part whole) = (outcome, after)) (ready : pending bytes after) :
      operation.onPart part replace whole = (outcome, replace whole after) ∧
        passing (replace whole after) ∧ pending bytes (part (replace whole after)) := by
    refine ⟨by rw [Operation.onPart, ended], passes.stays whole after holds, ?_⟩
    rwa [passes.part_replace]
  constructor
  · rintro bytes whole ⟨holds, ready⟩
    obtain ⟨after, clears, empty⟩ := accepts.clears ready
    rw [passes.clearInput whole holds]
    exact ⟨_, follow holds clears empty⟩
  · rintro line whole ⟨holds, ready⟩
    obtain ⟨after, reply, rest, writes, unended, short, accepted, answer⟩ :=
      accepts.answers line ready
    obtain ⟨written, answered⟩ := follow holds writes answer
    rw [passes.write _ whole holds]
    exact ⟨_, reply, rest, written, unended, short, accepted, answered⟩
  · rintro bytes whole ⟨holds, ready⟩
    obtain ⟨after, flushes, same⟩ := accepts.flushes ready
    rw [passes.flush whole holds]
    exact ⟨_, follow holds flushes same⟩
  · rintro byte rest whole ⟨holds, ready⟩
    obtain ⟨after, gives, left⟩ := accepts.gives ready
    rw [passes.readByte whole holds]
    exact ⟨_, follow holds gives left⟩

/-- A link that is not planned to break passes its calls on. The plan is the only thing that it
adds. -/
theorem FailingLink.passesOn {σ : Type} [SerialLink σ] :
    PassesOn (σ := σ) FailingLink.link (fun whole link => { whole with link })
      (·.breakdown = none) where
  part_replace := fun _ _ => rfl
  stays := fun _ _ unbroken => unbroken
  clearInput := by
    intro whole unbroken
    simp [SerialLink.clearInput, attempt, pass, unbroken]
  write := by
    intro bytes whole unbroken
    simp [SerialLink.write, attempt, pass, unbroken]
  flush := by
    intro whole unbroken
    simp [SerialLink.flush, attempt, pass, unbroken]
  readByte := by
    intro whole unbroken
    simp [SerialLink.readByte, attempt, pass, unbroken]

end PulseProgram

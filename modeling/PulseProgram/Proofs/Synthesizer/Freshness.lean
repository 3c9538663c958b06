import PulseProgram.Proofs.Serial.Pieces
import PulseProgram.Proofs.Serial.Reading
import PulseProgram.Proofs.Text.Utf8
import PulseProgram.Synthesizer.Programming

/-!
# Answers to one's own command

Whatever a link received before a command, it is dropped before the command is sent. So two links
that dropping makes alike answer alike from then on, to one call and to any number of calls.

Behind a scripted device this says where an answer comes from. All that can be read after a
command is the reply to its line, and of that reply the first line alone decides how the command
ends.
-/

namespace PulseProgram

namespace Synthesizer

/-! ## Calls -/

/-- What a synthesizer can be asked for. Every operation of the driver is among these calls, those
that check their settings first included. -/
inductive Call where
  /-- Any line. The modes and the switches of the device are lines without settings. -/
  | send (command : Command)
  | setUp
  | restart
  | frequency (channel : Nat) (megahertz : Binary64)
  | phase (channel : Nat) (turns : Binary64)
  | gain (channel : Nat) (volts : Binary64)
  | tableEntry (entry : TableEntry)
  | programTable (rows : List (List Binary64))
  | status
  | ping

/-- What a call comes to. -/
inductive Answer where
  | ended (outcome : Except SynthError Unit)
  | told (status : Except SynthError (List String))
  | known (supported : Bool)

section Calls

variable {τ : Type} [Synthesizer τ]

/-- Carries out a call. -/
def carryOut : Call → τ → Answer × τ
  | .send command, synthesizer => (send command synthesizer).map .ended id
  | .setUp, synthesizer => (setUp synthesizer).map .ended id
  | .restart, synthesizer => (restart synthesizer).map .ended id
  | .frequency channel megahertz, synthesizer =>
    (request (Command.frequency channel megahertz) synthesizer).map .ended id
  | .phase channel turns, synthesizer =>
    (request (Command.phase channel turns) synthesizer).map .ended id
  | .gain channel volts, synthesizer =>
    (request (Command.gain channel volts) synthesizer).map .ended id
  | .tableEntry entry, synthesizer =>
    (request (Command.tableEntry entry) synthesizer).map .ended id
  | .programTable rows, synthesizer => (programTable rows synthesizer).map .ended id
  | .status, synthesizer => (status synthesizer).map .told id
  | .ping, synthesizer => (ping synthesizer).map .known id

/-- Carries out calls one after the other, whatever they come to. -/
def carryOutAll : List Call → τ → List Answer × τ
  | [], synthesizer => ([], synthesizer)
  | call :: rest, synthesizer =>
    let (answer, after) := carryOut call synthesizer
    let (answers, last) := carryOutAll rest after
    (answer :: answers, last)

end Calls

/-! ## Links that dropping makes alike -/

section Stale

variable {σ ε α β : Type} [SerialLink σ] {first second : σ}

/-- Two links are the same but for what is dropped before a line is sent. Dropping may fail; then it
fails alike and leaves the same link. -/
def AlikeOnceCleared (first second : σ) : Prop :=
  SerialLink.clearInput first = SerialLink.clearInput second

/-- On links that are the same but for what is dropped, the operation ends alike, and it leaves such
links, so the next operation cannot tell them apart either. -/
def IgnoresStale (operation : Operation σ ε α) : Prop :=
  ∀ first second, AlikeOnceCleared first second →
    (operation first).1 = (operation second).1 ∧
      AlikeOnceCleared (operation first).2 (operation second).2

namespace IgnoresStale

/-- What needs no link cannot tell them apart. -/
theorem check (outcome : Except ε α) : IgnoresStale (Operation.check outcome : Operation σ ε α) :=
  fun _ _ alike => ⟨rfl, alike⟩

/-- An operation that drops first goes on from one and the same link. -/
theorem of_eq {operation : Operation σ ε α}
    (same : ∀ first second, AlikeOnceCleared first second →
      operation first = operation second) : IgnoresStale operation := by
  intro first second alike
  rw [same first second alike]
  exact ⟨rfl, rfl⟩

/-- Operations one after the other ignore what is stale if each of them does. Both runs end the
first operation alike, so they take the same way on. -/
theorem bind {operation : Operation σ ε α} {next : α → Operation σ ε β}
    (before : IgnoresStale operation) (after : ∀ value, IgnoresStale (next value)) :
    IgnoresStale (operation >>= next) := by
  intro first second alike
  obtain ⟨same, left⟩ := before first second alike
  cases outcome : operation first with
  | mk result reached =>
    cases other : operation second with
    | mk otherResult otherReached =>
      rw [outcome, other] at same left
      obtain rfl : result = otherResult := same
      cases result with
      | ok value =>
        rw [Operation.bind_run_ok outcome, Operation.bind_run_ok other]
        exact after value _ _ left
      | error cause =>
        rw [Operation.bind_run_error outcome, Operation.bind_run_error other]
        exact ⟨rfl, left⟩

end IgnoresStale

/-- Sending a line leaves one and the same link, since it begins by dropping what was received. -/
theorem writeLine_eq (alike : AlikeOnceCleared first second) (line : String) :
    SerialLink.writeLine line first = SerialLink.writeLine line second :=
  Operation.withCause_run_congr (Operation.bind_run_congr alike _) _

/-- A command finds and leaves one and the same link. -/
theorem send_eq (alike : AlikeOnceCleared first second) (command : Command) :
    send command first = send command second :=
  Operation.bind_run_congr (Operation.withCause_run_congr (writeLine_eq alike command.text) _) _

/-- The question for the status finds and leaves one and the same link. -/
theorem status_eq (alike : AlikeOnceCleared first second) : status first = status second :=
  Operation.withCause_run_congr
    (Operation.bind_run_congr (writeLine_eq alike Command.queryStatus) _) _

/-- The question whether the device is there finds and leaves one and the same link. -/
theorem ping_eq (alike : AlikeOnceCleared first second) : ping first = ping second := by
  rw [ping, ping, status_eq alike]

/-- A command ignores what is stale. -/
theorem send_ignoresStale (command : Command) :
    IgnoresStale (send command : Operation σ SynthError Unit) :=
  .of_eq fun _ _ alike => send_eq alike command

/-- A command ignores what is stale also if it could not be formed: then no link is needed. -/
theorem request_ignoresStale (command : Except SynthError Command) :
    IgnoresStale (request command : Operation σ SynthError Unit) :=
  (IgnoresStale.check command).bind send_ignoresStale

/-- Setting the device up ignores what is stale. -/
theorem setUp_ignoresStale : IgnoresStale (setUp : Operation σ SynthError Unit) :=
  (send_ignoresStale _).bind fun _ => (send_ignoresStale _).bind fun _ => send_ignoresStale _

/-- Writing entries ignores what is stale, each entry for itself. -/
theorem writeEntries_ignoresStale (entries : List TableEntry) :
    IgnoresStale (writeEntries entries : Operation σ SynthError Unit) := by
  induction entries with
  | nil => exact .check (.ok ())
  | cons entry rest inductionHypothesis =>
    exact (request_ignoresStale _).bind fun _ => inductionHypothesis

/-- Programming a table ignores what is stale. -/
theorem programTable_ignoresStale (rows : List (List Binary64)) :
    IgnoresStale (programTable rows : Operation σ SynthError Unit) :=
  setUp_ignoresStale.bind fun _ => (send_ignoresStale _).bind fun _ =>
    (writeEntries_ignoresStale _).bind fun _ => send_ignoresStale _

/-- A call ends alike on links that are the same but for what is dropped, and leaves such links.
There is one case for each call, and a call that is refused before it begins leaves both links as
they are. -/
theorem carryOut_alike (alike : AlikeOnceCleared first second) (call : Call) :
    (carryOut call first).1 = (carryOut call second).1 ∧
      AlikeOnceCleared (carryOut call first).2 (carryOut call second).2 := by
  have told {α : Type} {operation : Operation σ SynthError α} (ignores : IgnoresStale operation)
      (tell : Except SynthError α → Answer) :
      ((operation first).map tell id).1 = ((operation second).map tell id).1 ∧
        AlikeOnceCleared ((operation first).map tell id).2 ((operation second).map tell id).2 :=
    ⟨congrArg tell (ignores _ _ alike).1, (ignores _ _ alike).2⟩
  cases call with
  | send command => exact told (send_ignoresStale command) _
  | setUp => exact told setUp_ignoresStale _
  | restart => exact told ((send_ignoresStale _).bind fun _ => setUp_ignoresStale) _
  | frequency channel megahertz => exact told (request_ignoresStale _) _
  | phase channel turns => exact told (request_ignoresStale _) _
  | gain channel volts => exact told (request_ignoresStale _) _
  | tableEntry entry => exact told (request_ignoresStale _) _
  | programTable rows => exact told (programTable_ignoresStale rows) _
  | status => exact told (.of_eq fun _ _ => status_eq) _
  | ping =>
    rw [carryOut, carryOut, ping_eq alike]
    exact ⟨rfl, rfl⟩

/-- So do any number of calls, whatever each of them comes to: a failure does not end the series. -/
theorem carryOutAll_alike (alike : AlikeOnceCleared first second) (calls : List Call) :
    (carryOutAll calls first).1 = (carryOutAll calls second).1 ∧
      AlikeOnceCleared (carryOutAll calls first).2 (carryOutAll calls second).2 := by
  induction calls generalizing first second with
  | nil => exact ⟨rfl, alike⟩
  | cons call rest inductionHypothesis =>
    obtain ⟨same, left⟩ := carryOut_alike alike call
    obtain ⟨sameRest, last⟩ := inductionHypothesis left
    exact ⟨List.cons_eq_cons.mpr ⟨same, sameRest⟩, last⟩

end Stale

/-! ## Waiting for an acceptance -/

/-- How waiting for an acceptance ends, by what comes of reading a line. -/
def ending : Except LinkError String → Except SynthError Unit
  | .error cause => .error (.link cause)
  | .ok line =>
    if line = acceptance then .ok () else .error (.unexpectedResponse line (describeErrorCode line))

/-- Waiting for an acceptance ends as the line that is read decides. -/
theorem awaitAcceptance_eq {σ : Type} [SerialLink σ] (link : σ) :
    (awaitAcceptance link).1 = ending (SerialLink.readLine link).1 := by
  rw [awaitAcceptance]
  cases read : SerialLink.readLine link with
  | mk result after =>
    cases result with
    | error cause =>
      rw [Operation.bind_run_error (Operation.withCause_run_error _ read), ending]
    | ok line =>
      rw [Operation.bind_run_ok (Operation.withCause_run_ok _ read), ending]
      split <;> rfl

end Synthesizer

/-! ## Behind a scripted device -/

namespace ScriptedDevice

/-- The first line of an answer, without its line feed. An answer may contain line feeds of its own,
and then this is not all of it. -/
def firstLine (answer : String) : Text.Bytes :=
  (SerialLink.lineBytes answer).takeWhile (· ≠ 0x0a)

/-- The bytes of an answer begin with its first line. There always is one, since a line feed is put
behind every answer. -/
theorem firstLine_ends (answer : String) : 0x0a ∉ firstLine answer ∧
    ∃ rest, SerialLink.lineBytes answer = firstLine answer ++ 0x0a :: rest := by
  have ended : 0x0a ∈ SerialLink.lineBytes answer := by simp [SerialLink.lineBytes]
  obtain ⟨first, rest, split, unended⟩ := List.eq_append_cons_of_mem ended
  have same : firstLine answer = first := by
    have more : ∀ byte ∈ first, decide (byte ≠ 0x0a) = true := by
      rintro byte listed
      rw [decide_eq_true_eq]
      rintro rfl
      exact unended listed
    rw [firstLine, split, List.takeWhile_append_of_pos more, List.takeWhile_cons_of_neg (by simp),
      List.append_nil]
  rw [same]
  exact ⟨unended, rest, split⟩

/-- How a command ends that waits for an answer, given the reply to its line. The cases exclude each
other, and together they leave no reply out. -/
structure Judges (reply : Option String) (outcome : Except SynthError Unit) : Prop where
  /-- It is carried out exactly if the first line of an answer is short enough and says so. -/
  ok_iff : outcome = .ok () ↔ ∃ answer, reply = some answer ∧ (firstLine answer).length ≤ 256 ∧
    SerialLink.lineText (firstLine answer) = "OK"
  silent : reply = none → outcome = .error (.link .timedOut)
  endless : ∀ answer, reply = some answer → 256 < (firstLine answer).length →
    outcome = .error (.link .lineTooLong)
  refused : ∀ answer, reply = some answer → (firstLine answer).length ≤ 256 →
    ∀ line, line = SerialLink.lineText (firstLine answer) → line ≠ "OK" →
      outcome = .error (.unexpectedResponse line (Synthesizer.describeErrorCode line))

variable {ρ : Type}

/-- The line that the device has received once a text is sent to it. -/
def received (text : String) (device : ScriptedDevice ρ) : String :=
  SerialLink.lineText (device.unfinished ++ SerialLink.lineBytes text)

/-- A text that begins a line is received without its blank tail. The carriage return that is sent
behind it is part of that tail. -/
theorem received_eq {device : ScriptedDevice ρ} (complete : device.unfinished = [])
    (text : String) : device.received text = String.ofList (Text.trimRight text.toList) := by
  have ending : Text.decodeLossy [0x0d, 0x0a] = ['\r', '\n'] := by decide
  rw [received, complete, List.nil_append, SerialLink.lineText, SerialLink.lineBytes,
    Text.decodeLossy_encode_append, ending, Text.trimRight, Text.trimRight, List.reverse_append]
  rfl

variable [Responder ρ]

/-- A text of one line is answered as one. It completes what waited on the device, if anything
did. -/
theorem write_lineBytes {text : String} (single : '\n' ∉ text.toList)
    (device : ScriptedDevice ρ) :
    device.write (SerialLink.lineBytes text) = device.answer (device.received text) := by
  have unended : 0x0a ∉ Text.encode text ++ [0x0d] := by
    simp [Text.newline_notMem_encode single]
  have split : SerialLink.lineBytes text = (Text.encode text ++ [0x0d]) ++ [0x0a] := by
    simp [SerialLink.lineBytes]
  rw [received, split, write_line unended]

/-- A scripted device gives its input, byte by byte and in order. -/
theorem givesPending :
    SerialLink.GivesPending fun bytes (device : ScriptedDevice ρ) => device.input = bytes := by
  rintro byte rest device input
  refine ⟨{ device with input := rest }, ?_, rfl⟩
  simp [SerialLink.readByte, input]

/-- Where a reply is all there is to read, it judges the command. Without a reply the wait ends at
the first read; with one, its first line is read whole or is too long, and the rest stays unread. -/
theorem awaitAcceptance_judged (reply : Option String) {device : ScriptedDevice ρ}
    (there : device.input = replyBytes reply) :
    Judges reply (Synthesizer.awaitAcceptance device).1 := by
  rw [Synthesizer.awaitAcceptance_eq, SerialLink.readLine]
  cases reply with
  | none =>
    have silent : SerialLink.readByte device = (.ok none, { device with input := [] }) := by
      simp [SerialLink.readByte, there, replyBytes]
    rw [SerialLink.readLineFrom_silent silent]
    constructor <;> simp [Synthesizer.ending]
  | some answer =>
    obtain ⟨unended, rest, split⟩ := firstLine_ends answer
    have ready : device.input = firstLine answer ++ 0x0a :: rest := there.trans split
    by_cases fits : (firstLine answer).length ≤ 256
    · obtain ⟨after, -, read⟩ :=
        SerialLink.readLineFrom_pending givesPending [] unended fits ready
      have read : (SerialLink.readLineFrom [] SerialLink.longestLine device).1 =
          .ok (SerialLink.lineText (firstLine answer)) := congrArg Prod.fst read
      rw [read, Synthesizer.ending]
      refine ⟨⟨fun outcome => ?_, ?_⟩, nofun, ?_, ?_⟩
      · split at outcome
        · next accepted => exact ⟨answer, rfl, fits, accepted⟩
        · exact nomatch outcome
      · rintro ⟨_, ⟨⟩, -, accepted⟩
        exact if_pos accepted
      · rintro _ ⟨⟩ long
        exact absurd fits (Nat.not_le_of_lt long)
      · rintro _ ⟨⟩ - _ rfl other
        exact if_neg other
    · have read : (SerialLink.readLineFrom [] SerialLink.longestLine device).1 =
          .error .lineTooLong :=
        SerialLink.readLineFrom_overlong givesPending [] unended (Nat.lt_of_not_le fits) ready
      rw [read, Synthesizer.ending]
      refine ⟨⟨nofun, ?_⟩, nofun, ?_, ?_⟩
      · rintro ⟨_, ⟨⟩, short, -⟩
        exact absurd short fits
      · rintro _ ⟨⟩ -
        rfl
      · rintro _ ⟨⟩ short
        exact absurd short fits

/-- Once a text is sent, the reply to its line is all there is to read. What was there before is
dropped, and the line that is answered is the one that the device received. -/
theorem writeLine_run {text : String} (single : '\n' ∉ text.toList) (device : ScriptedDevice ρ) :
    SerialLink.writeLine text device = (.ok (), device.clear.answer (device.received text)) := by
  have clears : SerialLink.clearInput device = (.ok (), device.clear) := rfl
  have writes : SerialLink.write (SerialLink.lineBytes text) device.clear =
      (.ok (), device.clear.write (SerialLink.lineBytes text)) := rfl
  have line : device.clear.received text = device.received text := rfl
  rw [write_lineBytes single, line] at writes
  refine Operation.withCause_run_ok _ ?_
  rw [Operation.bind_run_ok clears, Operation.bind_run_ok writes]
  rfl

/-- A command that waits for an answer is judged by the reply to its line, and one that does not is
carried out, whatever is replied. -/
theorem send_judged {text : String} (single : '\n' ∉ text.toList) (device : ScriptedDevice ρ) :
    Judges (Responder.respond (device.received text) device.responder).1
        (Synthesizer.send ⟨text, true⟩ device).1 ∧
      (Synthesizer.send ⟨text, false⟩ device).1 = .ok () := by
  have sent := Operation.withCause_run_ok SynthError.link (writeLine_run single device)
  constructor
  · have waits : Synthesizer.send ⟨text, true⟩ device =
        Synthesizer.awaitAcceptance (device.clear.answer (device.received text)) :=
      Operation.bind_run_ok sent
    rw [waits]
    exact awaitAcceptance_judged _ rfl
  · have goesOn : Synthesizer.send ⟨text, false⟩ device =
        (.ok (), device.clear.answer (device.received text)) :=
      Operation.bind_run_ok sent
    rw [goesOn]

/-- What a synthesizer behind a scripted device answers, and what the device receives, does not
depend on what was there to read before. A command of one line that waits for an answer is judged by
the reply to that line as the device received it, and one that does not wait is carried out. Nothing
is assumed of the responder, of the calls made before or of a line that waits on the device.

Proof: dropping makes all devices alike that differ in their input only, and calls keep devices
alike. After a line is sent, the reply is the whole input, and reading a line from it judges it. -/
theorem answers_own_command (device : ScriptedDevice ρ) :
    (∀ (stale : Text.Bytes) (calls : List Synthesizer.Call),
      (Synthesizer.carryOutAll calls { device with input := stale }).1 =
          (Synthesizer.carryOutAll calls device).1 ∧
        (Synthesizer.carryOutAll calls { device with input := stale }).2.transcript =
          (Synthesizer.carryOutAll calls device).2.transcript) ∧
      ∀ text : String, '\n' ∉ text.toList →
        (device.unfinished = [] →
          device.received text = String.ofList (Text.trimRight text.toList)) ∧
        Judges (Responder.respond (device.received text) device.responder).1
          (Synthesizer.send ⟨text, true⟩ device).1 ∧
        (Synthesizer.send ⟨text, false⟩ device).1 = .ok () := by
  refine ⟨fun stale calls => ?_, fun text single =>
    ⟨fun complete => received_eq complete text, send_judged single device⟩⟩
  have alike : Synthesizer.AlikeOnceCleared { device with input := stale } device := rfl
  obtain ⟨answers, left⟩ := Synthesizer.carryOutAll_alike alike calls
  have cleared : (Synthesizer.carryOutAll calls { device with input := stale }).2.clear =
      (Synthesizer.carryOutAll calls device).2.clear := (Prod.mk.inj left).2
  have received := congrArg transcript cleared
  exact ⟨answers, received⟩

/-- An acceptance that nobody read does not answer the next command, and neither does a later
line of the reply. -/
theorem answers_own_command_sample :
    let device : ScriptedDevice Script := {
      responder := { replies := [("I p", [some "?5\r\nOK", some "OK"])] }
      input := SerialLink.lineBytes "OK" }
    (Synthesizer.send ⟨"I p", true⟩ device).1 = .error (.unexpectedResponse "?5" "Bad Time") ∧
      (Synthesizer.send ⟨"I p", false⟩ device).1 = .ok () := by
  intro device
  obtain ⟨received, judged, silent⟩ := (answers_own_command device).2 "I p" (by decide)
  have reply : (Responder.respond (device.received "I p") device.responder).1 =
      some "?5\r\nOK" := by
    rw [received rfl]
    decide +kernel
  exact ⟨judged.refused _ reply (by decide +kernel) "?5" (by decide +kernel) (by decide), silent⟩

end ScriptedDevice

end PulseProgram

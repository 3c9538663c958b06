import PulseProgram.Playback

/-!
# What happens at the devices

A witnessed device passes every call on to a device of any behaviour and writes down that it
was made. So the events of an operation are those of its run on a witnessed device, and the
device behind it does not notice.

Programming the synthesizer is a dialogue: however it ends, it reads, flushes and drops input
and writes lines that are commands. It neither opens nor closes a link, and it plays nothing.
-/

namespace PulseProgram

/-- Something that happened at a device. A call that fails is an event as well. -/
inductive DeviceEvent where
  /-- A link was opened. -/
  | opened
  /-- An attempt to open a link failed. -/
  | refused
  | read
  | written (bytes : Text.Bytes)
  | flushed
  | cleared
  | closed
  | played (waveform : Waveform) (clockRate timeout : Binary64)

/-- A device and what happened at it so far. The device may be of any kind, and is not disturbed. -/
structure Witnessed (ω : Type) where
  device : ω
  events : List DeviceEvent

namespace Witnessed

variable {ω ε α : Type}

/-- Passes a call on and adds the event that its outcome makes it. -/
def pass (event : Except ε α → DeviceEvent) (operation : Operation ω ε α) :
    Operation (Witnessed ω) ε α := fun witnessed =>
  let (outcome, device) := operation witnessed.device
  (outcome, ⟨device, witnessed.events ++ [event outcome]⟩)

instance [SerialLink ω] : SerialLink (Witnessed ω) where
  readByte := pass (fun _ => .read) SerialLink.readByte
  write bytes := pass (fun _ => .written bytes) (SerialLink.write bytes)
  flush := pass (fun _ => .flushed) SerialLink.flush
  clearInput := pass (fun _ => .cleared) SerialLink.clearInput

instance [SynthesizerConnection ω] : SynthesizerConnection (Witnessed ω) where
  connect := pass
    (fun | .ok _ => .opened | .error _ => .refused) SynthesizerConnection.connect
  close witnessed :=
    ⟨SynthesizerConnection.close witnessed.device, witnessed.events ++ [.closed]⟩

instance [ClockedOutput ω] : ClockedOutput (Witnessed ω) where
  play waveform clockRate timeout :=
    pass (fun _ => .played waveform clockRate timeout)
      (ClockedOutput.play waveform clockRate timeout)

/-- Opening a link is an event, and so is nothing that came before it. -/
theorem connect_of_ok [SynthesizerConnection ω] {device opened : ω}
    (connected : SynthesizerConnection.connect device = (.ok (), opened))
    (events : List DeviceEvent) :
    SynthesizerConnection.connect (⟨device, events⟩ : Witnessed ω) =
      (.ok (), ⟨opened, events ++ [.opened]⟩) := by
  change pass _ SynthesizerConnection.connect _ = _
  rw [pass, connected]

/-- Failing to open a link is an event. -/
theorem connect_of_error [SynthesizerConnection ω] {device after : ω} {reason : String}
    (refusal : SynthesizerConnection.connect device = (.error reason, after))
    (events : List DeviceEvent) :
    SynthesizerConnection.connect (⟨device, events⟩ : Witnessed ω) =
      (.error reason, ⟨after, events ++ [.refused]⟩) := by
  change pass _ SynthesizerConnection.connect _ = _
  rw [pass, refusal]

/-- Closing a link is an event. -/
theorem close_eq [SynthesizerConnection ω] (device : ω) (events : List DeviceEvent) :
    SynthesizerConnection.close (⟨device, events⟩ : Witnessed ω) =
      ⟨SynthesizerConnection.close device, events ++ [.closed]⟩ := rfl

/-- Putting out a program is one event, whether or not the output fails. -/
theorem putOut_eq [ClockedOutput ω] (program : Program) (device : ω)
    (events : List DeviceEvent) :
    program.putOut (⟨device, events⟩ : Witnessed ω) =
      ((program.putOut device).1, ⟨(program.putOut device).2,
        events ++ [.played program.waveform program.clockRate (program.runtime.ceil + 0.1)]⟩) :=
  rfl

end Witnessed

/-- The events of a dialogue over an open link. Bytes are written only as the line of a command. -/
inductive DeviceEvent.IsDialogue : DeviceEvent → Prop where
  | read : IsDialogue .read
  | flushed : IsDialogue .flushed
  | cleared : IsDialogue .cleared
  | command (command : Command) : IsDialogue (.written (SerialLink.lineBytes command.text))

/-! ## Dialogues -/

section Dialogues

variable {ω ε δ α β : Type}

/-- An operation on a witnessed device does what another does on the device, and whatever it adds to
the events belongs to a dialogue. It says nothing of how the operation ends. -/
def Converses (witnessed : Operation (Witnessed ω) ε α) (bare : Operation ω ε α) : Prop :=
  ∀ device events, ∃ dialogue : List DeviceEvent,
    witnessed ⟨device, events⟩ = ((bare device).1, ⟨(bare device).2, events ++ dialogue⟩) ∧
      ∀ event ∈ dialogue, event.IsDialogue

namespace Converses

/-- What needs no device adds no event. -/
theorem check (outcome : Except ε α) :
    Converses (ω := ω) (Operation.check outcome) (Operation.check outcome) :=
  fun device events => ⟨[], by rw [List.append_nil]; rfl, fun _ absent => nomatch absent⟩

/-- A call of the link is an event. -/
theorem pass {event : DeviceEvent} (dialogue : event.IsDialogue) (operation : Operation ω ε α) :
    Converses (Witnessed.pass (fun _ => event) operation) operation :=
  fun _ _ => ⟨[event], rfl, fun _ member => by rwa [List.mem_singleton.mp member]⟩

/-- The cause of a failure may be told in other terms. Its events are the same. -/
theorem withCause {witnessed : Operation (Witnessed ω) ε α} {bare : Operation ω ε α}
    (converses : Converses witnessed bare) (describe : ε → δ) :
    Converses (witnessed.withCause describe) (bare.withCause describe) := by
  intro device events
  obtain ⟨dialogue, same, allowed⟩ := converses device events
  refine ⟨dialogue, ?_, allowed⟩
  rw [Operation.withCause, same]
  rfl

/-- One dialogue may follow another. If the first one fails, its events are all there are. -/
theorem bind {witnessed : Operation (Witnessed ω) ε α} {bare : Operation ω ε α}
    {goOn : α → Operation (Witnessed ω) ε β} {goOnBare : α → Operation ω ε β}
    (first : Converses witnessed bare) (next : ∀ value, Converses (goOn value) (goOnBare value)) :
    Converses (witnessed >>= goOn) (bare >>= goOnBare) := by
  intro device events
  obtain ⟨dialogue, same, allowed⟩ := first device events
  cases outcome : bare device with
  | mk result after =>
    rw [outcome] at same
    cases result with
    | error cause =>
      refine ⟨dialogue, ?_, allowed⟩
      rw [Operation.bind_run_error same, Operation.bind_run_error outcome]
    | ok value =>
      obtain ⟨later, sameLater, allowedLater⟩ := next value after (events ++ dialogue)
      refine ⟨dialogue ++ later, ?_, ?_⟩
      · rw [Operation.bind_run_ok same, Operation.bind_run_ok outcome, sameLater,
          List.append_assoc]
      · intro event member
        exact (List.mem_append.mp member).elim (allowed event) (allowedLater event)

end Converses

variable [SerialLink ω]

open Converses

/-- Receiving a byte of a line is part of a dialogue, as is what goes on with it. -/
theorem converses_receive (received : Text.Bytes)
    {goOn : UInt8 → Operation (Witnessed ω) LinkError String}
    {goOnBare : UInt8 → Operation ω LinkError String}
    (next : ∀ byte, Converses (goOn byte) (goOnBare byte)) :
    Converses (SerialLink.receive received goOn) (SerialLink.receive received goOnBare) := by
  refine bind ((pass .read _).withCause _) fun byte => ?_
  cases byte with
  | none => exact check _
  | some byte =>
    dsimp only
    split
    · exact check (.ok _)
    · exact next byte

/-- Reading on in a line is a dialogue, for every room that is left. -/
theorem converses_readLineFrom (received : Text.Bytes) (room : Nat) :
    Converses (ω := ω) (SerialLink.readLineFrom received room)
      (SerialLink.readLineFrom received room) := by
  induction room generalizing received with
  | zero => exact converses_receive received fun _ => check _
  | succ room inductionHypothesis =>
    exact converses_receive received fun byte => inductionHypothesis (byte :: received)

/-- Writing the line of a command is a dialogue. The line is the only thing that is written. -/
theorem converses_writeLine (command : Command) :
    Converses (ω := ω) (SerialLink.writeLine command.text) (SerialLink.writeLine command.text) :=
  (bind (pass .cleared _) fun _ => bind (pass (.command command) _) fun _ =>
    pass .flushed _).withCause _

/-- Waiting for an answer is a dialogue. -/
theorem converses_awaitAcceptance :
    Converses (ω := ω) Synthesizer.awaitAcceptance Synthesizer.awaitAcceptance := by
  refine bind ((converses_readLineFrom _ _).withCause _) fun reply => ?_
  split
  · exact check (.ok ())
  · exact check _

/-- Sending a command is a dialogue, whether or not it is answered. -/
theorem converses_send (command : Command) :
    Converses (ω := ω) (Synthesizer.send command) (Synthesizer.send command) := by
  refine bind ((converses_writeLine command).withCause _) fun _ => ?_
  split
  · exact converses_awaitAcceptance
  · exact check (.ok ())

/-- Writing entries of the table is a dialogue, of one command for each entry that can be formed. -/
theorem converses_writeEntries (entries : List Synthesizer.TableEntry) :
    Converses (ω := ω) (Synthesizer.writeEntries entries) (Synthesizer.writeEntries entries) := by
  induction entries with
  | nil => exact check (.ok ())
  | cons entry rest inductionHypothesis =>
    exact bind (bind (check _) fun command => converses_send command) fun _ => inductionHypothesis

/-- Programming a table is a dialogue, however it ends. -/
theorem converses_programTable (rows : List (List Binary64)) :
    Converses (ω := ω) (Synthesizer.programTable rows) (Synthesizer.programTable rows) := by
  have setsUp : Converses (ω := ω) Synthesizer.setUp Synthesizer.setUp :=
    bind (converses_send _) fun _ => bind (converses_send _) fun _ => converses_send _
  exact bind setsUp fun _ => bind (converses_send _) fun _ =>
    bind (converses_writeEntries _) fun _ => converses_send _

end Dialogues

end PulseProgram

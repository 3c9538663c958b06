import PulseProgram.Proofs.Operation
import PulseProgram.Proofs.Playback.Events

/-!
# The order of events in playback

Programs are played one after the other on one setup with a synthesizer, whatever its devices
do. A program without rows only plays. A program with rows opens a link first; if that
fails nothing else happens. Else the rows are loaded in a dialogue, the link is closed
whatever came of it, and the program is played if the rows were loaded.

So nothing is ever played while a link is open, and each link that is opened is closed once.
-/

namespace PulseProgram

variable {ω : Type} [SynthesizerConnection ω]

section Playing

variable [ClockedOutput ω]

/-- Plays programs in turn, each whatever became of the ones before, and collects the
outcomes. -/
def Program.playAll : List Program → ω → List (Except PlaybackError Unit) × ω
  | [], device => ([], device)
  | program :: rest, device =>
    let (outcome, after) := program.play device
    let (outcomes, last) := Program.playAll rest after
    (outcome :: outcomes, last)

/-- What playing a program comes to: the events, the outcome and the device afterwards. The four
ways are told apart by the rows, by the opening of the link and by the loading of the rows. -/
inductive Performs (program : Program) (device : ω) :
    List DeviceEvent → Except PlaybackError Unit → ω → Prop where
  /-- Without rows the program is played and no link is opened. -/
  | unsequenced {outcome : Except PlaybackError Unit} {after : ω}
      (rows : program.rows = [])
      (played : ClockedOutput.play program.waveform program.clockRate
        (program.runtime.ceil + 0.1) device = (outcome, after)) :
      Performs program device
        [.played program.waveform program.clockRate (program.runtime.ceil + 0.1)] outcome after
  /-- If no link opens, nothing else happens. -/
  | refused {reason : String} {after : ω} (rows : program.rows ≠ [])
      (refusal : SynthesizerConnection.connect device = (.error reason, after)) :
      Performs program device [.refused] (.error (.synthesizer (.link (.failed reason)))) after
  /-- If the rows are not loaded, the link is closed and nothing is played. -/
  | unprogrammed {opened broken : ω} {cause : SynthError} {dialogue : List DeviceEvent}
      (rows : program.rows ≠ [])
      (connected : SynthesizerConnection.connect device = (.ok (), opened))
      (failed : Synthesizer.programTable program.table opened = (.error cause, broken))
      (commands : ∀ event ∈ dialogue, event.IsDialogue) :
      Performs program device (.opened :: dialogue ++ [.closed]) (.error (.synthesizer cause))
        (SynthesizerConnection.close broken)
  /-- If the rows are loaded, the link is closed and then the program is played. -/
  | programmed {opened ready after : ω} {outcome : Except PlaybackError Unit}
      {dialogue : List DeviceEvent} (rows : program.rows ≠ [])
      (connected : SynthesizerConnection.connect device = (.ok (), opened))
      (loaded : Synthesizer.programTable program.table opened = (.ok (), ready))
      (commands : ∀ event ∈ dialogue, event.IsDialogue)
      (played : ClockedOutput.play program.waveform program.clockRate
        (program.runtime.ceil + 0.1) (SynthesizerConnection.close ready) = (outcome, after)) :
      Performs program device
        (.opened :: dialogue ++
          [.closed, .played program.waveform program.clockRate (program.runtime.ceil + 0.1)])
        outcome after

/-- What playing programs in turn comes to, with the events of each program. A program is played
whatever became of those before it. -/
inductive PerformsAll : List Program → ω → List (List DeviceEvent) →
    List (Except PlaybackError Unit) → ω → Prop where
  | nil (device : ω) : PerformsAll [] device [] [] device
  | cons {program : Program} {rest : List Program} {device after last : ω}
      {events : List DeviceEvent} {others : List (List DeviceEvent)}
      {outcome : Except PlaybackError Unit} {outcomes : List (Except PlaybackError Unit)}
      (first : Performs program device events outcome after)
      (remaining : PerformsAll rest after others outcomes last) :
      PerformsAll (program :: rest) device (events :: others) (outcome :: outcomes) last

end Playing

/-! ## One program -/

namespace Program

variable {program : Program} {device : ω}

/-- Once the link is open the rows are loaded, and the link is closed in any case. -/
theorem loadRows_of_connected {opened : ω}
    (connected : SynthesizerConnection.connect device = (.ok (), opened)) :
    program.loadRows device =
      ((Synthesizer.programTable program.table opened).1,
        SynthesizerConnection.close (Synthesizer.programTable program.table opened).2) := by
  rw [loadRows, Operation.bind_run_ok (Operation.withCause_run_ok _ connected)]
  rfl

variable [ClockedOutput ω]

/-- Without rows a program is only put out. -/
theorem play_of_no_rows (rows : program.rows = []) :
    program.play device = program.putOut device := by
  rw [play, rows]
  rfl

/-- With rows a program is put out after they are loaded, and not at all if they are not. -/
theorem play_of_rows (rows : program.rows ≠ []) :
    program.play device =
      (program.loadRows.withCause PlaybackError.synthesizer >>= fun _ => program.putOut)
        device := by
  rw [play, if_neg (by rwa [List.isEmpty_iff])]

/-- If no link opens, the program is not put out. There is no link to be closed either. -/
theorem play_refused {reason : String} {after : ω} (rows : program.rows ≠ [])
    (refusal : SynthesizerConnection.connect device = (.error reason, after)) :
    program.play device = (.error (.synthesizer (.link (.failed reason))), after) := by
  have unloaded : program.loadRows device = (.error (.link (.failed reason)), after) :=
    Operation.bind_run_error (Operation.withCause_run_error _ refusal)
  rw [play_of_rows rows, Operation.bind_run_error (Operation.withCause_run_error _ unloaded)]

/-- A program whose rows are not loaded is not put out. The link is closed all the same. -/
theorem play_unprogrammed {opened broken : ω} {cause : SynthError} (rows : program.rows ≠ [])
    (connected : SynthesizerConnection.connect device = (.ok (), opened))
    (failed : Synthesizer.programTable program.table opened = (.error cause, broken)) :
    program.play device =
      (.error (.synthesizer cause), SynthesizerConnection.close broken) := by
  have unloaded : program.loadRows device =
      (.error cause, SynthesizerConnection.close broken) := by
    rw [loadRows_of_connected connected, failed]
  rw [play_of_rows rows, Operation.bind_run_error (Operation.withCause_run_error _ unloaded)]

/-- A program whose rows are loaded is put out after the link is closed. -/
theorem play_programmed {opened ready : ω} (rows : program.rows ≠ [])
    (connected : SynthesizerConnection.connect device = (.ok (), opened))
    (loaded : Synthesizer.programTable program.table opened = (.ok (), ready)) :
    program.play device = program.putOut (SynthesizerConnection.close ready) := by
  have loads : program.loadRows device = (.ok (), SynthesizerConnection.close ready) := by
    rw [loadRows_of_connected connected, loaded]
  rw [play_of_rows rows, Operation.bind_run_ok (Operation.withCause_run_ok _ loads)]

/-- Playing a program on a witnessed device does what it does on the device itself, and adds the
events it comes to.

Proof: the cases are those of `Performs`. Where rows are loaded, the events in between are those of
a dialogue. -/
theorem play_performs (program : Program) (device : ω) (events : List DeviceEvent) :
    ∃ segment, Performs program device segment (program.play device).1 (program.play device).2 ∧
      program.play (⟨device, events⟩ : Witnessed ω) =
        ((program.play device).1, ⟨(program.play device).2, events ++ segment⟩) := by
  by_cases rows : program.rows = []
  · have played : ClockedOutput.play program.waveform program.clockRate
        (program.runtime.ceil + 0.1) device =
        ((program.play device).1, (program.play device).2) := by
      rw [play_of_no_rows rows]
      rfl
    refine ⟨_, .unsequenced rows played, ?_⟩
    rw [play_of_no_rows rows, play_of_no_rows rows]
    rfl
  · cases connected : SynthesizerConnection.connect device with
    | mk attempt opened =>
      cases attempt with
      | error reason =>
        rw [play_refused rows connected,
          play_refused rows (Witnessed.connect_of_error connected events)]
        exact ⟨_, .refused rows connected, rfl⟩
      | ok _ =>
        have opens := Witnessed.connect_of_ok connected events
        obtain ⟨dialogue, same, commands⟩ :=
          converses_programTable program.table opened (events ++ [.opened])
        cases loaded : Synthesizer.programTable program.table opened with
        | mk outcome after =>
          rw [loaded] at same
          cases outcome with
          | error cause =>
            rw [play_unprogrammed rows connected loaded, play_unprogrammed rows opens same]
            refine ⟨_, .unprogrammed rows connected loaded commands, ?_⟩
            rw [Witnessed.close_eq, List.append_assoc, List.append_assoc]
            rfl
          | ok _ =>
            rw [play_programmed rows connected loaded, play_programmed rows opens same]
            refine ⟨_, .programmed rows connected loaded commands rfl, ?_⟩
            rw [Witnessed.close_eq, Witnessed.putOut_eq, List.append_assoc, List.append_assoc,
              List.append_assoc]
            rfl

end Program

/-! ## The link and the output -/

namespace DeviceEvent

/-- Whether the link is open after an event, by whether it was before. An event that must not happen
then has no result: opening an open link, using or closing a closed one, and playing while the link
is open. -/
def follow (opened : Bool) : DeviceEvent → Option Bool
  | .opened => if opened then none else some true
  | .refused => if opened then none else some false
  | .closed => if opened then some false else none
  | .played .. => if opened then none else some false
  | .read | .written _ | .flushed | .cleared => if opened then some true else none

/-- Whether the event is a playback. -/
def isPlayed : DeviceEvent → Bool
  | .played .. => true
  | _ => false

/-- Whether a link was opened. -/
def isOpened : DeviceEvent → Bool
  | .opened => true
  | _ => false

/-- Whether a link was closed. -/
def isClosed : DeviceEvent → Bool
  | .closed => true
  | _ => false

/-- A dialogue goes on over an open link, and neither opens nor closes nor plays. -/
theorem IsDialogue.keeps {event : DeviceEvent} (dialogue : event.IsDialogue) :
    event.follow true = some true ∧ event.isPlayed = false ∧ event.isOpened = false ∧
      event.isClosed = false := by
  cases dialogue <;> exact ⟨rfl, rfl, rfl, rfl⟩

end DeviceEvent

/-- Events between which the link is opened and closed in turn, that use it while it is open and
play while it is closed. The link is closed before and after them. -/
def Orderly (events : List DeviceEvent) : Prop :=
  events.foldlM DeviceEvent.follow false = some false

/-- At most one playback, and a closing for each opening, of which there is at most one. -/
structure AtMostOnce (events : List DeviceEvent) : Prop where
  played : events.countP DeviceEvent.isPlayed ≤ 1
  opened : events.countP DeviceEvent.isOpened ≤ 1
  closed : events.countP DeviceEvent.isClosed = events.countP DeviceEvent.isOpened

section Dialogues

variable {dialogue : List DeviceEvent}

/-- The link is open after a dialogue over a link that was just opened, however long the dialogue
is. -/
theorem follow_dialogue (commands : ∀ event ∈ dialogue, event.IsDialogue)
    (rest : List DeviceEvent) :
    (.opened :: dialogue ++ rest).foldlM DeviceEvent.follow false =
      rest.foldlM DeviceEvent.follow true := by
  have stays : dialogue.foldlM DeviceEvent.follow true = some true := by
    induction dialogue with
    | nil => rfl
    | cons event others inductionHypothesis =>
      obtain ⟨first, commands⟩ := List.forall_mem_cons.mp commands
      rw [List.foldlM_cons, first.keeps.1]
      exact inductionHypothesis commands
  rw [List.foldlM_append, List.foldlM_cons]
  change (dialogue.foldlM DeviceEvent.follow true >>= fun opened =>
    rest.foldlM DeviceEvent.follow opened) = _
  rw [stays]
  rfl

/-- A dialogue adds no events of a kind that it does not have, so what stands around it decides how
many there are. -/
theorem countP_dialogue (commands : ∀ event ∈ dialogue, event.IsDialogue)
    {kind : DeviceEvent → Bool}
    (other : ∀ event : DeviceEvent, event.IsDialogue → kind event = false)
    (rest : List DeviceEvent) :
    (.opened :: dialogue ++ rest).countP kind = (.opened :: rest).countP kind := by
  have absent : dialogue.countP kind = 0 := by
    refine List.countP_eq_zero.mpr fun event member => ?_
    rw [other event (commands event member)]
    exact Bool.false_ne_true
  rw [List.countP_append, List.countP_cons, List.countP_cons, absent, Nat.zero_add,
    Nat.add_comm]

/-- What follows on a dialogue decides how often the program is played and the link closed. -/
theorem atMostOnce_dialogue (commands : ∀ event ∈ dialogue, event.IsDialogue)
    {rest : List DeviceEvent} (ends : AtMostOnce (.opened :: rest)) :
    AtMostOnce (.opened :: dialogue ++ rest) where
  played := by
    rw [countP_dialogue commands fun _ command => command.keeps.2.1]
    exact ends.played
  opened := by
    rw [countP_dialogue commands fun _ command => command.keeps.2.2.1]
    exact ends.opened
  closed := by
    rw [countP_dialogue commands fun _ command => command.keeps.2.2.1,
      countP_dialogue commands fun _ command => command.keeps.2.2.2]
    exact ends.closed

end Dialogues

section Order

variable [ClockedOutput ω] {program : Program} {programs : List Program} {device after : ω}
  {events : List DeviceEvent} {segments : List (List DeviceEvent)}
  {outcome : Except PlaybackError Unit} {outcomes : List (Except PlaybackError Unit)}

/-- The events of a program are in order, with at most one playback and one open link. This is read
from the events of each of the four ways, whatever the dialogue is. -/
theorem Performs.orderly (performs : Performs program device events outcome after) :
    Orderly events ∧ AtMostOnce events := by
  cases performs with
  | unsequenced => exact ⟨rfl, Nat.le_refl 1, Nat.zero_le 1, rfl⟩
  | refused => exact ⟨rfl, Nat.zero_le 1, Nat.zero_le 1, rfl⟩
  | unprogrammed _ _ _ commands =>
    exact ⟨follow_dialogue commands _,
      atMostOnce_dialogue commands ⟨Nat.zero_le 1, Nat.le_refl 1, rfl⟩⟩
  | programmed _ _ _ commands _ =>
    exact ⟨follow_dialogue commands _,
      atMostOnce_dialogue commands ⟨Nat.le_refl 1, Nat.le_refl 1, rfl⟩⟩

/-- The events of programs are in order, and each program has at most one playback and one open
link. The link is closed after each program, so the next one begins as the first did. -/
theorem PerformsAll.orderly (performs : PerformsAll programs device segments outcomes after) :
    Orderly segments.flatten ∧ ∀ events ∈ segments, AtMostOnce events := by
  induction performs with
  | nil => exact ⟨rfl, fun _ absent => nomatch absent⟩
  | cons first remaining inductionHypothesis =>
    obtain ⟨order, once⟩ := first.orderly
    obtain ⟨laterOrder, laterOnce⟩ := inductionHypothesis
    refine ⟨?_, List.forall_mem_cons.mpr ⟨once, laterOnce⟩⟩
    rw [Orderly, List.flatten_cons, List.foldlM_append, order]
    exact laterOrder

/-- Playing programs in turn on a witnessed device comes to their events, one after the other. It is
by induction on the programs, each of which finds the device as the one before has left it. -/
theorem playAll_performs (programs : List Program) (device : ω) (events : List DeviceEvent) :
    ∃ segments,
      PerformsAll programs device segments (Program.playAll programs device).1
        (Program.playAll programs device).2 ∧
      Program.playAll programs (⟨device, events⟩ : Witnessed ω) =
        ((Program.playAll programs device).1,
          ⟨(Program.playAll programs device).2, events ++ segments.flatten⟩) := by
  induction programs generalizing device events with
  | nil =>
    refine ⟨[], .nil device, ?_⟩
    rw [List.flatten_nil, List.append_nil]
    rfl
  | cons program rest inductionHypothesis =>
    obtain ⟨segment, performs, same⟩ := program.play_performs device events
    obtain ⟨segments, others, sameOthers⟩ :=
      inductionHypothesis (program.play device).2 (events ++ segment)
    refine ⟨segment :: segments, .cons performs others, ?_⟩
    rw [Program.playAll, same]
    dsimp only
    rw [sameOthers, List.flatten_cons, List.append_assoc]
    rfl

/-- However the link and the output behave, playing programs in turn comes to the events of each
program in turn. The output never plays while a link is open, every link that is opened is closed
once, and each program is played at most once. Nothing is assumed of the programs or of the devices,
which may fail at any call and differently each time.

Proof: each program comes to one of four sequences of events, each of which is in order by itself
and leaves the link closed. -/
theorem playAll_orderly (programs : List Program) (device : ω) :
    ∃ segments,
      PerformsAll programs device segments (Program.playAll programs device).1
        (Program.playAll programs device).2 ∧
      Program.playAll programs (⟨device, []⟩ : Witnessed ω) =
        ((Program.playAll programs device).1,
          ⟨(Program.playAll programs device).2, segments.flatten⟩) ∧
      Orderly segments.flatten ∧ ∀ events ∈ segments, AtMostOnce events := by
  obtain ⟨segments, performs, same⟩ := playAll_performs programs device []
  exact ⟨segments, performs, same, performs.orderly⟩

end Order

end PulseProgram

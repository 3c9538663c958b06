import PulseProgram.Synthesizer.Programming

/-!
# The traffic of a command

A tapped link passes every call on to a link of any behaviour and keeps what went over it: the
lines that were taken, each as a whole, and the bytes that were given. A call that fails moves
nothing. So the traffic of an operation is that of its run on a tapped link, and the link behind
it does not notice.

However a command ends, no line but its own is taken. If it is carried out, its line was taken,
and for a command that is answered the bytes given after it are one line that accepts it. A link
that lets itself be cleared and then takes what is written takes the line even if the command
fails later, at the flush or for its answer.
-/

namespace PulseProgram

/-- Something that went over a link. -/
inductive Traffic where
  /-- The link took bytes to send. -/
  | took (bytes : Text.Bytes)
  /-- The link gave a byte that it received. -/
  | gave (byte : UInt8)

namespace Traffic

/-- The lines that were taken. -/
def lines (traffic : List Traffic) : List Text.Bytes :=
  traffic.filterMap fun
    | .took bytes => some bytes
    | .gave _ => none

/-- No traffic has no lines. -/
@[simp] theorem lines_nil : lines [] = [] := rfl

/-- The lines of traffic in two parts are those of each part. -/
@[simp] theorem lines_append (first last : List Traffic) :
    lines (first ++ last) = lines first ++ lines last := List.filterMap_append

/-- Bytes that are taken are a line. -/
@[simp] theorem lines_took (bytes : Text.Bytes) (rest : List Traffic) :
    lines (.took bytes :: rest) = bytes :: lines rest := rfl

/-- A byte that is given is no line. -/
@[simp] theorem lines_gave (byte : UInt8) (rest : List Traffic) :
    lines (.gave byte :: rest) = lines rest := rfl

/-- Bytes that are given are no lines. -/
@[simp] theorem lines_map_gave (bytes : Text.Bytes) : lines (bytes.map .gave) = [] := by
  induction bytes with
  | nil => rfl
  | cons byte rest inductionHypothesis => simpa using inductionHypothesis

end Traffic

/-- A link and what went over it so far. The link may be of any kind; tapping it needs no access to
what it does. -/
structure Tapped (σ : Type) where
  link : σ
  traffic : List Traffic

namespace Tapped

variable {σ ε α : Type}

/-- Passes a call on and keeps what it moved, if it did not fail. -/
def pass (moved : α → List Traffic) (operation : Operation σ ε α) :
    Operation (Tapped σ) ε α := fun tapped =>
  match operation tapped.link with
  | (.ok value, link) => (.ok value, ⟨link, tapped.traffic ++ moved value⟩)
  | (.error cause, link) => (.error cause, ⟨link, tapped.traffic⟩)

instance [SerialLink σ] : SerialLink (Tapped σ) where
  readByte := pass (fun byte => byte.toList.map .gave) SerialLink.readByte
  write bytes := pass (fun _ => [.took bytes]) (SerialLink.write bytes)
  flush := pass (fun _ => []) SerialLink.flush
  clearInput := pass (fun _ => []) SerialLink.clearInput

end Tapped

/-! ## Operations and their traffic -/

section Moves

variable {σ ε δ α β : Type}

/-- What is said of traffic by how its operation ended. -/
def EndsWith (done : α → List Traffic → Prop) (broken : List Traffic → Prop) :
    Except ε α → List Traffic → Prop
  | .ok value, moved => done value moved
  | .error _, moved => broken moved

/-- An operation on a tapped link does what another does on the link. What it moves satisfies `done`
if it succeeds and `broken` if it fails. So one statement says that tapping disturbs nothing and
what the traffic is. -/
def Moves (tapped : Operation (Tapped σ) ε α) (bare : Operation σ ε α)
    (done : α → List Traffic → Prop) (broken : List Traffic → Prop) : Prop :=
  ∀ link traffic, ∃ moved,
    tapped ⟨link, traffic⟩ = ((bare link).1, ⟨(bare link).2, traffic ++ moved⟩) ∧
      EndsWith done broken (bare link).1 moved

namespace Moves

/-- What needs no link moves nothing. -/
theorem check {done : α → List Traffic → Prop} {broken : List Traffic → Prop}
    (outcome : Except ε α) (ended : EndsWith done broken outcome []) :
    Moves (σ := σ) (Operation.check outcome) (Operation.check outcome) done broken := by
  intro link traffic
  refine ⟨[], ?_, ended⟩
  rw [List.append_nil]
  rfl

/-- A call of the link moves what it is said to move, or nothing. -/
theorem pass {done : α → List Traffic → Prop} {broken : List Traffic → Prop}
    (moved : α → List Traffic) (operation : Operation σ ε α)
    (succeeds : ∀ value, done value (moved value)) (fails : broken []) :
    Moves (Tapped.pass moved operation) operation done broken := by
  intro link traffic
  rw [Tapped.pass]
  cases outcome : operation link with
  | mk result after =>
    cases result with
    | ok value => exact ⟨moved value, rfl, succeeds value⟩
    | error cause => exact ⟨[], by rw [List.append_nil], fails⟩

/-- The cause of a failure may be told in other terms. -/
theorem withCause {done : α → List Traffic → Prop} {broken : List Traffic → Prop}
    {tapped : Operation (Tapped σ) ε α} {bare : Operation σ ε α}
    (moves : Moves tapped bare done broken) (describe : ε → δ) :
    Moves (tapped.withCause describe) (bare.withCause describe) done broken := by
  intro link traffic
  obtain ⟨moved, same, ended⟩ := moves link traffic
  refine ⟨moved, ?_, ?_⟩
  · rw [Operation.withCause, same]
    rfl
  · rw [Operation.withCause]
    cases result : (bare link).1 with
    | ok value => rwa [result] at ended
    | error cause => rwa [result] at ended

/-- Operations one after the other move first what the first one moves. What is said of the whole
has to hold of that already if the first one fails, and of both parts together otherwise. -/
theorem bind {before : α → List Traffic → Prop} {after : β → List Traffic → Prop}
    {broken : List Traffic → Prop} {tapped : Operation (Tapped σ) ε α} {bare : Operation σ ε α}
    {goOn : α → Operation (Tapped σ) ε β} {goOnBare : α → Operation σ ε β}
    (first : Moves tapped bare before broken)
    (next : ∀ value, Moves (goOn value) (goOnBare value)
      (fun result later => ∀ earlier, before value earlier → after result (earlier ++ later))
      (fun later => ∀ earlier, before value earlier → broken (earlier ++ later))) :
    Moves (tapped >>= goOn) (bare >>= goOnBare) after broken := by
  intro link traffic
  obtain ⟨earlier, same, ended⟩ := first link traffic
  cases outcome : bare link with
  | mk result reached =>
    rw [outcome] at same ended
    cases result with
    | error cause =>
      refine ⟨earlier, ?_, ?_⟩
      · rw [Operation.bind_run_error same, Operation.bind_run_error outcome]
      · rw [Operation.bind_run_error outcome]
        exact ended
    | ok value =>
      obtain ⟨later, sameLater, endedLater⟩ := next value reached (traffic ++ earlier)
      refine ⟨earlier ++ later, ?_, ?_⟩
      · rw [Operation.bind_run_ok same, Operation.bind_run_ok outcome, sameLater,
          List.append_assoc]
      · rw [Operation.bind_run_ok outcome]
        cases final : (goOnBare value reached).1 with
        | ok value =>
          rw [final] at endedLater
          exact endedLater earlier ended
        | error cause =>
          rw [final] at endedLater
          exact endedLater earlier ended

end Moves

end Moves

/-! ## Lines and commands -/

section Commands

variable {σ : Type} [SerialLink σ]

/-- The bytes given are the rest of a line of which some were received before, the latest first, up
to its line feed. The line feed itself is given as well. -/
def GivesLine (received : Text.Bytes) (line : String) (moved : List Traffic) : Prop :=
  ∃ bytes, 0x0a ∉ bytes ∧ line = SerialLink.lineText (received.reverse ++ bytes) ∧
    moved = (bytes ++ [0x0a]).map .gave

/-- No line is taken. -/
def TakesNone (moved : List Traffic) : Prop := Traffic.lines moved = []

/-- Receiving a byte of a line gives the line if that byte ends it, and else what goes on gives the
rest. An empty read gives nothing and fails. -/
theorem moves_receive (received : Text.Bytes)
    {goOn : UInt8 → Operation (Tapped σ) LinkError String}
    {goOnBare : UInt8 → Operation σ LinkError String}
    (next : ∀ byte, Moves (goOn byte) (goOnBare byte) (GivesLine (byte :: received)) TakesNone) :
    Moves (SerialLink.receive received goOn) (SerialLink.receive received goOnBare)
      (GivesLine received) TakesNone := by
  have reads : Moves (σ := σ) (SerialLink.readByte.withCause LinkError.failed)
      (SerialLink.readByte.withCause LinkError.failed)
      (fun byte moved => moved = byte.toList.map .gave) TakesNone := by
    refine Moves.withCause ?_ _
    exact Moves.pass (fun byte : Option UInt8 => byte.toList.map .gave) _ (fun _ => rfl) rfl
  refine reads.bind fun byte => ?_
  cases byte with
  | none =>
    apply Moves.check
    rintro earlier rfl
    rfl
  | some byte =>
    dsimp only
    split
    · next ends =>
      subst ends
      apply Moves.check (.ok (SerialLink.lineText received.reverse))
      rintro earlier rfl
      exact ⟨[], List.not_mem_nil, by rw [List.append_nil], rfl⟩
    · next more =>
      intro link traffic
      obtain ⟨moved, same, ended⟩ := next byte link traffic
      refine ⟨moved, same, ?_⟩
      cases result : (goOnBare byte link).1 with
      | ok line =>
        rw [result] at ended
        obtain ⟨bytes, unended, rfl, rfl⟩ := ended
        rintro earlier rfl
        refine ⟨byte :: bytes, ?_, ?_, rfl⟩
        · simp [unended, Ne.symm more]
        · simp
      | error cause =>
        rw [result] at ended
        rintro earlier rfl
        exact ended

/-- Reading on in a line gives the rest of it, for every room that is left. If it fails, bytes may
have been given, but no line was taken. -/
theorem moves_readLineFrom (received : Text.Bytes) (room : Nat) :
    Moves (σ := σ) (SerialLink.readLineFrom received room) (SerialLink.readLineFrom received room)
      (GivesLine received) TakesNone := by
  induction room generalizing received with
  | zero => exact moves_receive received fun byte => Moves.check _ rfl
  | succ room inductionHypothesis =>
    exact moves_receive received fun byte => inductionHypothesis (byte :: received)

/-- The line of a command as it is sent. -/
def Command.line (command : Command) : Text.Bytes := SerialLink.lineBytes command.text

/-- The traffic of a command that is carried out. -/
inductive CarriedOut (command : Command) : List Traffic → Prop where
  | silent (unanswered : command.answered = false) : CarriedOut command [.took command.line]
  /-- The bytes given are one line that accepts the command. -/
  | accepted {reply : Text.Bytes} (answered : command.answered = true) (unended : 0x0a ∉ reply)
      (accepts : SerialLink.lineText reply = Synthesizer.acceptance) :
      CarriedOut command (.took command.line :: (reply ++ [0x0a]).map .gave)

/-- A command that is carried out moves one line, its own. -/
theorem CarriedOut.lines_eq {command : Command} {moved : List Traffic}
    (carriedOut : CarriedOut command moved) : Traffic.lines moved = [command.line] := by
  cases carriedOut with
  | silent unanswered => rfl
  | accepted answered unended accepts => simp

/-- The traffic of a command that fails: no line but its own is taken. Whether that line was taken
depends on where it failed. -/
def BrokenOff (command : Command) (moved : List Traffic) : Prop :=
  Traffic.lines moved = [] ∨ Traffic.lines moved = [command.line]

/-- Writing the line of a command moves the line, if it succeeds. If it fails, the line was taken at
most: the flush comes after the write. -/
theorem moves_writeLine (command : Command) :
    Moves (σ := σ) (SerialLink.writeLine command.text) (SerialLink.writeLine command.text)
      (fun _ moved => moved = [.took command.line]) (BrokenOff command) := by
  have clears : Moves (σ := σ) SerialLink.clearInput SerialLink.clearInput
      (fun _ moved => moved = []) (BrokenOff command) :=
    Moves.pass _ _ (fun _ => rfl) (.inl rfl)
  refine Moves.withCause (clears.bind fun _ => ?_) _
  have writes : Moves (σ := σ) (SerialLink.write (SerialLink.lineBytes command.text))
      (SerialLink.write (SerialLink.lineBytes command.text))
      (fun _ moved => moved = [.took command.line])
      (fun later => ∀ earlier, earlier = [] → BrokenOff command (earlier ++ later)) := by
    refine Moves.pass _ _ (fun _ => rfl) ?_
    rintro earlier rfl
    exact .inl rfl
  refine writes.bind fun _ => Moves.pass _ _ ?_ ?_
  · rintro - written rfl earlier rfl
    rfl
  · rintro written rfl earlier rfl
    exact .inr rfl

/-- Waiting for an answer moves one line that is an acceptance, if it succeeds. -/
theorem moves_awaitAcceptance :
    Moves (σ := σ) Synthesizer.awaitAcceptance Synthesizer.awaitAcceptance
      (fun _ moved => GivesLine [] Synthesizer.acceptance moved) TakesNone := by
  refine ((moves_readLineFrom [] _).withCause _).bind fun reply => ?_
  split
  · next accepts =>
    subst accepts
    apply Moves.check (.ok ())
    intro earlier gives
    rwa [List.append_nil]
  · apply Moves.check
    rintro earlier ⟨bytes, -, -, rfl⟩
    simp [TakesNone]

/-- Sending a command moves its line and, if it is answered, an acceptance; if it fails, at most its
line. Nothing is assumed of the link, so any of its calls may fail at any time. -/
theorem moves_send (command : Command) :
    Moves (σ := σ) (Synthesizer.send command) (Synthesizer.send command)
      (fun _ moved => CarriedOut command moved) (BrokenOff command) := by
  refine ((moves_writeLine command).withCause _).bind fun _ => ?_
  split
  · next answered =>
    intro link traffic
    obtain ⟨moved, same, ended⟩ := moves_awaitAcceptance link traffic
    refine ⟨moved, same, ?_⟩
    cases result : (Synthesizer.awaitAcceptance link).1 with
    | ok value =>
      rw [result] at ended
      obtain ⟨reply, unended, accepts, rfl⟩ := ended
      rintro earlier rfl
      exact .accepted answered unended accepts.symm
    | error cause =>
      rw [result] at ended
      rintro earlier rfl
      exact .inr (congrArg (command.line :: ·) ended)
  · next unanswered =>
    apply Moves.check (.ok ())
    rintro earlier rfl
    exact .silent (Bool.eq_false_iff.mpr unanswered)

/-! ## Links that take every line -/

/-- The link lets itself be cleared and then takes any bytes. -/
def TakesLines (link : σ) : Prop :=
  ∀ bytes, ∃ cleared after, SerialLink.clearInput link = (.ok (), cleared) ∧
    SerialLink.write bytes cleared = (.ok (), after)

/-- A flush moves nothing. -/
theorem Tapped.flush_traffic (tapped : Tapped σ) :
    (SerialLink.flush tapped).2.traffic = tapped.traffic := by
  change (Tapped.pass (fun _ => []) SerialLink.flush tapped).2.traffic = _
  rw [Tapped.pass]
  split
  · exact List.append_nil _
  · rfl

/-- Writing a line moves it, even if the flush behind it fails. A line that was taken is not taken
back. -/
theorem TakesLines.writeLine {link : σ} (takes : TakesLines link) (text : String) :
    (SerialLink.writeLine text (Tapped.mk link [])).2.traffic =
      [.took (SerialLink.lineBytes text)] := by
  obtain ⟨cleared, written, clears, writes⟩ := takes (SerialLink.lineBytes text)
  have tappedClears : SerialLink.clearInput (Tapped.mk link []) = (.ok (), ⟨cleared, []⟩) := by
    change Tapped.pass (fun _ => []) SerialLink.clearInput (Tapped.mk link []) = _
    simp only [Tapped.pass, clears, List.append_nil]
  have tappedWrites : SerialLink.write (SerialLink.lineBytes text) (Tapped.mk cleared []) =
      (.ok (), ⟨written, [.took (SerialLink.lineBytes text)]⟩) := by
    change Tapped.pass (fun _ => [.took (SerialLink.lineBytes text)])
      (SerialLink.write (SerialLink.lineBytes text)) (Tapped.mk cleared []) = _
    simp only [Tapped.pass, writes, List.nil_append]
  have moved : (do
      SerialLink.clearInput
      SerialLink.write (SerialLink.lineBytes text)
      SerialLink.flush : Operation (Tapped σ) String Unit) ⟨link, []⟩ =
        SerialLink.flush ⟨written, [.took (SerialLink.lineBytes text)]⟩ := by
    rw [Operation.bind_run_ok tappedClears]
    exact Operation.bind_run_ok tappedWrites
  rw [SerialLink.writeLine, Operation.withCause, moved]
  exact Tapped.flush_traffic _

/-- Of a command that is sent, the link takes the line and no other, whatever becomes of the flush
and of the answer. So a failure does not tell that the device did not get the command. -/
theorem TakesLines.send {link : σ} (takes : TakesLines link) (command : Command) :
    Traffic.lines (Synthesizer.send command (Tapped.mk link [])).2.traffic = [command.line] := by
  have written : ((SerialLink.writeLine command.text).withCause SynthError.link
      (Tapped.mk link [])).2.traffic = [.took command.line] := takes.writeLine command.text
  cases outcome : (SerialLink.writeLine command.text).withCause SynthError.link
      (Tapped.mk link []) with
  | mk result reached =>
    rw [outcome] at written
    cases result with
    | error cause =>
      have ended : Synthesizer.send command (Tapped.mk link []) = (.error cause, reached) :=
        Operation.bind_run_error outcome
      rw [ended, written]
      rfl
    | ok value =>
      have goesOn : Synthesizer.send command (Tapped.mk link []) =
          (if command.answered then Synthesizer.awaitAcceptance else pure () :
            Operation (Tapped σ) SynthError Unit) reached := Operation.bind_run_ok outcome
      rw [goesOn]
      split
      · obtain ⟨answer, waited, ended⟩ := moves_awaitAcceptance reached.link reached.traffic
        have silent : Traffic.lines answer = [] := by
          cases accepted :
              (Synthesizer.awaitAcceptance reached.link : Except SynthError Unit × σ).1 with
          | error cause =>
            rw [accepted] at ended
            exact ended
          | ok value =>
            rw [accepted] at ended
            obtain ⟨bytes, -, -, rfl⟩ := ended
            exact Traffic.lines_map_gave _
        rw [waited, Traffic.lines_append, written, silent]
        rfl
      · rw [Operation.pure_run, written]
        rfl

end Commands

end PulseProgram

import Mathlib.Data.List.Forall2
import PulseProgram.Proofs.Operation
import PulseProgram.Proofs.Synthesizer.Traffic

/-!
# Dialogues

Commands are gone through in turn. The first that could not be formed or is not carried out
ends the dialogue, and then nothing more is sent. So whatever the link does, the lines that are
taken are those of the commands as far as they came, and all of them if the dialogue ends well.
-/

namespace PulseProgram

namespace Synthesizer

/-! ## Commands in turn -/

section InTurn

variable {τ : Type} [Synthesizer τ]

/-- A command that could be formed is sent. -/
@[simp] theorem request_ok (command : Command) :
    (request (.ok command) : Operation τ SynthError Unit) = send command := rfl

/-- Sends commands one after the other, as far as they could be formed. The first failure ends
it. -/
def requestAll : List (Except SynthError Command) → Operation τ SynthError Unit
  | [] => return ()
  | command :: rest => do
    request command
    requestAll rest

/-- Commands in two parts are sent part after part. -/
theorem requestAll_append (first last : List (Except SynthError Command)) :
    (requestAll (first ++ last) : Operation τ SynthError Unit) =
      (do requestAll first; requestAll last) := by
  induction first with
  | nil => rfl
  | cons command rest inductionHypothesis =>
    simp only [List.cons_append, requestAll, inductionHypothesis, bind_assoc]

/-- Writing entries is going through their commands. -/
theorem writeEntries_eq (entries : List TableEntry) :
    (writeEntries entries : Operation τ SynthError Unit) =
      requestAll (entries.map Command.tableEntry) := by
  induction entries with
  | nil => rfl
  | cons entry rest inductionHypothesis =>
    rw [writeEntries, inductionHypothesis]
    rfl

end InTurn

/-- Commands up to the first that could not be formed. -/
def formed : List (Except SynthError Command) → List Command
  | .ok command :: rest => command :: formed rest
  | _ => []

/-- Commands as lines. -/
def wire (commands : List Command) : List Text.Bytes := commands.map Command.line

/-- The line of the first command comes first. -/
@[simp] theorem wire_cons (command : Command) (rest : List Command) :
    wire (command :: rest) = command.line :: wire rest := rfl

/-- The lines of commands in two parts are those of each part. -/
@[simp] theorem wire_append (first last : List Command) :
    wire (first ++ last) = wire first ++ wire last := List.map_append

/-- The line of a command that could be formed. -/
def lineOf (command : Except SynthError Command) : Option Text.Bytes :=
  command.toOption.map Command.line

/-- The lines up to the first command that could not be formed are among those of all, at their
beginning. -/
theorem wire_formed_begins (commands : List (Except SynthError Command)) :
    wire (formed commands) <+: commands.filterMap lineOf := by
  induction commands with
  | nil => exact List.nil_prefix
  | cons command rest inductionHypothesis =>
    cases command with
    | error cause => exact List.nil_prefix
    | ok command => exact List.cons_prefix_cons.mpr ⟨rfl, inductionHypothesis⟩

/-- What comes after commands is reached if all of them could be formed, and else nothing of it is.
Which of the two holds is decided by the commands alone and not by the link. -/
theorem formed_append (commands rest : List (Except SynthError Command)) :
    commands = (formed commands).map .ok ∧
        formed (commands ++ rest) = formed commands ++ formed rest ∨
      formed (commands ++ rest) = formed commands := by
  induction commands with
  | nil => exact .inl ⟨rfl, rfl⟩
  | cons command commands inductionHypothesis =>
    cases command with
    | error cause => exact .inr rfl
    | ok command =>
      rcases inductionHypothesis with ⟨all, same⟩ | same
      · exact .inl ⟨congrArg (.ok command :: ·) all, congrArg (command :: ·) same⟩
      · exact .inr (congrArg (command :: ·) same)

/-! ## The dialogue on a link -/

section Dialogue

variable {σ : Type} [SerialLink σ]

/-- How commands are gone through on a link, from the state it is in to what comes of it, and what
goes over the link. The first failure is the last turn. -/
inductive Dialogue : List (Except SynthError Command) → σ → Except SynthError Unit × σ →
    List Traffic → Prop where
  | finished (link : σ) : Dialogue [] link (.ok (), link) []
  /-- A command fails. It took its line at most, and nothing comes after it. -/
  | broken {command : Except SynthError Command} {rest : List (Except SynthError Command)}
      {link after : σ} {cause : SynthError} {moved : List Traffic}
      (fails : request command link = (.error cause, after))
      (atMost : Traffic.lines moved <+: wire (formed [command])) :
      Dialogue (command :: rest) link (.error cause, after) moved
  | goesOn {command : Command} {rest : List (Except SynthError Command)} {link reached : σ}
      {ended : Except SynthError Unit × σ} {moved later : List Traffic}
      (succeeds : request (.ok command) link = (.ok (), reached))
      (carriedOut : CarriedOut command moved) (dialogue : Dialogue rest reached ended later) :
      Dialogue (.ok command :: rest) link ended (moved ++ later)

/-- Whatever the link does, going through commands is a dialogue. The tapped link goes on exactly
where the link itself does, so the induction is on the commands and follows both at once. -/
theorem requestAll_dialogue (commands : List (Except SynthError Command)) (link : σ)
    (traffic : List Traffic) :
    ∃ moved, requestAll commands (⟨link, traffic⟩ : Tapped σ) =
        ((requestAll commands link).1, ⟨(requestAll commands link).2, traffic ++ moved⟩) ∧
      Dialogue commands link (requestAll commands link) moved := by
  induction commands generalizing link traffic with
  | nil => exact ⟨[], by rw [List.append_nil]; rfl, .finished link⟩
  | cons command rest inductionHypothesis =>
    cases command with
    | error cause => exact ⟨[], by rw [List.append_nil]; rfl, .broken rfl List.nil_prefix⟩
    | ok command =>
      obtain ⟨moved, same, ended⟩ := moves_send command link traffic
      cases outcome : Synthesizer.send command link with
      | mk result reached =>
        rw [outcome] at same ended
        cases result with
        | error cause =>
          have fails : requestAll (.ok command :: rest) link = (.error cause, reached) :=
            Operation.bind_run_error outcome
          have failsTapped : requestAll (.ok command :: rest) (⟨link, traffic⟩ : Tapped σ) =
              (.error cause, ⟨reached, traffic ++ moved⟩) := Operation.bind_run_error same
          refine ⟨moved, ?_, ?_⟩
          · rw [fails]
            exact failsTapped
          · rw [fails]
            refine .broken outcome ?_
            cases ended with
            | inl none => rw [none]; exact List.nil_prefix
            | inr own => rw [own]; exact List.prefix_refl _
        | ok value =>
          obtain ⟨later, sameLater, dialogue⟩ := inductionHypothesis reached (traffic ++ moved)
          have goesOn : requestAll (.ok command :: rest) link = requestAll rest reached :=
            Operation.bind_run_ok outcome
          have goesOnTapped : requestAll (.ok command :: rest) (⟨link, traffic⟩ : Tapped σ) =
              requestAll rest ⟨reached, traffic ++ moved⟩ := Operation.bind_run_ok same
          refine ⟨moved ++ later, ?_, ?_⟩
          · rw [goesOn, ← List.append_assoc, ← sameLater]
            exact goesOnTapped
          · rw [goesOn]
            exact .goesOn outcome ended dialogue

namespace Dialogue

variable {commands : List (Except SynthError Command)} {link : σ}
  {ended : Except SynthError Unit × σ} {moved : List Traffic}

/-- The lines are those of the commands that could be formed, as far as they came. This holds of
every dialogue, however it ends. -/
theorem lines_begin (dialogue : Dialogue commands link ended moved) :
    Traffic.lines moved <+: wire (formed commands) := by
  induction dialogue with
  | finished link => exact List.nil_prefix
  | @broken command rest link after cause moved fails atMost =>
    cases command with
    | error cause => exact atMost
    | ok command => exact atMost.trans (List.prefix_append [command.line] (wire (formed rest)))
  | goesOn succeeds carriedOut dialogue inductionHypothesis =>
    rw [Traffic.lines_append, carriedOut.lines_eq]
    exact List.cons_prefix_cons.mpr ⟨rfl, inductionHypothesis⟩

/-- A dialogue that ends well carries out every command, so all of them could be formed, and the
traffic is that of each command in turn. -/
theorem complete (dialogue : Dialogue commands link ended moved) (well : ended.1 = .ok ()) :
    ∃ (formed : List Command) (parts : List (List Traffic)),
      commands = formed.map .ok ∧ List.Forall₂ CarriedOut formed parts ∧ moved = parts.flatten := by
  induction dialogue with
  | finished link => exact ⟨[], [], rfl, .nil, rfl⟩
  | broken fails atMost => contradiction
  | @goesOn command rest link reached ended moved later succeeds carriedOut dialogue
      inductionHypothesis =>
    obtain ⟨formed, parts, rfl, all, rfl⟩ := inductionHypothesis well
    exact ⟨command :: formed, moved :: parts, rfl, .cons carriedOut all, rfl⟩

/-- A dialogue that ends badly does so at one of the commands: those before it were carried out, and
nothing was sent after it. The command at which it ends may have failed to be formed, or on the
link. -/
theorem broken_at {cause : SynthError} (dialogue : Dialogue commands link ended moved)
    (badly : ended.1 = .error cause) :
    ∃ (number : Nat) (command : Except SynthError Command) (reached : σ),
      commands[number]? = some command ∧
      requestAll (commands.take number) link = (.ok (), reached) ∧
      request command reached = (.error cause, ended.2) ∧
      wire (formed (commands.take number)) <+: Traffic.lines moved ∧
      Traffic.lines moved <+: wire (formed (commands.take (number + 1))) := by
  induction dialogue with
  | finished link => contradiction
  | @broken command rest link after reason moved fails atMost =>
    cases badly
    exact ⟨0, command, link, rfl, rfl, fails, List.nil_prefix, atMost⟩
  | @goesOn command rest link reached ended moved later succeeds carriedOut dialogue
      inductionHypothesis =>
    obtain ⟨number, failing, before, present, carried, fails, atLeast, atMost⟩ :=
      inductionHypothesis badly
    refine ⟨number + 1, failing, before, present, ?_, fails, ?_, ?_⟩
    · rw [List.take_succ_cons, ← carried]
      exact Operation.bind_run_ok succeeds
    · rw [Traffic.lines_append, carriedOut.lines_eq]
      exact List.cons_prefix_cons.mpr ⟨rfl, atLeast⟩
    · rw [Traffic.lines_append, carriedOut.lines_eq]
      exact List.cons_prefix_cons.mpr ⟨rfl, atMost⟩

end Dialogue

end Dialogue

end Synthesizer

end PulseProgram

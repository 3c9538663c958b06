import PulseProgram.Proofs.Daq.Calls

/-!
# Playing a waveform clears the task

A waveform is played with one task. The task is created, given its lines, clock and samples,
started, waited for and stopped, and these steps end at the first one that fails. A device whose
name has a NUL is refused after the task has been created. Whatever became of the steps, a task
that was created is cleared once, and how this goes makes no difference to the outcome.

Nothing is assumed of the library: each call may have any status, and the library may answer
the next call as it likes.
-/

namespace PulseProgram

/-- The calls for a task that has been created, up to the one that stops it. Their arguments are
those of the waveform and do not depend on what was answered before. -/
def playCalls (device : String) (waveform : Waveform) (rate timeout : Binary64)
    (task : TaskHandle) : List DaqCall :=
  [.digitalOutput task (DaqOutput.wordLines device) "" DaqTask.oneChannelForAllLines,
    .sampleClock task "" rate DaqTask.risingEdge DaqTask.finiteSamples waveform.length,
    .writeDigital task (.ofNat waveform.length) false timeout DaqTask.groupedByChannel waveform,
    .startTask task,
    .waitUntilTaskDone task timeout,
    .stopTask task]

/-- Why a device whose name has a NUL is refused. -/
def nulRefusal (device : String) : PlaybackError :=
  .daq 0 (Text.quoted (DaqOutput.wordLines device) ++ " contains a NUL byte")

/-- The lines of a device have a NUL exactly if its name has one. What is put behind the name has
none. -/
theorem nul_mem_wordLines_iff (device : String) :
    '\x00' ∈ (DaqOutput.wordLines device).toList ↔ '\x00' ∈ device.toList := by
  have banks : List.range 4 = [0, 1, 2, 3] := rfl
  have digits : ∀ bank ∈ [1, 2, 3], '\x00' ∉ Nat.toDigits 10 bank := by decide
  simp only [List.forall_mem_cons] at digits
  simp [DaqOutput.wordLines, banks, digits, String.intercalate_cons_cons]

/-! ## Texts handed to the library -/

section Texts

variable {δ : Type} {text : String}

/-- A text without a NUL is not refused. -/
theorem checkText_eq_pure (named : '\x00' ∉ text.toList) :
    (DaqLibrary.checkText text : Operation δ PlaybackError Unit) = pure () := by
  funext library
  simp [DaqLibrary.checkText, Operation.check, named]

/-- A text with a NUL is refused without a call, and the library is left as it is. -/
theorem checkText_refuses (nul : '\x00' ∈ text.toList) (library : δ) :
    DaqLibrary.checkText text library =
      (.error (.daq 0 (Text.quoted text ++ " contains a NUL byte")), library) := by
  simp [DaqLibrary.checkText, Operation.check, nul]

end Texts

/-! ## Playing as calls in turn -/

section Steps

variable {δ : Type} [DaqLibrary δ]

/-- A call that does not wait reports its failures as they are, so it is one exchange like any
other. -/
theorem call_eq_carryOut {call : DaqCall}
    (direct : ∀ task timeout, call ≠ .waitUntilTaskDone task timeout) :
    (DaqLibrary.call call : Operation δ PlaybackError DaqReply) = carryOut call := by
  have plain (status : Int32) (text : String) : call.cause status text = .daq status text := by
    cases call <;> simp_all [DaqCall.cause]
  funext library
  cases performed : DaqLibrary.call call library with
  | mk result after =>
    cases result with
    | ok reply => exact (Operation.withCause_run_ok _ performed).symm
    | error cause =>
      rw [carryOut, Operation.withCause_run_error _ performed]
      cases cause <;> simp [plain]

/-- A wait is a call that reports its failures as a wait does. -/
theorem waitUntilDone_eq (task : TaskHandle) (timeout : Binary64) :
    (DaqTask.waitUntilDone ⟨task⟩ timeout : Operation δ PlaybackError Unit) =
      carryOutAll [.waitUntilTaskDone task timeout] := by
  simp only [DaqTask.waitUntilDone, DaqLibrary.command, carryOutAll, bind_pure_comp,
    Operation.withCause_map, carryOut]
  rfl

/-- Makes the calls for a task unless the lines are refused. The lines are made from the name of the
device, so they can be looked at before any call. -/
def useTask (device : String) (waveform : Waveform) (rate timeout : Binary64)
    (task : TaskHandle) : Operation δ PlaybackError Unit := do
  DaqLibrary.checkText (DaqOutput.wordLines device)
  carryOutAll (playCalls device waveform rate timeout task)

/-- A task is created with one call, then used and cleared. The form with a list of calls does what
the form with one operation for each of them does. -/
theorem playOn_eq (device : String) (waveform : Waveform) (rate timeout : Binary64) :
    (DaqOutput.playOn device waveform rate timeout : Operation δ PlaybackError Unit) =
      carryOut (.createTask "") >>= fun created =>
        (useTask device waveform rate timeout created.task).thenAlways
          (carryOutAll [.clearTask created.task]) := by
  have unnamed : (DaqLibrary.checkText "" : Operation δ PlaybackError Unit) = pure () :=
    checkText_eq_pure (by simp)
  simp [useTask, DaqOutput.playOn, DaqTask.withTask, DaqTask.create, DaqTask.addOutput,
    DaqTask.configureClock, DaqTask.write, DaqTask.start, DaqTask.stop, DaqTask.clear,
    DaqLibrary.command, waitUntilDone_eq, unnamed, playCalls, carryOutAll, call_eq_carryOut]

end Steps

/-! ## What playing comes to -/

section Playing

variable (device : String) (waveform : Waveform) (rate timeout : Binary64)

/-- What using a task comes to. The two ways exclude each other by the name of the device. -/
inductive Uses (task : TaskHandle) : List Exchange → Except PlaybackError Unit → Prop where
  /-- A name with a NUL is refused before any call. -/
  | refused (nul : '\x00' ∈ device.toList) : Uses task [] (.error (nulRefusal device))
  /-- Else the calls are made in turn. -/
  | carriedOut {used : List Exchange} {outcome : Except PlaybackError Unit}
      (named : '\x00' ∉ device.toList)
      (series : Series (playCalls device waveform rate timeout task) used outcome) :
      Uses task used outcome

/-- What playing a waveform comes to: the exchange that creates a task, those that use it and those
that clear it, and the outcome. The exchange that clears does not appear in the outcome. -/
inductive Plays : Exchange → List Exchange → List Exchange → Except PlaybackError Unit → Prop where
  /-- Without a task there is nothing to clear. -/
  | uncreated {created : Exchange} {cause : PlaybackError}
      (creates : created.call = .createTask "") (failed : created.outcome = .error cause) :
      Plays created [] [] (.error cause)
  /-- A task is cleared after its use. -/
  | cleared {created clearing : Exchange} {used : List Exchange}
      {outcome : Except PlaybackError Unit} (creates : created.call = .createTask "")
      (made : created.outcome = .ok ())
      (uses : Uses device waveform rate timeout created.reply.task used outcome)
      (clears : clearing.call = .clearTask created.reply.task) :
      Plays created used [clearing] outcome

variable {δ : Type} [DaqLibrary δ]

variable {device waveform rate timeout}

/-- Whatever the library answers, using a task comes to its exchanges, and overhearing does not
disturb it. -/
theorem useTask_uses (task : TaskHandle) (library : δ) (earlier : List Answered) :
    ∃ used : List Exchange,
      Uses device waveform rate timeout task used
        (useTask device waveform rate timeout task library).1 ∧
      useTask device waveform rate timeout task (⟨library, earlier⟩ : Overheard δ) =
        ((useTask device waveform rate timeout task library).1,
          ⟨(useTask device waveform rate timeout task library).2,
            earlier ++ used.flatMap Exchange.calls⟩) := by
  by_cases nul : '\x00' ∈ device.toList
  · have lines := (nul_mem_wordLines_iff device).mpr nul
    have bare : useTask device waveform rate timeout task library =
        (.error (nulRefusal device), library) :=
      Operation.bind_run_error (checkText_refuses lines library)
    rw [bare]
    have tapped : useTask device waveform rate timeout task (⟨library, earlier⟩ : Overheard δ) =
        (.error (nulRefusal device), ⟨library, earlier⟩) :=
      Operation.bind_run_error (checkText_refuses lines _)
    exact ⟨[], .refused nul, by simpa using tapped⟩
  · have lines := mt (nul_mem_wordLines_iff device).mp nul
    obtain ⟨used, series, overheard⟩ :=
      carryOutAll_series (playCalls device waveform rate timeout task) library earlier
    have same : useTask (δ := δ) device waveform rate timeout task =
        carryOutAll (playCalls device waveform rate timeout task) := by
      simp [useTask, checkText_eq_pure lines]
    have sameOverheard : useTask (δ := Overheard δ) device waveform rate timeout task =
        carryOutAll (playCalls device waveform rate timeout task) := by
      simp [useTask, checkText_eq_pure lines]
    rw [same, sameOverheard]
    exact ⟨used, Uses.carriedOut nul series, overheard⟩

/-- Whatever the library answers, playing a waveform comes to its exchanges. The overheard library
is left as the library itself, with these exchanges behind what it kept before. -/
theorem playOn_plays (device : String) (waveform : Waveform) (rate timeout : Binary64)
    (library : δ) (earlier : List Answered) :
    ∃ created used cleared,
      Plays device waveform rate timeout created used cleared
        (DaqOutput.playOn device waveform rate timeout library).1 ∧
      DaqOutput.playOn device waveform rate timeout (⟨library, earlier⟩ : Overheard δ) =
        ((DaqOutput.playOn device waveform rate timeout library).1,
          ⟨(DaqOutput.playOn device waveform rate timeout library).2,
            earlier ++ (created :: used ++ cleared).flatMap Exchange.calls⟩) := by
  obtain ⟨created, creates, told, overheard⟩ :=
    carryOut_exchange (.createTask "") library earlier
  cases performed : carryOut (.createTask "") library with
  | mk result reached =>
    rw [performed] at told overheard
    cases made : created.outcome with
    | error cause =>
      obtain rfl : result = .error cause := by simpa [made, Except.map] using told
      rw [playOn_eq, playOn_eq, Operation.bind_run_error performed,
        Operation.bind_run_error overheard]
      exact ⟨created, [], [], .uncreated creates made, by simp⟩
    | ok _ =>
      obtain rfl : result = .ok created.reply := by simpa [made, Except.map] using told
      obtain ⟨used, uses, overheardUse⟩ :=
        useTask_uses created.reply.task reached (earlier ++ created.calls)
      obtain ⟨cleared, series, overheardEnd⟩ := carryOutAll_series [.clearTask created.reply.task]
        (useTask device waveform rate timeout created.reply.task reached).2
        (earlier ++ created.calls ++ used.flatMap Exchange.calls)
      obtain ⟨clearing, rfl, clears⟩ := series.single
      rw [playOn_eq, playOn_eq, Operation.bind_run_ok performed, Operation.bind_run_ok overheard]
      have plays := Plays.cleared creates made uses clears
      refine ⟨created, used, [clearing], ?_, ?_⟩
      · simpa only [Operation.thenAlways] using plays
      · simp only [Operation.thenAlways, overheardUse, overheardEnd]
        simp

end Playing

/-! ## Cleanup -/

/-- Playing a waveform that leaves no task behind. The steps are the exchange that creates the task
and those that use it; each of them has the question about a failure exactly after a negative
status. Which of the fields says something is decided by the statuses and by the name of the
device. -/
structure Tidy (device : String) (waveform : Waveform) (rate timeout : Binary64)
    (created : Exchange) (used cleared : List Exchange)
    (outcome : Except PlaybackError Unit) : Prop where
  creates : created.call = .createTask ""
  /-- The task is used by the calls in order. -/
  inOrder : used.map (·.call) <+: playCalls device waveform rate timeout created.reply.task
  /-- No step comes after one that failed. -/
  proceeds : ∀ step ∈ (created :: used).dropLast, 0 ≤ step.reply.status
  /-- A name with a NUL ends the steps after the first. -/
  unnamed : '\x00' ∈ device.toList → used = []
  /-- Else the steps end before the last call only after a failure. -/
  complete : '\x00' ∉ device.toList → (∀ step ∈ created :: used, 0 ≤ step.reply.status) →
    used.map (·.call) = playCalls device waveform rate timeout created.reply.task
  /-- A task that was created is cleared once. -/
  clears : 0 ≤ created.reply.status →
    ∃ clearing, cleared = [clearing] ∧ clearing.call = .clearTask created.reply.task
  /-- No other task is cleared. -/
  clearsOnlyCreated : created.reply.status < 0 → cleared = []
  /-- How the task is cleared makes no difference. -/
  succeeds : outcome = .ok () ↔
    '\x00' ∉ device.toList ∧ ∀ step ∈ created :: used, 0 ≤ step.reply.status
  /-- A step that failed is reported with what the library says about it. -/
  fails : ∀ step ∈ created :: used, step.reply.status < 0 → ∃ info, step.inquiry = some info ∧
    outcome = .error (step.call.cause step.reply.status (DaqLibrary.bufferText info.buffer))
  /-- A name with a NUL is reported if there was a task to use. -/
  refuses : '\x00' ∈ device.toList → 0 ≤ created.reply.status →
    outcome = .error (nulRefusal device)
  /-- The time was up exactly if the wait says so. -/
  timesOut : (∃ seconds, outcome = .error (.timeout seconds)) ↔
    ∃ step ∈ used, (∃ task seconds, step.call = .waitUntilTaskDone task seconds) ∧
      step.reply.status = -200560

section Cleanup

variable {device : String} {waveform : Waveform} {rate timeout : Binary64}
  {created : Exchange} {used cleared : List Exchange} {outcome : Except PlaybackError Unit}

/-- Steps that are a series leave no task behind if the task is cleared. Creating the task is the
first step of the series, so a failure to create it ends the steps like any other. -/
theorem Series.tidy
    (series : Series (.createTask "" :: playCalls device waveform rate timeout created.reply.task)
      (created :: used) outcome)
    (unnamed : '\x00' ∈ device.toList → used = [] ∧ created.reply.status < 0)
    (clears : 0 ≤ created.reply.status →
      ∃ clearing, cleared = [clearing] ∧ clearing.call = .clearTask created.reply.task)
    (clearsOnlyCreated : created.reply.status < 0 → cleared = []) :
    Tidy device waveform rate timeout created used cleared outcome := by
  obtain ⟨creates, inOrder⟩ := List.cons_prefix_cons.mp series.begins
  have succeeds : outcome = .ok () ↔ ∀ step ∈ created :: used, 0 ≤ step.reply.status := by
    simp only [← Exchange.outcome_eq_ok_iff]
    exact ⟨fun well => (series.complete well).2, series.succeeds⟩
  have fails (step : Exchange) (member : step ∈ created :: used)
      (failed : step.reply.status < 0) : outcome = step.outcome := by
    refine series.outcome_eq member ?_
    rwa [ne_eq, Exchange.outcome_eq_ok_iff, Int32.not_le]
  exact {
    creates, inOrder, clears, clearsOnlyCreated
    proceeds := by
      intro step before
      exact step.outcome_eq_ok_iff.mp (series.succeeds_before step before)
    unnamed := fun nul => (unnamed nul).1
    complete := by
      intro _ well
      exact (List.cons.inj (series.complete (succeeds.mpr well)).1).2
    succeeds := by
      rw [succeeds]
      refine ⟨fun well => ⟨fun nul => ?_, well⟩, And.right⟩
      exact Int32.not_lt.mpr (well created (by simp)) (unnamed nul).2
    fails := by
      intro step member failed
      rw [fails step member failed]
      exact Exchange.outcome_of_neg failed
    refuses := by
      intro nul made
      exact absurd (unnamed nul).2 (Int32.not_lt.mpr made)
    timesOut := by
      constructor
      · rintro ⟨seconds, late⟩
        obtain ⟨earlier, last, steps, failed⟩ := series.broken late
        obtain ⟨⟨task, waited, wait⟩, status⟩ :=
          last.outcome_eq_timeout_iff.mp ⟨seconds, failed⟩
        have member : last ∈ created :: used := by simp [steps]
        rcases List.mem_cons.mp member with rfl | member
        · simp [creates] at wait
        · exact ⟨last, member, ⟨task, waited, wait⟩, status⟩
      · rintro ⟨step, member, wait, status⟩
        rw [fails step (by simp [member]) (by simp [status])]
        exact step.outcome_eq_timeout_iff.mpr ⟨wait, status⟩ }

/-- However it ends, playing a waveform leaves no task behind.

Proof: without a task the one step is a series of its own. With one, creating it and the calls that
use it are a series, unless the name is refused, which is looked at apart. -/
theorem Plays.tidy (plays : Plays device waveform rate timeout created used cleared outcome) :
    Tidy device waveform rate timeout created used cleared outcome := by
  cases plays with
  | @uncreated cause creates failed =>
    have status : created.reply.status < 0 := by
      rw [← Int32.not_le, ← Exchange.outcome_eq_ok_iff, failed]
      simp
    have steps : Series
        (.createTask "" :: playCalls device waveform rate timeout created.reply.task) [created]
        (.error cause) := by
      rw [← creates]
      exact Series.fails failed
    exact steps.tidy (fun _ => ⟨rfl, status⟩)
      (fun made => absurd status (Int32.not_lt.mpr made)) (fun _ => rfl)
  | cleared creates made uses clears =>
    have status : 0 ≤ created.reply.status := created.outcome_eq_ok_iff.mp made
    have stays (failed : created.reply.status < 0) : False := Int32.not_lt.mpr status failed
    cases uses with
    | carriedOut named series =>
      have steps : Series
          (.createTask "" :: playCalls device waveform rate timeout created.reply.task)
          (created :: used) outcome := by
        rw [← creates]
        exact Series.goesOn made series
      exact steps.tidy (fun nul => absurd nul named) (fun _ => ⟨_, rfl, clears⟩)
        (fun failed => (stays failed).elim)
    | refused nul =>
      exact {
        creates
        inOrder := by simp
        proceeds := by simp
        unnamed := fun _ => rfl
        complete := fun named => absurd nul named
        clears := fun _ => ⟨_, rfl, clears⟩
        clearsOnlyCreated := fun failed => (stays failed).elim
        succeeds := by simp [nul]
        fails := by
          intro step member failed
          obtain rfl := List.mem_singleton.mp member
          exact (stays failed).elim
        refuses := fun _ _ => rfl
        timesOut := by simp [nulRefusal] }

end Cleanup

namespace DaqOutput

variable {δ : Type} [DaqLibrary δ]

/-- An output plays with its library and keeps its device. -/
theorem play_run (device : String) (waveform : Waveform) (rate timeout : Binary64) (library : δ) :
    ClockedOutput.play waveform rate timeout (⟨device, library⟩ : DaqOutput δ) =
      ((playOn device waveform rate timeout library).1,
        ⟨device, (playOn device waveform rate timeout library).2⟩) := by
  simp only [ClockedOutput.play, withLibrary, Operation.onPart]

/-- Whatever the library answers, playing a waveform makes the calls for a task in order up to the
first that fails, and clears the task if and only if it was created. The outcome is that of the
steps, not of the clearing. Nothing is assumed of the library, the device, the waveform or the
times: a library may fail at every call, and its answers may depend on all calls before.

Proof: playing comes to its exchanges, and whichever they are, no task is left behind. -/
theorem play_tidy (device : String) (waveform : Waveform) (rate timeout : Binary64)
    (library : δ) :
    ∃ created used cleared,
      ClockedOutput.play waveform rate timeout (⟨device, ⟨library, []⟩⟩ : DaqOutput (Overheard δ)) =
        ((ClockedOutput.play waveform rate timeout (⟨device, library⟩ : DaqOutput δ)).1,
          ⟨device,
            ⟨(ClockedOutput.play waveform rate timeout (⟨device, library⟩ : DaqOutput δ)).2.library,
              (created :: used ++ cleared).flatMap Exchange.calls⟩⟩) ∧
      Tidy device waveform rate timeout created used cleared
        (ClockedOutput.play waveform rate timeout (⟨device, library⟩ : DaqOutput δ)).1 := by
  obtain ⟨created, used, cleared, plays, overheard⟩ :=
    playOn_plays device waveform rate timeout library []
  simp only [play_run]
  exact ⟨created, used, cleared, by simp [overheard], plays.tidy⟩

end DaqOutput

end PulseProgram

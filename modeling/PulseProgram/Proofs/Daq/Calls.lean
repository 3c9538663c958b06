import PulseProgram.Daq.Output
import PulseProgram.Proofs.Operation

/-!
# Calls of the data acquisition library

An overheard library passes every call on to a library of any behaviour and keeps the calls with
what was answered. So the calls of an operation are those of its run on an overheard library,
and the library behind it does not notice.

Calls are made in exchanges: a call and, if it failed, one question right after it for what the
library has to say about the failure. Calls in turn stop at the first exchange that failed, and
the failure is what the whole comes to. Playing a waveform is one exchange that creates a task,
a fixed series of calls for that task, and one exchange that clears it.
-/

namespace PulseProgram

/-- A call and what the library answered. -/
structure Answered where
  call : DaqCall
  reply : DaqReply

/-- A library and the calls made of it so far. The library may be of any kind, and overhearing it
changes neither its answers nor its log. -/
structure Overheard (δ : Type) where
  library : δ
  calls : List Answered

instance {δ : Type} [DaqLibrary δ] : DaqLibrary (Overheard δ) where
  perform call overheard :=
    let (reply, library) := DaqLibrary.perform call overheard.library
    (reply, ⟨library, overheard.calls ++ [⟨call, reply⟩]⟩)
  appendToLog text overheard :=
    { overheard with library := DaqLibrary.appendToLog text overheard.library }

/-- The cause that a failed call is reported with. Only a wait that ended too early is a timeout;
any other status of a wait is reported as such. -/
def DaqCall.cause (status : Int32) (text : String) : DaqCall → PlaybackError
  | .waitUntilTaskDone _ timeout =>
    if status = DaqTask.waitTimedOut then .timeout timeout else .daq status text
  | _ => .daq status text

/-- A call and, exactly if it failed, the question for more about it. Nothing else is called between
the two. -/
structure Exchange where
  call : DaqCall
  reply : DaqReply
  /-- What was answered to the question. -/
  inquiry : Option DaqReply
  asked : inquiry.isSome = true ↔ reply.status < 0

namespace Exchange

/-- The calls of an exchange in order. -/
def calls (exchange : Exchange) : List Answered :=
  ⟨exchange.call, exchange.reply⟩ ::
    exchange.inquiry.toList.map (⟨.extendedErrorInfo DaqLibrary.errorBufferSize, ·⟩)

/-- What the caller is told of an exchange. -/
def outcome (exchange : Exchange) : Except PlaybackError Unit :=
  match exchange.inquiry with
  | none => .ok ()
  | some info =>
    .error (exchange.call.cause exchange.reply.status (DaqLibrary.bufferText info.buffer))

/-- An exchange ends well exactly if its call did not fail. A positive status, which is a warning,
does not fail a call. -/
theorem outcome_eq_ok_iff (exchange : Exchange) :
    exchange.outcome = .ok () ↔ 0 ≤ exchange.reply.status := by
  have asked := exchange.asked
  rw [← Int32.not_lt, ← asked, outcome]
  cases exchange.inquiry <;> simp

/-- A failed call is reported with its cause, whatever the library answers to the question, a
failure included. -/
theorem outcome_of_neg {exchange : Exchange} (failed : exchange.reply.status < 0) :
    ∃ info, exchange.inquiry = some info ∧ exchange.outcome =
      .error (exchange.call.cause exchange.reply.status (DaqLibrary.bufferText info.buffer)) := by
  obtain ⟨info, inquired⟩ := Option.isSome_iff_exists.mp (exchange.asked.mpr failed)
  exact ⟨info, inquired, by simp [outcome, inquired]⟩

/-- A failed call is a timeout exactly if it is a wait with the status of one. The same status of
another call is none. -/
theorem outcome_eq_timeout_iff (exchange : Exchange) :
    (∃ seconds, exchange.outcome = .error (.timeout seconds)) ↔
      (∃ task seconds, exchange.call = .waitUntilTaskDone task seconds) ∧
        exchange.reply.status = -200560 := by
  by_cases failed : exchange.reply.status < 0
  · obtain ⟨info, -, told⟩ := outcome_of_neg failed
    rw [told]
    cases exchange.call with
    | waitUntilTaskDone task timeout =>
      by_cases late : exchange.reply.status = DaqTask.waitTimedOut <;>
        simp_all [DaqCall.cause, DaqTask.waitTimedOut]
    | _ => simp [DaqCall.cause]
  · have well := (outcome_eq_ok_iff exchange).mpr (Int32.not_lt.mp failed)
    have other : exchange.reply.status ≠ -200560 := by
      intro late
      simp [late] at failed
    simp [well, other]

end Exchange

/-! ## Calls in turn -/

/-- Calls made in turn up to the first that fails, and what this comes to. A series says which calls
are made and in which order, and leaves open what the library answers. -/
inductive Series : List DaqCall → List Exchange → Except PlaybackError Unit → Prop where
  | finished : Series [] [] (.ok ())
  | fails {rest : List DaqCall} {exchange : Exchange} {cause : PlaybackError}
      (failed : exchange.outcome = .error cause) :
      Series (exchange.call :: rest) [exchange] (.error cause)
  | goesOn {rest : List DaqCall} {exchange : Exchange} {later : List Exchange}
      {outcome : Except PlaybackError Unit} (succeeds : exchange.outcome = .ok ())
      (series : Series rest later outcome) :
      Series (exchange.call :: rest) (exchange :: later) outcome

namespace Series

variable {calls : List DaqCall} {exchanges : List Exchange}
  {outcome : Except PlaybackError Unit}

/-- The calls are made in order, from the first one on. -/
theorem begins (series : Series calls exchanges outcome) :
    exchanges.map (·.call) <+: calls := by
  induction series with
  | finished => simp
  | fails failed => simp
  | goesOn succeeds series inductionHypothesis => simpa using inductionHypothesis

/-- All calls but the last one made succeeded, whether the series ends well or not. -/
theorem succeeds_before (series : Series calls exchanges outcome) :
    ∀ exchange ∈ exchanges.dropLast, exchange.outcome = .ok () := by
  induction series with
  | finished => simp
  | fails failed => simp
  | @goesOn rest first later outcome succeeds series inductionHypothesis =>
    intro exchange member
    cases later with
    | nil => simp at member
    | cons second later =>
      rcases List.mem_cons.mp (by simpa using member) with rfl | member
      · exact succeeds
      · exact inductionHypothesis exchange member

/-- A series that ends well has made all of its calls, and they succeeded. None is left out and none
is made twice. -/
theorem complete (series : Series calls exchanges outcome) (well : outcome = .ok ()) :
    exchanges.map (·.call) = calls ∧ ∀ exchange ∈ exchanges, exchange.outcome = .ok () := by
  induction series with
  | finished => simp
  | fails failed => contradiction
  | goesOn succeeds series inductionHypothesis =>
    obtain ⟨all, succeed⟩ := inductionHypothesis well
    refine ⟨by simp [all], ?_⟩
    intro exchange member
    rcases List.mem_cons.mp member with rfl | later
    · exact succeeds
    · exact succeed exchange later

/-- A series that fails ends with the call that failed. -/
theorem broken (series : Series calls exchanges outcome) {cause : PlaybackError}
    (failed : outcome = .error cause) :
    ∃ earlier last, exchanges = earlier ++ [last] ∧ last.outcome = .error cause := by
  induction series with
  | finished => contradiction
  | @fails rest exchange _ same =>
    exact ⟨[], exchange, rfl, same.trans failed⟩
  | @goesOn rest exchange later outcome succeeds series inductionHypothesis =>
    obtain ⟨earlier, last, rfl, same⟩ := inductionHypothesis failed
    exact ⟨exchange :: earlier, last, rfl, same⟩

/-- A series of calls that all succeeded ends well. -/
theorem succeeds (series : Series calls exchanges outcome)
    (well : ∀ exchange ∈ exchanges, exchange.outcome = .ok ()) : outcome = .ok () := by
  cases ended : outcome with
  | ok _ => rfl
  | error cause =>
    obtain ⟨earlier, last, rfl, failed⟩ := series.broken ended
    simp [well last (by simp)] at failed

/-- A call that failed decides what the series comes to. There is one such call at most, since the
series ends with it. -/
theorem outcome_eq (series : Series calls exchanges outcome) {exchange : Exchange}
    (member : exchange ∈ exchanges) (failed : exchange.outcome ≠ .ok ()) :
    outcome = exchange.outcome := by
  induction series with
  | finished => simp at member
  | fails ended => simp_all
  | goesOn succeeds series inductionHypothesis =>
    rcases List.mem_cons.mp member with rfl | later
    · exact absurd succeeds failed
    · exact inductionHypothesis later

/-- A single call is made in any case. -/
theorem single {call : DaqCall} (series : Series [call] exchanges outcome) :
    ∃ exchange, exchanges = [exchange] ∧ exchange.call = call := by
  cases series with
  | fails failed => exact ⟨_, rfl, rfl⟩
  | goesOn succeeds series =>
    cases series
    exact ⟨_, rfl, rfl⟩

end Series

/-! ## Operations on an overheard library -/

section Overhearing

variable {δ : Type} [DaqLibrary δ]

/-- Performs a call and tells a failure by its cause. -/
def carryOut (call : DaqCall) : Operation δ PlaybackError DaqReply :=
  (DaqLibrary.call call).withCause fun
    | .daq status text => call.cause status text
    | other => other

/-- Performs calls in turn. -/
def carryOutAll : List DaqCall → Operation δ PlaybackError Unit
  | [] => return ()
  | call :: rest => do
    let _ ← carryOut call
    carryOutAll rest

section CarryOut

variable {call : DaqCall} {reply info : DaqReply} {library after asked : δ}

/-- A call that does not fail gives its reply, and no question is asked. -/
theorem carryOut_of_nonneg (answered : DaqLibrary.perform call library = (reply, after))
    (well : ¬ reply.status < 0) : carryOut call library = (.ok reply, after) := by
  refine Operation.withCause_run_ok _ ?_
  simp [DaqLibrary.call, answered, well]

/-- A call that fails is reported with its cause, after the question was asked and the answer was
logged. -/
theorem carryOut_of_neg (answered : DaqLibrary.perform call library = (reply, after))
    (failed : reply.status < 0)
    (inquired : DaqLibrary.perform (.extendedErrorInfo DaqLibrary.errorBufferSize) after =
      (info, asked)) :
    carryOut call library =
      (.error (call.cause reply.status (DaqLibrary.bufferText info.buffer)),
        DaqLibrary.appendToLog (DaqLibrary.logLine (DaqLibrary.bufferText info.buffer)) asked) := by
  have refused : DaqLibrary.call call library =
      (.error (.daq reply.status (DaqLibrary.bufferText info.buffer)),
        DaqLibrary.appendToLog (DaqLibrary.logLine (DaqLibrary.bufferText info.buffer)) asked) := by
    simp [DaqLibrary.call, answered, failed, inquired]
  exact Operation.withCause_run_error _ refused

/-- An overheard library answers as the one behind it, and the call is kept with the answer. -/
theorem perform_overheard (answered : DaqLibrary.perform call library = (reply, after))
    (earlier : List Answered) :
    DaqLibrary.perform call (⟨library, earlier⟩ : Overheard δ) =
      (reply, ⟨after, earlier ++ [⟨call, reply⟩]⟩) := by
  simp [DaqLibrary.perform, answered]

end CarryOut

/-- Whatever the library answers, a call is one exchange. The reply to the call decides whether the
question is asked, on the library itself as on the overheard one. -/
theorem carryOut_exchange (call : DaqCall) (library : δ) (earlier : List Answered) :
    ∃ exchange : Exchange, exchange.call = call ∧
      (carryOut call library).1 = exchange.outcome.map (fun _ => exchange.reply) ∧
      carryOut call (⟨library, earlier⟩ : Overheard δ) =
        ((carryOut call library).1,
          ⟨(carryOut call library).2, earlier ++ exchange.calls⟩) := by
  cases answered : DaqLibrary.perform call library with
  | mk reply after =>
    have overheard := perform_overheard answered earlier
    by_cases failed : reply.status < 0
    · cases inquired : DaqLibrary.perform
          (.extendedErrorInfo DaqLibrary.errorBufferSize) after with
      | mk info asked =>
        rw [carryOut_of_neg answered failed inquired, carryOut_of_neg overheard failed
          (perform_overheard inquired _)]
        refine ⟨⟨call, reply, some info, by simpa using failed⟩, rfl, rfl, ?_⟩
        simp [Exchange.calls, DaqLibrary.appendToLog]
    · rw [carryOut_of_nonneg answered failed, carryOut_of_nonneg overheard failed]
      exact ⟨⟨call, reply, none, by simpa using failed⟩, rfl, rfl, rfl⟩

/-- Whatever the library answers, calls in turn are a series. It is by induction on the calls, of
which each is one exchange that ends the series or goes on with it. -/
theorem carryOutAll_series (calls : List DaqCall) (library : δ) (earlier : List Answered) :
    ∃ exchanges : List Exchange, Series calls exchanges (carryOutAll calls library).1 ∧
      carryOutAll calls (⟨library, earlier⟩ : Overheard δ) =
        ((carryOutAll calls library).1,
          ⟨(carryOutAll calls library).2, earlier ++ exchanges.flatMap Exchange.calls⟩) := by
  induction calls generalizing library earlier with
  | nil => exact ⟨[], .finished, by simp [carryOutAll]⟩
  | cons call rest inductionHypothesis =>
    obtain ⟨exchange, rfl, told, overheard⟩ := carryOut_exchange call library earlier
    cases performed : carryOut exchange.call library with
    | mk result reached =>
      rw [performed] at told overheard
      cases ended : exchange.outcome with
      | error cause =>
        obtain rfl : result = .error cause := by simpa [ended, Except.map] using told
        have bare : carryOutAll (exchange.call :: rest) library = (.error cause, reached) :=
          Operation.bind_run_error performed
        have tapped : carryOutAll (exchange.call :: rest) (⟨library, earlier⟩ : Overheard δ) =
            (.error cause, ⟨reached, earlier ++ exchange.calls⟩) :=
          Operation.bind_run_error overheard
        rw [bare]
        exact ⟨[exchange], .fails ended, by simpa using tapped⟩
      | ok _ =>
        obtain rfl : result = .ok exchange.reply := by simpa [ended, Except.map] using told
        have bare : carryOutAll (exchange.call :: rest) library = carryOutAll rest reached :=
          Operation.bind_run_ok performed
        have tapped : carryOutAll (exchange.call :: rest) (⟨library, earlier⟩ : Overheard δ) =
            carryOutAll rest ⟨reached, earlier ++ exchange.calls⟩ :=
          Operation.bind_run_ok overheard
        obtain ⟨later, series, overheardLater⟩ :=
          inductionHypothesis reached (earlier ++ exchange.calls)
        rw [bare]
        refine ⟨exchange :: later, .goesOn ended series, ?_⟩
        rw [tapped, overheardLater]
        simp

end Overhearing

end PulseProgram

import Mathlib.Data.List.Nodup
import Mathlib.Data.List.Perm.Basic
import PulseProgram.Operation
import PulseProgram.Proofs.SynthTable.Pulses
import PulseProgram.Proofs.Word.Latch

/-!
# Trigger windows in any order

A row may be asked for at any step, before, between or after the rows that are there. The check
looks for the trigger on the timeline and knows nothing of earlier rows. On a timeline that
carried no trigger at first this is the same as comparing windows: the trigger is up exactly in
the windows of the accepted rows, so a row is refused for its place exactly if its window meets
one of them.

So accepted windows never overlap, though they may touch, and there are as many words with the
trigger as the rows and the width of a window make. All other bits stay what they were, and a
row that is refused leaves no trace.
-/

namespace PulseProgram

namespace Span

/-- The span has this step. -/
def Contains (span : Span) (step : Nat) : Prop := span.start ≤ step ∧ step < span.stop

/-- The spans have no step in common. Spans that touch are apart, and so is an empty one from
all. -/
def Apart (first second : Span) : Prop := ∀ step, first.Contains step → ¬second.Contains step

end Span

/-- The words of a timeline are those at its steps, so a statement about all words is one about
steps. -/
theorem Timeline.words_eq (timeline : Timeline) :
    timeline.words = (List.range timeline.capacity).map timeline.wordAt := by
  refine List.ext_getElem (by simp [words_length]) fun step inside _ => ?_
  rw [List.getElem_map, List.getElem_range, wordAt, List.getElem?_eq_getElem inside,
    Option.getD_some]

namespace SynthTable

/-! ## Asking for rows -/

/-- The values of a row that is asked for, and the step its window ends at. -/
structure RowRequest where
  step : Nat
  update : SynthUpdate

/-- Appends a row with a window that was checked. The result is the index of the row. -/
def appendChecked (window : Span) (update : SynthUpdate) :
    Operation (SynthTable × Timeline) Fault Nat := fun state =>
  match state.1.push? state.2 window update with
  | some next => (.ok state.1.rowCount, next)
  | none => (.error .outOfBounds, state)

/-- Checks for a row and appends it if the check passes. -/
def append (request : RowRequest) : Operation (SynthTable × Timeline) Fault Nat := do
  let window ← .examine fun state => state.1.check state.2 request.step
  appendChecked window request.update

/-- Asks for rows in turn. -/
def appendAll (state : SynthTable × Timeline) : List RowRequest → SynthTable × Timeline
  | [] => state
  | request :: rest => appendAll (append request state).2 rest

/-- The windows of the rows that are accepted when they are asked for in turn. -/
def windows (state : SynthTable × Timeline) : List RowRequest → List Span
  | [] => []
  | request :: rest =>
    match append request state with
    | (.ok _, next) => ⟨request.step - state.1.triggerWidth, request.step⟩ :: windows next rest
    | (.error _, next) => windows next rest

/-- What it takes for a row to be accepted at a step: room in the table, a window on the timeline,
and no accepted window in its way. The timeline itself is not mentioned. -/
structure Admits (capacity width steps : Nat) (accepted : List Span) (step : Nat) : Prop where
  room : accepted.length < capacity
  inside : step ≤ steps
  fits : width ≤ step
  free : ∀ window ∈ accepted, window.Apart ⟨step - width, step⟩

/-- A table of a given capacity and trigger width, and a timeline with the triggers of its rows, in
the windows that were accepted, laid over the words of another timeline. This is the invariant of a
table that rows are asked for in any order. -/
structure Raised (capacity width : Nat) (initial : Timeline) (accepted : List Span)
    (state : SynthTable × Timeline) : Prop where
  capacity_eq : state.1.capacity = capacity
  width_eq : state.1.triggerWidth = width
  steps_eq : state.2.capacity = initial.capacity
  rowCount_eq : state.1.rowCount = accepted.length
  places : ∀ window ∈ accepted, window.start + width = window.stop ∧
    window.stop ≤ initial.capacity
  apart : accepted.Pairwise Span.Apart
  carries : ∀ step, (state.2.wordAt step).carries Word.synthTrigger = true ↔
    ∃ window ∈ accepted, window.Contains step
  others : ∀ step, state.2.wordAt step &&& ~~~Word.synthTrigger =
    initial.wordAt step &&& ~~~Word.synthTrigger

section Windows

variable {capacity width : Nat} {table : SynthTable} {initial timeline : Timeline}
  {accepted : List Span} {state : SynthTable × Timeline}

/-! ## One row -/

/-- The trigger is down in a span exactly if no accepted window meets it. So what the check reads
from the timeline is a fact about windows. -/
theorem Raised.free_iff (raised : Raised capacity width initial accepted state) (span : Span) :
    (∀ step, span.start ≤ step → step < span.stop →
        (state.2.wordAt step).carries Word.synthTrigger = false) ↔
      ∀ window ∈ accepted, window.Apart span := by
  constructor
  · intro down window member step inWindow inSpan
    have up := (raised.carries step).mpr ⟨window, member, inWindow⟩
    rw [down step inSpan.1 inSpan.2] at up
    contradiction
  · intro apart step after before
    by_contra up
    obtain ⟨window, member, inWindow⟩ :=
      (raised.carries step).mp (Bool.not_eq_false _ ▸ up)
    exact apart window member step inWindow ⟨after, before⟩

/-- A step that is not on the timeline is refused, if not for a table without room. The window would
end behind the last word. -/
theorem check_of_beyond {step : Nat} (beyond : timeline.capacity < step) :
    ∃ cause, table.check timeline step = .error (.rejected cause) := by
  rw [check, Timeline.regionBefore, if_pos beyond]
  split
  · exact ⟨_, rfl⟩
  · exact ⟨_, rfl⟩

/-- A row that is not admitted is refused, and as a rejection, whichever of the conditions fails. -/
theorem Raised.check_refuses (raised : Raised capacity width initial accepted state) {step : Nat}
    (refused : ¬Admits capacity width initial.capacity accepted step) :
    ∃ cause, state.1.check state.2 step = .error (.rejected cause) := by
  rcases Nat.lt_or_ge state.2.capacity step with beyond | inside
  · exact check_of_beyond beyond
  · have ends := state.1.check_ends inside
    generalize state.1.check state.2 step = outcome at ends ⊢
    cases ends with
    | full no_room => exact ⟨_, rfl⟩
    | underflow room early => exact ⟨_, rfl⟩
    | collision room fits taken => exact ⟨_, rfl⟩
    | passed room fits free =>
      have apart := (raised.free_iff ⟨step - state.1.triggerWidth, step⟩).mp free
      rw [raised.rowCount_eq, raised.capacity_eq] at room
      rw [raised.width_eq] at fits apart
      rw [raised.steps_eq] at inside
      exact absurd ⟨room, inside, fits, apart⟩ refused

/-- A row that is admitted gets its window. Nothing is assumed of other rows but that their windows
are apart from it. -/
theorem Raised.check_admits (raised : Raised capacity width initial accepted state) {step : Nat}
    (admitted : Admits capacity width initial.capacity accepted step) :
    state.1.check state.2 step = .ok ⟨step - width, step⟩ := by
  have inside := admitted.inside
  have room := admitted.room
  have fits := admitted.fits
  have free := (raised.free_iff ⟨step - width, step⟩).mpr admitted.free
  rw [← raised.steps_eq] at inside
  rw [← raised.rowCount_eq, ← raised.capacity_eq] at room
  rw [← raised.width_eq] at fits free ⊢
  exact check_of_free inside room fits free

/-- A row that is admitted is appended at the next index, with its trigger raised in its window.

Proof: the check passes and the row has a place. The trigger is up where it was and in the new
window, and no other bit of any word changes, so all that is said of the state holds with one window
more. -/
theorem Raised.append_admits (raised : Raised capacity width initial accepted state)
    {request : RowRequest}
    (admitted : Admits capacity width initial.capacity accepted request.step) :
    ∃ next, append request state = (.ok state.1.rowCount, next) ∧
      Raised capacity width initial
        (accepted ++ [⟨request.step - width, request.step⟩]) next := by
  obtain ⟨room, inside, fits, free⟩ := admitted
  have stored : state.1.rowCount < state.1.capacity := by
    rwa [raised.rowCount_eq, raised.capacity_eq]
  have reaches : request.step ≤ state.2.capacity := by rwa [raised.steps_eq]
  obtain ⟨flagged, pushed, steps, words⟩ :=
    push?_spec request.update stored (Nat.sub_le request.step width) reaches
  refine ⟨({ state.1 with rows := state.1.rows.push (state.1.merge request.update) }, flagged),
    ?_, ?_⟩
  · have checked : Operation.examine (fun state : SynthTable × Timeline =>
        state.1.check state.2 request.step) state =
          (.ok ⟨request.step - width, request.step⟩, state) := by
      rw [Operation.examine, raised.check_admits ⟨room, inside, fits, free⟩]
    rw [append, Operation.bind_run_ok checked, appendChecked, pushed]
  · refine ⟨raised.capacity_eq, raised.width_eq, steps.trans raised.steps_eq, ?_, ?_, ?_, ?_, ?_⟩
    · simp only [rowCount, Array.size_push, List.length_append, List.length_singleton]
      exact congrArg (· + 1) raised.rowCount_eq
    · intro window member
      rcases List.mem_append.mp member with old | new
      · exact raised.places window old
      · obtain rfl := List.mem_singleton.mp new
        exact ⟨Nat.sub_add_cancel fits, inside⟩
    · refine List.pairwise_append.mpr ⟨raised.apart, List.pairwise_singleton _ _, ?_⟩
      intro window old last new
      obtain rfl := List.mem_singleton.mp new
      exact free window old
    · intro step
      have lit : Word.carries Word.synthTrigger Word.synthTrigger = true := by decide
      simp only [words, List.mem_append, List.mem_singleton, or_and_right, exists_or,
        exists_eq_left, Span.Contains]
      split
      · next within => simp [Word.carries_or, lit, within]
      · next outside =>
        rw [or_iff_left outside]
        exact raised.carries step
    · intro step
      simp only [words]
      split
      · have cleared : Word.synthTrigger &&& ~~~Word.synthTrigger = 0#32 := by decide
        rw [BitVec.and_or_distrib_right, cleared, BitVec.or_zero, raised.others]
      · exact raised.others step

/-- A row that is not admitted is refused and leaves no trace: both the table and the timeline are
as they were. -/
theorem Raised.append_refuses (raised : Raised capacity width initial accepted state)
    {request : RowRequest}
    (refused : ¬Admits capacity width initial.capacity accepted request.step) :
    ∃ cause, append request state = (.error (.rejected cause), state) := by
  obtain ⟨cause, checked⟩ := raised.check_refuses refused
  have examined : Operation.examine (fun state : SynthTable × Timeline =>
      state.1.check state.2 request.step) state = (.error (.rejected cause), state) := by
    rw [Operation.examine, checked]
  exact ⟨cause, Operation.bind_run_error examined⟩

/-! ## Rows in turn -/

/-- Asking for rows keeps the windows apart and adds those that are accepted. It is by induction on
the requests, each of which is admitted or not. -/
theorem Raised.run (raised : Raised capacity width initial accepted state)
    (requests : List RowRequest) :
    Raised capacity width initial (accepted ++ windows state requests)
      (appendAll state requests) := by
  induction requests generalizing accepted state with
  | nil =>
    rw [windows, List.append_nil]
    exact raised
  | cons request rest inductionHypothesis =>
    rw [windows, appendAll]
    by_cases admitted : Admits capacity width initial.capacity accepted request.step
    · obtain ⟨next, appended, longer⟩ := raised.append_admits admitted
      rw [appended, raised.width_eq, List.append_cons]
      exact inductionHypothesis longer
    · obtain ⟨cause, appended⟩ := raised.append_refuses admitted
      rw [appended]
      exact inductionHypothesis raised

/-- As many words carry the trigger as the windows are long together.

Proof: the words with the trigger are those at the steps of the windows. The windows lie apart, so
no step is counted twice, and each window is as long as the width. -/
theorem Raised.countP_eq (raised : Raised capacity width initial accepted state) :
    state.2.words.countP (·.carries Word.synthTrigger) = width * state.1.rowCount := by
  have steps_nodup : (accepted.flatMap fun window => List.range' window.start width).Nodup := by
    refine List.nodup_flatMap.mpr ⟨fun window _ => List.nodup_range', ?_⟩
    refine raised.apart.imp_of_mem fun {first second} one other apart step inFirst inSecond => ?_
    have firstPlace := raised.places first one
    have secondPlace := raised.places second other
    rw [List.mem_range'_1, firstPlace.1] at inFirst
    rw [List.mem_range'_1, secondPlace.1] at inSecond
    exact apart step inFirst inSecond
  have same : ((List.range state.2.capacity).filter fun step =>
      (state.2.wordAt step).carries Word.synthTrigger).Perm
        (accepted.flatMap fun window => List.range' window.start width) := by
    apply (List.perm_ext_iff_of_nodup (List.nodup_range.filter _) steps_nodup).mpr
    intro step
    rw [List.mem_filter, List.mem_range, raised.carries, List.mem_flatMap, raised.steps_eq]
    constructor
    · rintro ⟨-, window, member, inWindow⟩
      have place := raised.places window member
      exact ⟨window, member, List.mem_range'_1.mpr (place.1 ▸ inWindow)⟩
    · rintro ⟨window, member, inRange⟩
      have place := raised.places window member
      rw [List.mem_range'_1, place.1] at inRange
      exact ⟨Nat.lt_of_lt_of_le inRange.2 place.2, window, member, inRange⟩
  rw [Timeline.words_eq, List.countP_map, List.countP_eq_length_filter, raised.rowCount_eq]
  calc _ = (accepted.flatMap fun window => List.range' window.start width).length :=
        same.length_eq
    _ = width * accepted.length := by
      simp [List.length_flatMap, List.map_const', Nat.mul_comm]

/-- A new table beside a timeline without triggers has no windows. The words of the timeline may
carry anything else. -/
theorem raised_empty (made : empty? capacity width = some table)
    (clear : ∀ word ∈ timeline.words, word.carries Word.synthTrigger = false) :
    Raised capacity width timeline [] (table, timeline) := by
  have down : ∀ step, (timeline.wordAt step).carries Word.synthTrigger = false := by
    intro step
    rw [Timeline.wordAt]
    cases stored : timeline.words[step]? with
    | none => rfl
    | some word => exact clear word (List.mem_of_getElem? stored)
  unfold empty? at made
  split at made
  · obtain rfl := Option.some.inj made
    refine ⟨rfl, rfl, rfl, rfl, ?_, List.Pairwise.nil, ?_, fun step => rfl⟩
    · intro window absent
      exact absurd absent List.not_mem_nil
    · simp [down]
  · contradiction

/-- Rows asked for at steps in any order raise the trigger exactly in the windows of those that are
accepted. These lie apart, so the words with the trigger are as many as the rows and the width make,
and nothing else changes. The next row is accepted exactly if there is room in the table and its
window lies on the timeline and apart from them; otherwise it is rejected and leaves no trace.

Steps may repeat, descend or lie beyond the timeline, and the width may be zero. The timeline is
assumed to carry no trigger at first, since the check cannot tell a trigger from one of a row. -/
theorem appendAll_windows (made : empty? capacity width = some table)
    (clear : ∀ word ∈ timeline.words, word.carries Word.synthTrigger = false)
    (requests : List RowRequest) :
    Raised capacity width timeline (windows (table, timeline) requests)
        (appendAll (table, timeline) requests) ∧
      (appendAll (table, timeline) requests).2.words.countP (·.carries Word.synthTrigger) =
        width * (appendAll (table, timeline) requests).1.rowCount ∧
      ∀ request,
        ((∃ index, (append request (appendAll (table, timeline) requests)).1 = .ok index) ↔
          Admits capacity width timeline.capacity (windows (table, timeline) requests)
            request.step) ∧
        ∀ fault, (append request (appendAll (table, timeline) requests)).1 = .error fault →
          (∃ cause, fault = .rejected cause) ∧
            (append request (appendAll (table, timeline) requests)).2 =
              appendAll (table, timeline) requests := by
  have raised := (raised_empty made clear).run requests
  rw [List.nil_append] at raised
  refine ⟨raised, raised.countP_eq, fun request => ?_⟩
  by_cases admitted : Admits capacity width timeline.capacity
      (windows (table, timeline) requests) request.step
  · obtain ⟨next, appended, -⟩ := raised.append_admits admitted
    rw [appended]
    exact ⟨⟨fun _ => admitted, fun _ => ⟨_, rfl⟩⟩, fun fault impossible => nomatch impossible⟩
  · obtain ⟨cause, appended⟩ := raised.append_refuses admitted
    rw [appended]
    constructor
    · constructor
      · rintro ⟨index, impossible⟩
        exact nomatch impossible
      · intro accepts
        exact absurd accepts admitted
    · rintro fault ⟨⟩
      exact ⟨⟨cause, rfl⟩, rfl⟩

end Windows

namespace Sample

/-- A timeline with some written words. -/
def timeline : Timeline := ⟨8, .hold 5 0#32 (.hold 3 0x30001#32 .stop), rfl, by decide⟩

/-- Rows at steps that do not ascend. -/
def requests : List RowRequest := [6, 2, 5, 4, 1, 9].map (⟨·, Vector.replicate 4 none⟩)

end Sample

/-- Windows two steps wide that end at 6, 2 and 4 touch each other. The rows at 5, at 1 and at 9
are refused: one meets the window at 6, one has no room before it, and one is too late. There is
still room for a row at 8. -/
theorem appendAll_windows_sample : ∃ table, empty? 4 2 = some table ∧
    (∀ word ∈ Sample.timeline.words, word.carries Word.synthTrigger = false) ∧
    Raised 4 2 Sample.timeline [⟨4, 6⟩, ⟨0, 2⟩, ⟨2, 4⟩]
      (appendAll (table, Sample.timeline) Sample.requests) ∧
    (appendAll (table, Sample.timeline) Sample.requests).2.words.countP
      (·.carries Word.synthTrigger) = 2 * 3 ∧
    ∃ index, (append ⟨8, Vector.replicate 4 none⟩
      (appendAll (table, Sample.timeline) Sample.requests)).1 = .ok index := by
  have clear : ∀ word ∈ Sample.timeline.words, word.carries Word.synthTrigger = false := by
    have all : Sample.timeline.words.all (!·.carries Word.synthTrigger) = true := by
      decide +kernel
    simpa using all
  have accepted : windows (⟨4, 2, #[]⟩, Sample.timeline) Sample.requests =
      [⟨4, 6⟩, ⟨0, 2⟩, ⟨2, 4⟩] := by
    decide +kernel
  obtain ⟨raised, count, next⟩ :=
    @appendAll_windows 4 2 ⟨4, 2, #[]⟩ Sample.timeline rfl clear Sample.requests
  rw [accepted] at raised next
  rw [raised.rowCount_eq] at count
  have before : ∀ window ∈ ([⟨4, 6⟩, ⟨0, 2⟩, ⟨2, 4⟩] : List Span), window.stop ≤ 6 := by decide
  refine ⟨⟨4, 2, #[]⟩, rfl, clear, raised, count, (next ⟨8, _⟩).1.mpr ?_⟩
  refine ⟨by decide, by decide, by decide, fun window member step inWindow inNew => ?_⟩
  have late : 6 ≤ step := inNew.1
  have early : step < window.stop := inWindow.2
  have highest := before window member
  omega

end SynthTable

end PulseProgram

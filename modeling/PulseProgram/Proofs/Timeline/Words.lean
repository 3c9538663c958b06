import Mathlib.Tactic.ByContra
import PulseProgram.Timeline

/-!
# What the operations on a timeline do to its words

The view of a timeline is the list of its words in the order of the steps, and
`wordAt` reads it at a step. A write and a flag change the words of their span and
keep all others; the checks say whether the span has a word of a kind. All of it is
stated for spans within the capacity, where each operation has a result.
-/

namespace PulseProgram

namespace Waveform

/-- A test passes for some word of a waveform exactly if it does for its sequence. -/
theorem any_eq (waveform : Waveform) (test : Word → Bool) :
    waveform.any test = waveform.toList.any test := by
  induction waveform with
  | stop => rfl
  | hold count word rest inductionHypothesis =>
    rw [any, toList, List.any_append, inductionHypothesis, List.any_replicate]
    cases count <;> simp

end Waveform

namespace Timeline

/-- The word at a step. Beyond the capacity there is none, which reads as unwritten; so a statement
about all steps needs no bound. -/
def wordAt (timeline : Timeline) (step : Nat) : Word := timeline.words[step]?.getD 0#32

/-- There is one word for each step. -/
theorem words_length (timeline : Timeline) : timeline.words.length = timeline.capacity := by
  rw [words, List.length_reverse, Waveform.length_toList, timeline.full]

/-- Nothing is written beyond the capacity. -/
theorem wordAt_of_le {timeline : Timeline} {step : Nat} (beyond : timeline.capacity ≤ step) :
    timeline.wordAt step = 0#32 := by
  rw [wordAt, List.getElem?_eq_none (by rw [words_length]; exact beyond), Option.getD_none]

/-- A new timeline is unwritten. -/
theorem unwritten?_wordAt {capacity : Nat} {timeline : Timeline}
    (made : unwritten? capacity = some timeline) :
    timeline.capacity = capacity ∧ ∀ step, timeline.wordAt step = 0#32 := by
  unfold unwritten? at made
  split at made
  · obtain rfl := Option.some.inj made
    refine ⟨rfl, fun step => ?_⟩
    simp only [wordAt, words, Waveform.toList, List.append_nil, List.reverse_replicate,
      List.getElem?_replicate]
    split <;> rfl
  · exact absurd made (by simp)

/-- The words before a step, in order. -/
theorem view_toList (timeline : Timeline) (stop : Nat) :
    (timeline.view stop).toList = timeline.words.take stop := by
  have total := timeline.full
  rw [view, Waveform.toList_reverse, Waveform.toList_drop, words, List.take_reverse,
    Waveform.length_toList, total]

/-! ## Writing -/

/-- A replacement stands between the words before its span and those after it. The replacement is
given latest step first, as the timeline stores its words. -/
theorem replace_words {timeline : Timeline} {span : Span} {replacement : Waveform}
    (inside : span.start ≤ span.stop ∧ span.stop ≤ timeline.capacity)
    (fits : replacement.length = span.length) :
    (timeline.replace span replacement inside fits).words =
      timeline.words.take span.start ++
        (replacement.toList.reverse ++ timeline.words.drop span.stop) := by
  have total : timeline.fromLast.toList.length = timeline.capacity := by
    rw [Waveform.length_toList, timeline.full]
  simp only [words, replace, Waveform.toList_append, Waveform.toList_take, Waveform.toList_drop,
    List.reverse_append, List.take_reverse, List.drop_reverse, total, List.append_assoc]

/-- Reads a list that was put together around a span: inside the span the middle is read from its
own beginning, and outside nothing moved. -/
theorem getD_replaced {words middle : List Word} {start stop : Nat}
    (length : middle.length = stop - start) (ordered : start ≤ stop) (inside : stop ≤ words.length)
    (step : Nat) :
    (words.take start ++ (middle ++ words.drop stop))[step]?.getD 0#32 =
      if start ≤ step ∧ step < stop then middle[step - start]?.getD 0#32
      else words[step]?.getD 0#32 := by
  have front : (words.take start).length = start := by
    rw [List.length_take]
    omega
  split
  · next within =>
    rw [List.getElem?_append_right (by omega), front, List.getElem?_append_left (by omega)]
  · next outside =>
    rcases Nat.lt_or_ge step start with before | after
    · rw [List.getElem?_append_left (by omega), List.getElem?_take_of_lt before]
    · rw [List.getElem?_append_right (by omega), front, List.getElem?_append_right (by omega),
        List.getElem?_drop]
      congr 2
      omega

/-- A write with room for all its data succeeds. It changes the words of its span to the data and no
other word. What was there before does not matter. -/
theorem write?_spec {timeline : Timeline} {start : Nat} {data : List Word}
    (inside : start + data.length ≤ timeline.capacity) :
    ∃ written, timeline.write? start data = some written ∧
      written.capacity = timeline.capacity ∧
      ∀ step, written.wordAt step =
        if start ≤ step ∧ step < start + data.length then data[step - start]?.getD 0#32
        else timeline.wordAt step := by
  have located : timeline.locate? ⟨start, start + data.length⟩ =
      some ⟨start, start + data.length⟩ :=
    locate?_of_le (Nat.le_trans (Nat.le_add_right _ _) inside) inside
  have fits : (Waveform.ofList data.reverse).length =
      (Span.mk start (start + data.length)).length := by
    rw [Waveform.length_eq, Waveform.toList_ofList, List.length_reverse, Span.length]
    exact (Nat.add_sub_cancel_left ..).symm
  refine ⟨timeline.replace ⟨start, start + data.length⟩ (.ofList data.reverse)
    ⟨Nat.le_add_right _ _, inside⟩ fits, ?_, rfl, ?_⟩
  · simp [write?, located, inside]
  · intro step
    rw [wordAt, replace_words, Waveform.toList_ofList, List.reverse_reverse]
    exact getD_replaced (by simp) (Nat.le_add_right _ _) (by rwa [words_length]) step

/-- The words of a span, in order, cut from the words of all steps. They are stored latest first, so
the span is counted from the end. -/
theorem slice_words (timeline : Timeline) {start stop : Nat} (ordered : start ≤ stop)
    (inside : stop ≤ timeline.capacity) :
    ((timeline.fromLast.drop (timeline.capacity - stop)).take (stop - start)).toList.reverse =
      (timeline.words.take stop).drop start := by
  have total : timeline.fromLast.toList.length = timeline.capacity := by
    rw [Waveform.length_toList, timeline.full]
  rw [Waveform.toList_take, Waveform.toList_drop, words, List.take_reverse, List.drop_reverse,
    total, List.length_drop, total]
  congr 2
  omega

/-- The words of a span read at its steps. -/
theorem slice_getElem? (timeline : Timeline) {start stop index : Nat}
    (inside : start + index < stop) :
    ((timeline.words.take stop).drop start)[index]? = timeline.words[start + index]? := by
  rw [List.getElem?_drop, List.getElem?_take_of_lt inside]

/-- Laying a flag over a span within the capacity succeeds. It adds the flag to the words of the
span and changes nothing else, whether or not the words carried it. -/
theorem setFlag?_spec {timeline : Timeline} {start stop : Nat} (flag : Word)
    (ordered : start ≤ stop) (inside : stop ≤ timeline.capacity) :
    ∃ flagged, timeline.setFlag? ⟨start, stop⟩ flag = some flagged ∧
      flagged.capacity = timeline.capacity ∧
      ∀ step, flagged.wordAt step =
        if start ≤ step ∧ step < stop then timeline.wordAt step ||| flag
        else timeline.wordAt step := by
  have located : timeline.locate? ⟨start, stop⟩ = some ⟨start, stop⟩ :=
    locate?_of_le (Nat.le_trans ordered inside) inside
  have total := words_length timeline
  have slice := slice_words timeline ordered inside
  simp only [setFlag?, located, Option.map_some, ordered, inside, and_self, dite_true, Span.length]
  refine ⟨_, rfl, rfl, fun step => ?_⟩
  rw [wordAt, replace_words, Waveform.toList_map, ← List.map_reverse, slice]
  rw [getD_replaced _ ordered (by rwa [words_length])]
  · split
    · next within =>
      have stored : step < timeline.words.length := by omega
      have place : start + (step - start) = step := by omega
      rw [List.getElem?_map, slice_getElem? timeline (by omega), place, wordAt,
        List.getElem?_eq_getElem stored]
      rfl
    · rfl
  · simp only [List.length_map, List.length_drop, List.length_take]
    omega

/-! ## Checks -/

/-- A test passes on a span exactly if it does for a word of the span. An empty span has no word, so
no test passes on it. -/
theorem slice?_any {timeline : Timeline} {start stop : Nat} (test : Word → Bool)
    (ordered : start ≤ stop) (inside : stop ≤ timeline.capacity) :
    ∃ slice, timeline.slice? ⟨start, stop⟩ = some slice ∧
      (slice.any test = true ↔
        ∃ step, start ≤ step ∧ step < stop ∧ test (timeline.wordAt step) = true) := by
  have located : timeline.locate? ⟨start, stop⟩ = some ⟨start, stop⟩ :=
    locate?_of_le (Nat.le_trans ordered inside) inside
  have total := words_length timeline
  refine ⟨(timeline.fromLast.drop (timeline.capacity - stop)).take (stop - start), ?_, ?_⟩
  · simp only [slice?, located, Option.map_some, Span.length]
  · rw [Waveform.any_eq, ← List.any_reverse, slice_words timeline ordered inside, List.any_eq_true]
    constructor
    · rintro ⟨word, member, passes⟩
      obtain ⟨index, read⟩ := List.mem_iff_getElem?.mp member
      have bound : start + index < stop := by
        have short := (List.getElem?_eq_some_iff.mp read).1
        simp only [List.length_drop, List.length_take] at short
        omega
      rw [slice_getElem? timeline bound] at read
      refine ⟨start + index, Nat.le_add_right _ _, bound, ?_⟩
      rwa [wordAt, read, Option.getD_some]
    · rintro ⟨step, after, before, passes⟩
      have stored : step < timeline.words.length := by omega
      have read : ((timeline.words.take stop).drop start)[step - start]? =
          some (timeline.wordAt step) := by
        have place : start + (step - start) = step := by omega
        rw [slice_getElem? timeline (by omega), place, wordAt, List.getElem?_eq_getElem stored,
          Option.getD_some]
      exact ⟨_, List.mem_of_getElem? read, passes⟩

/-- The check for written words passes exactly on a span of unwritten words; otherwise it reports
the span. On a span within the capacity there is no third way for it to end. -/
theorem assertUnwritten_spec {timeline : Timeline} {start stop : Nat} (ordered : start ≤ stop)
    (inside : stop ≤ timeline.capacity) :
    (timeline.assertUnwritten ⟨start, stop⟩ = .ok () ∧
        ∀ step, start ≤ step → step < stop → timeline.wordAt step = 0#32) ∨
      (timeline.assertUnwritten ⟨start, stop⟩ =
          .error (.rejected (.writeCollision stop ⟨start, stop⟩)) ∧
        ∃ step, start ≤ step ∧ step < stop ∧ timeline.wordAt step ≠ 0#32) := by
  obtain ⟨slice, cut, any⟩ := @slice?_any timeline start stop (· != 0#32) ordered inside
  rw [assertUnwritten, cut]
  dsimp only
  split
  · next written =>
    obtain ⟨step, after, before, nonzero⟩ := any.mp written
    exact .inr ⟨rfl, step, after, before, by simpa using nonzero⟩
  · next unwritten =>
    refine .inl ⟨rfl, fun step after before => ?_⟩
    by_contra nonzero
    exact unwritten (any.mpr ⟨step, after, before, by simpa using nonzero⟩)

/-- The test for a flag on a span within the capacity has a result, and the result is yes exactly if
a word of the span carries the flag. -/
theorem anyFlagged?_spec {timeline : Timeline} {start stop : Nat} (flag : Word)
    (ordered : start ≤ stop) (inside : stop ≤ timeline.capacity) :
    ∃ taken, timeline.anyFlagged? ⟨start, stop⟩ flag = some taken ∧
      (taken = true ↔ ∃ step, start ≤ step ∧ step < stop ∧
        (timeline.wordAt step).carries flag = true) := by
  obtain ⟨slice, cut, any⟩ := @slice?_any timeline start stop (·.carries flag) ordered inside
  exact ⟨_, by rw [anyFlagged?, cut, Option.map_some], any⟩

/-- The region before a step within the capacity only has to begin on the timeline. -/
theorem regionBefore_of_le {timeline : Timeline} {stop : Nat} (length : Nat)
    (inside : stop ≤ timeline.capacity) :
    timeline.regionBefore stop length =
      if stop < length then .error (.regionUnderflow stop length)
      else .ok ⟨stop - length, stop⟩ := by
  rw [regionBefore, if_neg (Nat.not_lt.mpr inside)]

end Timeline

end PulseProgram

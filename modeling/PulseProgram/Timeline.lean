import PulseProgram.CompileError
import PulseProgram.Waveform

/-!
# The timeline

The timeline holds one word for each clock step up to its capacity. A zero word
counts as unwritten. A region that has been written is not written again, except
that flags may be laid over its words; the checks for both rules are here, and
the caller decides which regions to check and write.

Updates are placed at increasing steps, close to the end of what is written, so
the words are kept from the last step down to the first.

A bound of a span is a 64-bit number. One with the highest bit set is negative
and counts back from the end, so that the largest number stands for the last
step. A bound beyond the capacity on either side stands for no step, and an
operation on such a span has no result. A span that stops before it starts is
empty.
-/

namespace PulseProgram

/-- The most words a timeline can have. The bytes of all its words, four each, are
counted by a signed 64-bit number. -/
def longestTimeline : Nat := 0x1fffffffffffffff

/-- The words of all steps, the last step first. There is a word for every step from the beginning,
and unwritten ones are zero. -/
structure Timeline where
  capacity : Nat
  fromLast : Waveform
  full : fromLast.length = capacity
  storable : capacity ≤ longestTimeline

namespace Timeline

/-- A timeline of unwritten words, if it is not too long to be stored. -/
def unwritten? (capacity : Nat) : Option Timeline :=
  if storable : capacity ≤ longestTimeline then
    some ⟨capacity, .hold capacity 0#32 .stop, by simp only [Waveform.length, Nat.add_zero],
      storable⟩
  else none

/-- The words of all steps in order, as many as the capacity. -/
def words (timeline : Timeline) : List Word := timeline.fromLast.toList.reverse

/-- The word at a step; there is none at or beyond the capacity. -/
def word? (timeline : Timeline) (step : Nat) : Option Word :=
  if step < timeline.capacity then timeline.fromLast.word? (timeline.capacity - 1 - step)
  else none

/-- The words before a step, or all of them if the step is beyond the capacity. -/
def view (timeline : Timeline) (stop : Nat) : Waveform :=
  (timeline.fromLast.drop (timeline.capacity - stop)).reverse

/-! ## Spans -/

/-- The step that a bound stands for: itself up to the capacity, and counted back from the end where
it is read as a negative number. -/
def stepOf? (timeline : Timeline) (bound : Nat) : Option Nat :=
  if bound ≤ timeline.capacity then some bound
  else
    let back := 0x10000000000000000 - bound
    if 0 < back ∧ back ≤ timeline.capacity then some (timeline.capacity - back) else none

/-- The span with both bounds as steps. A span with a bound that stands for no step has none. -/
def locate? (timeline : Timeline) (span : Span) : Option Span := do
  let start ← timeline.stepOf? span.start
  let stop ← timeline.stepOf? span.stop
  return ⟨start, stop⟩

/-- Bounds within the capacity stand for themselves. All spans that a sequencer forms are such. -/
theorem locate?_of_le {timeline : Timeline} {span : Span}
    (start_le : span.start ≤ timeline.capacity) (stop_le : span.stop ≤ timeline.capacity) :
    timeline.locate? span = some span := by
  simp only [locate?, stepOf?, if_pos start_le, if_pos stop_le, Option.bind_eq_bind,
    Option.bind_some, Option.pure_def]

/-- The words of a span, the last one first. A span that stops before it starts has no words. -/
def slice? (timeline : Timeline) (span : Span) : Option Waveform :=
  (timeline.locate? span).map fun span =>
    (timeline.fromLast.drop (timeline.capacity - span.stop)).take span.length

/-- The span of the given length that ends right before a step. A step beyond the capacity is
refused first, and then a span that would begin before the timeline. -/
def regionBefore (timeline : Timeline) (stop length : Nat) : Except CompileError Span :=
  if timeline.capacity < stop then .error (.bufferOverflow stop timeline.capacity)
  else if stop < length then .error (.regionUnderflow stop length)
  else .ok ⟨stop - length, stop⟩

/-- Whether any word of a span carries a bit of the flag. An empty span carries none. -/
def anyFlagged? (timeline : Timeline) (span : Span) (flag : Word) : Option Bool :=
  (timeline.slice? span).map (·.any (·.carries flag))

/-- Rejects a span with a written word. The rejection names the span and the step that it ends at,
not the word that was found. -/
def assertUnwritten (timeline : Timeline) (span : Span) : Except Fault Unit :=
  match timeline.slice? span with
  | none => .error .outOfBounds
  | some words =>
    if words.any (· != 0#32) then .error (.rejected (.writeCollision span.stop span)) else .ok ()

/-! ## Writing -/

/-- Puts other words in place of those of a span of steps. Span and words have to fit, so this has
no way to fail and the length of the timeline stays. -/
def replace (timeline : Timeline) (span : Span) (words : Waveform)
    (inside : span.start ≤ span.stop ∧ span.stop ≤ timeline.capacity)
    (fits : words.length = span.length) : Timeline where
  capacity := timeline.capacity
  fromLast := timeline.fromLast.take (timeline.capacity - span.stop) ++
    (words ++ timeline.fromLast.drop (timeline.capacity - span.start))
  full := by
    have total := timeline.full
    rw [Waveform.length_eq] at total fits ⊢
    simp only [Waveform.toList_append, Waveform.toList_take, Waveform.toList_drop,
      List.length_append, List.length_take, List.length_drop, fits, Span.length]
    omega
  storable := timeline.storable

/-- Overwrites the words from a step on. The step may be counted back from the end,
but then the words must stop before the end. -/
def write? (timeline : Timeline) (start : Nat) (data : List Word) : Option Timeline := do
  let span ← timeline.locate? ⟨start, start + data.length⟩
  if inside : span.start + data.length = span.stop ∧ span.stop ≤ timeline.capacity then
    some (timeline.replace span (.ofList data.reverse)
      ⟨Nat.le.intro inside.1, inside.2⟩
      (by rw [Waveform.length_eq, Waveform.toList_ofList, List.length_reverse, Span.length,
            ← inside.1, Nat.add_sub_cancel_left]))
  else none

/-- Lays a flag over every word of a span, keeping the other bits. Whether a word was written before
makes no difference. -/
def setFlag? (timeline : Timeline) (span : Span) (flag : Word) : Option Timeline :=
  (timeline.locate? span).map fun span =>
    if inside : span.start ≤ span.stop ∧ span.stop ≤ timeline.capacity then
      timeline.replace span
        (((timeline.fromLast.drop (timeline.capacity - span.stop)).take span.length).map
          (· ||| flag))
        inside
        (by
          have total := timeline.full
          rw [Waveform.length_eq] at total ⊢
          simp only [Waveform.toList_map, Waveform.toList_take, Waveform.toList_drop,
            List.length_map, List.length_take, List.length_drop, Span.length]
          omega)
    else timeline

end Timeline

end PulseProgram

import PulseProgram.Word

/-!
# Waveforms

A waveform is a sequence of words, one per clock step. Programs hold the same
word for thousands of steps, so the words are kept as runs. `toList` is the
sequence a waveform stands for; each operation is fixed by what it does to that
sequence.

Neighbouring runs may carry the same word and a run may be empty. `stretches`
gives the one description that does not depend on how the runs are cut.
-/

namespace PulseProgram

/-- A sequence of words as runs of equal words. The same sequence can be cut into runs in more than
one way. -/
inductive Waveform where
  | stop
  | hold (count : Nat) (word : Word) (rest : Waveform)
deriving DecidableEq

namespace Waveform

/-- The words of a waveform, one for each clock step. -/
def toList : Waveform → List Word
  | stop => []
  | hold count word rest => List.replicate count word ++ rest.toList

/-- The number of words, not that of runs. -/
def length : Waveform → Nat
  | stop => 0
  | hold count _ rest => count + rest.length

/-- A waveform with the given words, each in a run of its own. -/
def ofList : List Word → Waveform
  | [] => stop
  | word :: rest => hold 1 word (ofList rest)

/-- One waveform after the other. -/
def append : Waveform → Waveform → Waveform
  | stop, last => last
  | hold count word rest, last => hold count word (rest.append last)

instance : Append Waveform := ⟨append⟩

/-- The first words, or all of them if there are not so many. -/
def take : Nat → Waveform → Waveform
  | _, stop => stop
  | wanted, hold count word rest =>
    if wanted ≤ count then hold wanted word stop
    else hold count word (rest.take (wanted - count))

/-- All but the first words. -/
def drop : Nat → Waveform → Waveform
  | _, stop => stop
  | skipped, hold count word rest =>
    if skipped < count then hold (count - skipped) word rest
    else rest.drop (skipped - count)

/-- The words of a waveform in reverse order, then those of `done`. The runs are turned as they
are. -/
def reverseOnto : Waveform → Waveform → Waveform
  | stop, done => done
  | hold count word rest, done => rest.reverseOnto (hold count word done)

/-- The words in reverse order. -/
def reverse (waveform : Waveform) : Waveform := waveform.reverseOnto stop

/-- Changes every word. One change serves for a whole run. -/
def map (change : Word → Word) : Waveform → Waveform
  | stop => stop
  | hold count word rest => hold count (change word) (rest.map change)

/-- Whether any word satisfies the test. -/
def any (test : Word → Bool) : Waveform → Bool
  | stop => false
  | hold count word rest => (decide (0 < count) && test word) || rest.any test

/-- The word at an index. -/
def word? : Waveform → Nat → Option Word
  | stop, _ => none
  | hold count word rest, index => if index < count then some word else rest.word? (index - count)

/-! ## Operations through the view -/

/-- A waveform is as long as the list of its words. -/
@[simp] theorem length_toList (waveform : Waveform) :
    waveform.toList.length = waveform.length := by
  induction waveform with
  | stop => rfl
  | hold count word rest inductionHypothesis =>
    simp only [toList, length, List.length_append, List.length_replicate, inductionHypothesis]

/-- A waveform made of a list has the words of the list. -/
@[simp] theorem toList_ofList (words : List Word) : (ofList words).toList = words := by
  induction words with
  | nil => rfl
  | cons word rest inductionHypothesis =>
    simp only [ofList, toList, inductionHypothesis, List.replicate_succ, List.replicate_zero,
      List.cons_append, List.nil_append]

/-- The words of both, one after the other. -/
@[simp] theorem toList_append (first last : Waveform) :
    (first ++ last).toList = first.toList ++ last.toList := by
  show (first.append last).toList = _
  induction first with
  | stop => rfl
  | hold count word rest inductionHypothesis =>
    simp only [append, toList, inductionHypothesis, List.append_assoc]

/-- The first words of a waveform are the first words of its list. -/
@[simp] theorem toList_take (waveform : Waveform) (wanted : Nat) :
    (waveform.take wanted).toList = waveform.toList.take wanted := by
  induction waveform generalizing wanted with
  | stop => simp only [take, toList, List.take_nil]
  | hold count word rest inductionHypothesis =>
    simp only [take]
    split
    · next enough =>
      simp only [toList, List.append_nil, List.take_append, List.length_replicate,
        List.take_replicate, Nat.min_eq_left enough, Nat.sub_eq_zero_of_le enough, List.take_zero]
    · next short =>
      simp only [toList, inductionHypothesis, List.take_append, List.length_replicate,
        List.take_replicate, Nat.min_eq_right (Nat.le_of_lt (Nat.lt_of_not_le short))]

/-- Dropping words of a waveform drops them from its list. -/
@[simp] theorem toList_drop (waveform : Waveform) (skipped : Nat) :
    (waveform.drop skipped).toList = waveform.toList.drop skipped := by
  induction waveform generalizing skipped with
  | stop => simp only [drop, toList, List.drop_nil]
  | hold count word rest inductionHypothesis =>
    simp only [drop]
    split
    · next inside =>
      simp only [toList, List.drop_append, List.length_replicate, List.drop_replicate,
        Nat.sub_eq_zero_of_le (Nat.le_of_lt inside), List.drop_zero]
    · next beyond =>
      simp only [toList, inductionHypothesis, List.drop_append, List.length_replicate,
        List.drop_replicate, Nat.sub_eq_zero_of_le (Nat.le_of_not_lt beyond),
        List.replicate_zero, List.nil_append]

/-- The words in reverse order stand before those that are done. -/
theorem toList_reverseOnto (waveform done : Waveform) :
    (waveform.reverseOnto done).toList = waveform.toList.reverse ++ done.toList := by
  induction waveform generalizing done with
  | stop => rfl
  | hold count word rest inductionHypothesis =>
    simp only [reverseOnto, inductionHypothesis, toList, List.reverse_append,
      List.reverse_replicate, List.append_assoc]

/-- Reversing a waveform reverses its list. -/
@[simp] theorem toList_reverse (waveform : Waveform) :
    waveform.reverse.toList = waveform.toList.reverse := by
  simp only [reverse, toList_reverseOnto, toList, List.append_nil]

/-- Changing every word of a waveform changes every word of its list. -/
@[simp] theorem toList_map (waveform : Waveform) (change : Word → Word) :
    (waveform.map change).toList = waveform.toList.map change := by
  induction waveform with
  | stop => rfl
  | hold count word rest inductionHypothesis =>
    simp only [map, toList, inductionHypothesis, List.map_append, List.map_replicate]

/-- Equal sequences have equal lengths, however they are cut into runs. -/
theorem length_eq (waveform : Waveform) : waveform.length = waveform.toList.length :=
  (length_toList waveform).symm

/-! ## Stretches -/

/-- Equal words on consecutive steps from `first` on. -/
structure Stretch where
  first : Nat
  count : Nat
  word : Word
deriving DecidableEq

/-- A stretch that is worth a mention: not empty, and of a word that is not
zero. -/
def Stretch.nonzero (stretch : Stretch) : List Stretch :=
  if stretch.count = 0 || stretch.word = 0#32 then [] else [stretch]

/-- The stretches of a waveform whose first words may lengthen `current`. -/
def stretchesFrom (current : Stretch) : Waveform → List Stretch
  | stop => current.nonzero
  | hold count word rest =>
    if count = 0 then rest.stretchesFrom current
    else if word = current.word then
      rest.stretchesFrom { current with count := current.count + count }
    else current.nonzero ++ rest.stretchesFrom ⟨current.first + current.count, count, word⟩

/-- The longest stretches of equal words other than zero, in order. -/
def stretches (waveform : Waveform) : List Stretch := waveform.stretchesFrom ⟨0, 0, 0#32⟩

end Waveform

end PulseProgram

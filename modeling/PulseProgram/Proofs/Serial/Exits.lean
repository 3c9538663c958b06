import Mathlib.Data.List.Range
import PulseProgram.Proofs.Serial.Reading

/-!
# How reading a line ends

A line is read byte by byte until one of four things happens: a line feed comes, nothing comes,
a read fails, or there are more bytes than a line may have. The loop that does so has no bound
of its own. It is stated here as a relation, beside the definition that counts the room left in
the line, and the two are the same: the loop ends on every link, after one read more than a
line may have bytes at the latest, and what it ends with is told by the reads alone.
-/

namespace PulseProgram

/-- A link that keeps what its reads come to. It behaves as the link itself, so it measures an
operation that knows nothing of it. -/
structure Metered (σ : Type) where
  link : σ
  made : List (Except String (Option UInt8))

namespace Metered

variable {σ α : Type}

/-- Passes a call on that is not a read. -/
def pass (operation : Operation σ String α) : Operation (Metered σ) String α :=
  operation.onPart Metered.link fun metered link => { metered with link }

instance [SerialLink σ] : SerialLink (Metered σ) where
  readByte := fun metered =>
    let (result, link) := SerialLink.readByte metered.link
    (result, ⟨link, metered.made ++ [result]⟩)
  write bytes := pass (SerialLink.write bytes)
  flush := pass SerialLink.flush
  clearInput := pass SerialLink.clearInput

end Metered

namespace SerialLink

variable {σ : Type} [SerialLink σ]

/-! ## The reads of a link -/

/-- The link after so many reads, whatever they come to. -/
def afterReads (link : σ) : Nat → σ
  | 0 => link
  | count + 1 => afterReads (readByte link).2 count

/-- What the reads of a link come to, one after the other and without end. -/
def reads (link : σ) (number : Nat) : Except String (Option UInt8) :=
  (readByte (afterReads link number)).1

/-- The first read comes before those of the link that it leaves. So a list of reads is taken apart
at its head, as a loop makes them. -/
theorem map_reads_succ (link : σ) (count : Nat) :
    (List.range (count + 1)).map (reads link) =
      (readByte link).1 :: (List.range count).map (reads (readByte link).2) := by
  rw [List.range_succ_eq_map, List.map_cons, List.map_map]
  rfl

/-- The first reads give bytes, and none of them is a line feed. What the later reads give is
open. -/
structure Begins (link : σ) (bytes : Text.Bytes) : Prop where
  unended : 0x0a ∉ bytes
  given : ∀ number (inside : number < bytes.length), reads link number = .ok (some bytes[number])

namespace Begins

/-- Without bytes there is nothing to be given. -/
theorem nil (link : σ) : Begins link [] := ⟨List.not_mem_nil, nofun⟩

/-- The first byte is read before the others. -/
theorem cons_iff {link : σ} {byte : UInt8} {bytes : Text.Bytes} :
    Begins link (byte :: bytes) ↔
      byte ≠ 0x0a ∧ (readByte link).1 = .ok (some byte) ∧ Begins (readByte link).2 bytes := by
  constructor
  · rintro ⟨unended, given⟩
    obtain ⟨more, unended⟩ : 0x0a ≠ byte ∧ 0x0a ∉ bytes := by simpa using unended
    refine ⟨Ne.symm more, given 0 (Nat.zero_lt_succ _), unended, fun number inside => ?_⟩
    exact given (number + 1) (Nat.succ_lt_succ inside)
  · rintro ⟨more, first, unended, given⟩
    refine ⟨by simp [Ne.symm more, unended], fun number inside => ?_⟩
    cases number with
    | zero => exact first
    | succ number => exact given number (Nat.lt_of_succ_lt_succ inside)

/-- The last byte is read after the others. -/
theorem of_concat {link : σ} {byte : UInt8} {bytes : Text.Bytes}
    (begins : Begins link (bytes ++ [byte])) :
    Begins link bytes ∧ byte ≠ 0x0a ∧ reads link bytes.length = .ok (some byte) := by
  obtain ⟨unended, given⟩ := begins
  obtain ⟨unended, more⟩ : 0x0a ∉ bytes ∧ 0x0a ≠ byte := by simpa using unended
  refine ⟨⟨unended, fun number inside => ?_⟩, Ne.symm more, ?_⟩
  · rw [given number (by simp; omega), List.getElem_append_left inside]
  · rw [given bytes.length (by simp), List.getElem_concat_length rfl]

end Begins

/-! ## The loop -/

/-- Reading on in a line: from the bytes received so far and a link, with a number of reads, to what
comes of it. There is no bound on the number of turns in this: the length of the line alone ends a
loop that meets no line feed. -/
inductive ReadsOn : Text.Bytes → σ → Nat → Except LinkError String × σ → Prop where
  | failed {line : Text.Bytes} {link after : σ} {reason : String}
      (read : readByte link = (.error reason, after)) :
      ReadsOn line link 1 (.error (.failed reason), after)
  | silent {line : Text.Bytes} {link after : σ} (read : readByte link = (.ok none, after)) :
      ReadsOn line link 1 (.error .timedOut, after)
  | ended {line : Text.Bytes} {link after : σ}
      (read : readByte link = (.ok (some 0x0a), after)) :
      ReadsOn line link 1 (.ok (lineText line), after)
  | overlong {line : Text.Bytes} {link after : σ} {byte : UInt8}
      (read : readByte link = (.ok (some byte), after)) (more : byte ≠ 0x0a)
      (long : longestLine < (line ++ [byte]).length) :
      ReadsOn line link 1 (.error .lineTooLong, after)
  | again {line : Text.Bytes} {link after : σ} {byte : UInt8} {count : Nat}
      {ended : Except LinkError String × σ} (read : readByte link = (.ok (some byte), after))
      (more : byte ≠ 0x0a) (short : (line ++ [byte]).length ≤ longestLine)
      (rest : ReadsOn (line ++ [byte]) after count ended) : ReadsOn line link (count + 1) ended

namespace ReadsOn

variable {line : Text.Bytes} {link : σ} {count other : Nat}
  {ended otherEnded : Except LinkError String × σ}

/-- The loop goes one way, with one number of reads. The outcome of a read decides the turn, and for
another byte the length of the line does. -/
theorem unique (loop : ReadsOn line link count ended)
    (otherLoop : ReadsOn line link other otherEnded) : count = other ∧ ended = otherEnded := by
  induction loop generalizing other with
  | failed read => cases otherLoop <;> simp_all
  | silent read => cases otherLoop <;> simp_all
  | ended read => cases otherLoop <;> simp_all
  | overlong read more long =>
    cases otherLoop with
    | again otherRead otherMore short rest =>
      obtain ⟨⟨⟩, rfl⟩ := Prod.mk.inj (read.symm.trans otherRead)
      exact absurd short (Nat.not_le_of_lt long)
    | _ => simp_all
  | again read more short rest inductionHypothesis =>
    cases otherLoop with
    | overlong otherRead otherMore long =>
      obtain ⟨⟨⟩, rfl⟩ := Prod.mk.inj (read.symm.trans otherRead)
      exact absurd short (Nat.not_le_of_lt long)
    | again otherRead otherMore otherShort otherRest =>
      obtain ⟨⟨⟩, rfl⟩ := Prod.mk.inj (read.symm.trans otherRead)
      obtain ⟨rfl, rfl⟩ := inductionHypothesis otherRest
      exact ⟨rfl, rfl⟩
    | _ => simp_all

/-- The loop leaves the link as its reads leave it. Nothing is read ahead and nothing is put
back. -/
theorem link_eq (loop : ReadsOn line link count ended) : ended.2 = afterReads link count := by
  induction loop with
  | failed read => simp [afterReads, read]
  | silent read => simp [afterReads, read]
  | ended read => simp [afterReads, read]
  | overlong read more long => simp [afterReads, read]
  | again read more short rest inductionHypothesis =>
    rw [inductionHypothesis, afterReads, read]

/-- Keeping what the reads come to does not disturb the loop, and one result is kept for each read.
So the number of turns is the number of reads and not only a count in the statement. -/
theorem metered (loop : ReadsOn line link count ended)
    (made : List (Except String (Option UInt8))) :
    ReadsOn line (Metered.mk link made) count
      (ended.1, ⟨ended.2, made ++ (List.range count).map (reads link)⟩) := by
  have keeps {link after : σ} {result : Except String (Option UInt8)}
      (read : readByte link = (result, after)) (made : List (Except String (Option UInt8))) :
      readByte (Metered.mk link made) = (result, ⟨after, made ++ [(readByte link).1]⟩) := by
    simp [readByte, read]
  induction loop generalizing made with
  | failed read => exact .failed (keeps read made)
  | silent read => exact .silent (keeps read made)
  | ended read => exact .ended (keeps read made)
  | overlong read more long => exact .overlong (keeps read made) more long
  | @again line link after byte count ended read more short rest inductionHypothesis =>
    have later := inductionHypothesis (made ++ [(readByte link).1])
    rw [map_reads_succ, List.append_cons, read]
    rw [read] at later
    exact .again (by rw [keeps read, read]) more short later

/-- The loop goes through bytes that do not end the line, as long as there is room for them. It is
by induction on these bytes, each of which is one turn. -/
theorem through {bytes : Text.Bytes} (begins : Begins link bytes)
    (short : (line ++ bytes).length ≤ longestLine)
    (rest : ReadsOn (line ++ bytes) (afterReads link bytes.length) count ended) :
    ReadsOn line link (bytes.length + count) ended := by
  induction bytes generalizing line link with
  | nil => simpa [afterReads] using rest
  | cons byte bytes inductionHypothesis =>
    obtain ⟨more, first, begins⟩ := Begins.cons_iff.mp begins
    have read : readByte link = (.ok (some byte), (readByte link).2) := Prod.ext first rfl
    have longer : line ++ byte :: bytes = line ++ [byte] ++ bytes := by simp
    rw [longer] at short rest
    have loop := inductionHypothesis begins short rest
    rw [List.length_cons, Nat.add_right_comm]
    exact .again read more (by simp at short ⊢; omega) loop

end ReadsOn

/-- Receiving a byte is one turn of the loop. What goes on with another byte is left open, except
that it makes so many reads at most. -/
theorem readsOn_receive (received : Text.Bytes) {goOn : UInt8 → Operation σ LinkError String}
    {link : σ} {most : Nat} (some_room : 1 ≤ most)
    (next : ∀ byte after, readByte link = (.ok (some byte), after) → byte ≠ 0x0a →
      ∃ count ≤ most, ReadsOn received.reverse link count (goOn byte after)) :
    ∃ count ≤ most, ReadsOn received.reverse link count (receive received goOn link) := by
  rw [receive_run]
  cases read : readByte link with
  | mk result after =>
    cases result with
    | error reason => exact ⟨1, some_room, .failed read⟩
    | ok byte =>
      cases byte with
      | none => exact ⟨1, some_room, .silent read⟩
      | some byte =>
        dsimp only
        split
        · next ends =>
          subst ends
          exact ⟨1, some_room, .ended read⟩
        · next more => exact next byte after read more

/-- The definition that counts the room left in the line does what the loop does. The room and the
bytes received make up the longest line, so the count runs out where the length is exceeded. -/
theorem readsOn_readLineFrom (received : Text.Bytes) (room : Nat)
    (left : received.length + room = longestLine) (link : σ) :
    ∃ count ≤ room + 1, ReadsOn received.reverse link count (readLineFrom received room link) := by
  induction room generalizing received link with
  | zero =>
    refine readsOn_receive received le_rfl fun byte after read more => ?_
    exact ⟨1, le_rfl, .overlong read more (by simp; omega)⟩
  | succ room inductionHypothesis =>
    refine readsOn_receive received (by omega) fun byte after read more => ?_
    obtain ⟨count, bound, loop⟩ := inductionHypothesis (byte :: received) (by simp; omega) after
    rw [List.reverse_cons] at loop
    exact ⟨count + 1, by omega, .again read more (by simp; omega) loop⟩

/-! ## The exits -/

/-- How reading on in a line ends, told by the reads: with the number of reads made. It speaks of no
loop and no order of turns, only of what the reads come to. -/
inductive Exit (link : σ) (line : Text.Bytes) : Nat → Except LinkError String → Prop where
  | failed {bytes : Text.Bytes} {reason : String} (begins : Begins link bytes)
      (short : (line ++ bytes).length ≤ longestLine)
      (next : reads link bytes.length = .error reason) :
      Exit link line (bytes.length + 1) (.error (.failed reason))
  | silent {bytes : Text.Bytes} (begins : Begins link bytes)
      (short : (line ++ bytes).length ≤ longestLine)
      (next : reads link bytes.length = .ok none) :
      Exit link line (bytes.length + 1) (.error .timedOut)
  | ended {bytes : Text.Bytes} (begins : Begins link bytes)
      (short : (line ++ bytes).length ≤ longestLine)
      (next : reads link bytes.length = .ok (some 0x0a)) :
      Exit link line (bytes.length + 1) (.ok (lineText (line ++ bytes)))
  | overlong {bytes : Text.Bytes} (begins : Begins link bytes)
      (long : (line ++ bytes).length = longestLine + 1) :
      Exit link line bytes.length (.error .lineTooLong)

section Exits

variable {line : Text.Bytes} {link : σ} {count : Nat} {outcome : Except LinkError String}

/-- A byte that goes into the line comes before what ends it, so the exit is the same with one read
more. -/
theorem Exit.cons {byte : UInt8} {after : σ} (read : readByte link = (.ok (some byte), after))
    (more : byte ≠ 0x0a) (exit : Exit after (line ++ [byte]) count outcome) :
    Exit link line (count + 1) outcome := by
  have begins {bytes : Text.Bytes} (rest : Begins after bytes) : Begins link (byte :: bytes) :=
    Begins.cons_iff.mpr ⟨more, by rw [read], by rwa [read]⟩
  have later (number : Nat) : reads link (number + 1) = reads after number := by
    change reads (readByte link).2 number = _
    rw [read]
  cases exit with
  | failed rest short next =>
    exact .failed (begins rest) (by simpa using short) ((later _).trans next)
  | silent rest short next =>
    exact .silent (begins rest) (by simpa using short) ((later _).trans next)
  | @ended bytes rest short next =>
    have exit : Exit link line _ _ :=
      .ended (begins rest) (by simpa using short) ((later _).trans next)
    simpa using exit
  | overlong rest long => exact .overlong (begins rest) (by simpa using long)

/-- The loop ends as the reads tell, from any line that is not too long already. It is by induction
on the turns, each of which puts one byte before the exit of the others. -/
theorem ReadsOn.exit {ended : Except LinkError String × σ} (loop : ReadsOn line link count ended)
    (fits : line.length ≤ longestLine) : Exit link line count ended.1 := by
  induction loop with
  | failed read => exact .failed (.nil _) (by simpa using fits) (congrArg Prod.fst read)
  | silent read => exact .silent (.nil _) (by simpa using fits) (congrArg Prod.fst read)
  | @ended line link after read =>
    have exit : Exit link line 1 _ :=
      .ended (.nil _) (by simpa using fits) (congrArg Prod.fst read)
    simpa using exit
  | @overlong line link after byte read more long =>
    have begins : Begins link [byte] :=
      Begins.cons_iff.mpr ⟨more, congrArg Prod.fst read, .nil _⟩
    exact .overlong begins (by simp at long ⊢; omega)
  | again read more short rest inductionHypothesis =>
    exact .cons read more (inductionHypothesis short)

/-- What the reads tell, the loop does. So every exit is reached, and none of the four excludes
another by more than what the reads come to. -/
theorem Exit.loop (exit : Exit link line count outcome) (fits : line.length ≤ longestLine) :
    ∃ after, ReadsOn line link count (outcome, after) := by
  cases exit with
  | failed begins short next => exact ⟨_, .through begins short (.failed (Prod.ext next rfl))⟩
  | silent begins short next => exact ⟨_, .through begins short (.silent (Prod.ext next rfl))⟩
  | ended begins short next => exact ⟨_, .through begins short (.ended (Prod.ext next rfl))⟩
  | @overlong bytes begins long =>
    rcases bytes.eq_nil_or_concat with rfl | ⟨earlier, byte, rfl⟩
    · rw [List.append_nil] at long
      omega
    · rw [List.concat_eq_append] at begins long ⊢
      obtain ⟨begins, more, next⟩ := begins.of_concat
      rw [List.length_append]
      refine ⟨_, .through begins ?_ (.overlong (Prod.ext next rfl) more ?_)⟩
      · simp at long ⊢
        omega
      · simp at long ⊢
        omega

/-- From an empty line a text is returned exactly for the bytes before a line feed. -/
theorem Exit.ok_iff {text : String} : Exit link [] count (.ok text) ↔
    ∃ bytes, Begins link bytes ∧ bytes.length ≤ 256 ∧ reads link bytes.length = .ok (some 0x0a) ∧
      text = lineText bytes ∧ count = bytes.length + 1 := by
  constructor
  · rintro (_ | _ | ⟨begins, short, next⟩)
    exact ⟨_, begins, short, next, rfl, rfl⟩
  · rintro ⟨bytes, begins, short, next, rfl, rfl⟩
    exact .ended begins short next

/-- From an empty line the wait ends exactly where a read gives nothing before any line feed. -/
theorem Exit.silent_iff : Exit link [] count (.error .timedOut) ↔
    ∃ bytes, Begins link bytes ∧ bytes.length ≤ 256 ∧ reads link bytes.length = .ok none ∧
      count = bytes.length + 1 := by
  constructor
  · rintro (_ | ⟨begins, short, next⟩)
    exact ⟨_, begins, short, next, rfl⟩
  · rintro ⟨bytes, begins, short, next, rfl⟩
    exact .silent begins short next

/-- From an empty line the reason of a failure is told exactly where a read fails before any line
feed. -/
theorem Exit.failed_iff {reason : String} : Exit link [] count (.error (.failed reason)) ↔
    ∃ bytes, Begins link bytes ∧ bytes.length ≤ 256 ∧ reads link bytes.length = .error reason ∧
      count = bytes.length + 1 := by
  constructor
  · rintro ⟨begins, short, next⟩
    exact ⟨_, begins, short, next, rfl⟩
  · rintro ⟨bytes, begins, short, next, rfl⟩
    exact .failed begins short next

/-- From an empty line the line is given up exactly at one byte more than it may have. -/
theorem Exit.overlong_iff : Exit link [] count (.error .lineTooLong) ↔
    ∃ bytes, Begins link bytes ∧ bytes.length = 257 ∧ count = 257 := by
  constructor
  · rintro (_ | _ | _ | ⟨begins, long⟩)
    exact ⟨_, begins, long, long⟩
  · rintro ⟨bytes, begins, long, rfl⟩
    rw [← long]
    exact .overlong begins long

end Exits

/-- When reading a line stops, by the reads that it makes. The four exits are told apart by
equivalences, so none of them is taken where another one is due. -/
structure StopsAfter (link : σ) (count : Nat) (ended : Except LinkError String × σ) : Prop where
  /-- It makes so many reads at most. -/
  bounded : count ≤ 257
  /-- The link is left as the reads leave it, so nothing beyond them is consumed. -/
  consumed : ended.2 = afterReads link count
  /-- The loop stops there and nowhere else. -/
  loop_iff : ∀ number other, ReadsOn [] link number other ↔ number = count ∧ other = ended
  /-- A line is returned exactly if a line feed comes before anything else does. -/
  ok_iff : ∀ line number, ended.1 = .ok line ∧ count = number ↔
    ∃ bytes, Begins link bytes ∧ bytes.length ≤ 256 ∧
      reads link bytes.length = .ok (some 0x0a) ∧
      line = String.ofList (Text.trimRight (Text.decodeLossy bytes)) ∧ number = bytes.length + 1
  silent_iff : ∀ number, ended.1 = .error .timedOut ∧ count = number ↔
    ∃ bytes, Begins link bytes ∧ bytes.length ≤ 256 ∧
      reads link bytes.length = .ok none ∧ number = bytes.length + 1
  failed_iff : ∀ reason number, ended.1 = .error (.failed reason) ∧ count = number ↔
    ∃ bytes, Begins link bytes ∧ bytes.length ≤ 256 ∧
      reads link bytes.length = .error reason ∧ number = bytes.length + 1
  overlong_iff : ∀ number, ended.1 = .error .lineTooLong ∧ count = number ↔
    ∃ bytes, Begins link bytes ∧ bytes.length = 257 ∧ number = 257

/-- Reading a line stops on every link, whatever its reads come to: the link may send without end,
fail at any time and depend on all that was read before. Metering the link does not disturb it and
shows that it makes as many reads as it is said to.

Proof: the definition does what the loop does, within one read more than a line may have bytes. The
loop goes one way, so what the reads tell of some loop they tell of this one. -/
theorem readLine_stops (link : σ) :
    ∃ count, StopsAfter link count (readLine link) ∧
      readLine (Metered.mk link []) = ((readLine link).1,
        ⟨(readLine link).2, (List.range count).map (reads link)⟩) := by
  obtain ⟨count, bound, loop⟩ := readsOn_readLineFrom [] longestLine (Nat.zero_add _) link
  obtain ⟨other, -, meteredLoop⟩ :=
    readsOn_readLineFrom [] longestLine (Nat.zero_add _) (Metered.mk link [])
  refine ⟨count, ?_, (meteredLoop.unique (loop.metered [])).2⟩
  have exit_iff (number : Nat) (outcome : Except LinkError String) :
      (readLine link).1 = outcome ∧ count = number ↔ Exit link [] number outcome := by
    constructor
    · rintro ⟨rfl, rfl⟩
      exact loop.exit (Nat.zero_le _)
    · intro exit
      obtain ⟨after, otherLoop⟩ := exit.loop (Nat.zero_le _)
      obtain ⟨same, ended⟩ := loop.unique otherLoop
      exact ⟨congrArg Prod.fst ended, same⟩
  exact {
    bounded := bound
    consumed := loop.link_eq
    loop_iff := fun number other =>
      ⟨fun otherLoop => otherLoop.unique loop, by rintro ⟨rfl, rfl⟩; exact loop⟩
    ok_iff := fun line number => (exit_iff number _).trans Exit.ok_iff
    silent_iff := fun number => (exit_iff number _).trans Exit.silent_iff
    failed_iff := fun reason number => (exit_iff number _).trans Exit.failed_iff
    overlong_iff := fun number => (exit_iff number _).trans Exit.overlong_iff }

end SerialLink

end PulseProgram

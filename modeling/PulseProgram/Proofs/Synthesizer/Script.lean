import PulseProgram.Proofs.Synthesizer.Dialogue
import PulseProgram.Proofs.Synthesizer.EntryText
import PulseProgram.SynthTable

/-!
# The script of a programming

Loading a table and arming it is one list of commands, of which those that write entries depend
on the table alone: row after row, channel after channel, each entry at the index of its row,
and then the last row once more behind the table, where it stops. The entries ascend, so none is
written twice, and the command that arms the table is the last.
-/

namespace PulseProgram.Synthesizer

/-! ## The entries of a table -/

/-- The entries of a row, channel after channel. -/
def rowScript (row : SynthRow) (index : Nat) (terminal : Bool) : List TableEntry :=
  (List.finRange 4).map fun channel : Fin 4 =>
    { channel, index, megahertz := row.get channel, phase := 0#16, amplitude := fullAmplitude,
      terminal }

/-- The entries of a table: its rows, which go on, and the last row at the index after them,
which stops. -/
def tableScript (rows : List SynthRow) : List TableEntry :=
  (rows.zipIdx.flatMap fun (row, index) => rowScript row index false) ++
    rows.getLast?.toList.flatMap fun row => rowScript row rows.length true

/-- The entries that are written for a row are its script. -/
theorem rowEntries_eq (row : SynthRow) (index : Nat) (terminal : Bool) :
    rowEntries index terminal row.toList = rowScript row index terminal := by
  apply List.ext_getElem
  · simp [rowEntries, rowScript, channelCount]
  · intro channel inEntries inScript
    simp [rowEntries, rowScript, Vector.get]

/-- The entries that are written for a table are its script. -/
theorem tableEntries_eq (rows : List SynthRow) :
    tableEntries (rows.map Vector.toList) = tableScript rows := by
  have goingOn : (rows.map Vector.toList).mapIdx (fun index row => rowEntries index false row) =
      rows.zipIdx.map fun (row, index) => rowScript row index false := by
    simp [List.mapIdx_eq_zipIdx_map, List.zipIdx_map, Function.comp_def, rowEntries_eq]
  rw [tableEntries, goingOn, tableScript, List.flatMap_def, List.getLast?_map, List.length_map]
  cases rows.getLast? with
  | none => rfl
  | some row => simp [rowEntries_eq]

/-! ## Where the entries go -/

/-- The entries of a row are for the channels of the device, at the index of the row, and all of
them stop the table or none does. -/
theorem mem_rowScript {row : SynthRow} {index : Nat} {terminal : Bool} {entry : TableEntry}
    (written : entry ∈ rowScript row index terminal) :
    entry.channel < channelCount ∧ entry.index = index ∧ entry.terminal = terminal := by
  obtain ⟨channel, -, rfl⟩ := List.mem_map.mp written
  exact ⟨channel.isLt, rfl, rfl⟩

/-- Every entry is for a channel of the device, at an index up to the one behind the rows, and only
the entries there stop the table. Without rows there are no entries at all. -/
theorem mem_tableScript {rows : List SynthRow} {entry : TableEntry}
    (written : entry ∈ tableScript rows) :
    entry.channel < channelCount ∧ entry.index ≤ rows.length ∧
      (entry.terminal = true ↔ entry.index = rows.length) := by
  rcases List.mem_append.mp written with inRow | behind
  · obtain ⟨⟨row, index⟩, numbered, inRow⟩ := List.mem_flatMap.mp inRow
    obtain ⟨channel, rfl, goesOn⟩ := mem_rowScript inRow
    have inside := (List.mem_zipIdx numbered).2.1
    refine ⟨channel, by omega, ?_⟩
    rw [goesOn]
    constructor
    · intro stops
      contradiction
    · omega
  · obtain ⟨row, -, inRow⟩ := List.mem_flatMap.mp behind
    obtain ⟨channel, index, stops⟩ := mem_rowScript inRow
    exact ⟨channel, Nat.le_of_eq index, fun _ => index, fun _ => stops⟩

/-- An entry comes before another in the table. -/
def Precedes (first second : TableEntry) : Prop :=
  first.index < second.index ∨ first.index = second.index ∧ first.channel < second.channel

/-- The entries of a row are written in the order of the channels. -/
theorem rowScript_ascends (row : SynthRow) (index : Nat) (terminal : Bool) :
    (rowScript row index terminal).Pairwise Precedes := by
  rw [rowScript, List.pairwise_map]
  exact (List.pairwise_lt_finRange 4).imp fun less => .inr ⟨rfl, less⟩

/-- The entries are written in the order of the table, so no two of them are for the same channel
and index. Rows are compared by their index and the entries of one row by their channel. -/
theorem tableScript_ascends (rows : List SynthRow) : (tableScript rows).Pairwise Precedes := by
  rw [tableScript, List.pairwise_append]
  refine ⟨?_, ?_, ?_⟩
  · rw [List.pairwise_flatMap]
    refine ⟨fun numbered _ => rowScript_ascends numbered.1 numbered.2 false, ?_⟩
    have ascending : (rows.zipIdx.map Prod.snd).Pairwise (· < ·) := by
      rw [List.zipIdx_map_snd]
      exact List.pairwise_lt_range'
    refine (List.pairwise_map.mp ascending).imp ?_
    intro first second less entry inFirst other inSecond
    left
    rwa [(mem_rowScript inFirst).2.1, (mem_rowScript inSecond).2.1]
  · cases rows.getLast? with
    | none => exact .nil
    | some row => simpa using rowScript_ascends row rows.length true
  · intro entry inRow last behind
    obtain ⟨⟨row, index⟩, numbered, inRow⟩ := List.mem_flatMap.mp inRow
    obtain ⟨lastRow, -, inLast⟩ := List.mem_flatMap.mp behind
    left
    rw [(mem_rowScript inRow).2.1, (mem_rowScript inLast).2.1]
    have inside := (List.mem_zipIdx numbered).2.1
    omega

/-! ## The lines of the script -/

/-- The line writes an entry for a channel at an index. -/
def WritesEntry (channel index : Nat) (terminal : Bool) (line : Text.Bytes) : Prop :=
  ∃ (entry : TableEntry) (command : Command), Command.tableEntry entry = .ok command ∧
    command.line = line ∧ entry.channel = channel ∧ entry.index = index ∧
    entry.terminal = terminal

/-- The commands that prepare for the entries. -/
def preparing : List Command :=
  [Command.echoOff, Command.phaseContinuous true, Command.simultaneousUpdate false,
    Command.defineTable]

/-- The commands that load a table and arm it. -/
def script (rows : List SynthRow) : List (Except SynthError Command) :=
  preparing.map .ok ++ ((tableScript rows).map Command.tableEntry ++ [.ok Command.runTable])

/-- Programming is going through the script, for any synthesizer. Commands that cannot be formed
stand in the script as well, where they end it. -/
theorem programTable_eq {τ : Type} [Synthesizer τ] (rows : List SynthRow) :
    (programTable (rows.map Vector.toList) : Operation τ SynthError Unit) =
      requestAll (script rows) := by
  rw [programTable, writeEntries_eq, tableEntries_eq, script, requestAll_append,
    requestAll_append]
  simp only [setUp, preparing, List.map_cons, List.map_nil, requestAll, request_ok, bind_assoc,
    bind_pure_unit]

/-- What else the script sends writes no entry. Its texts begin otherwise than those of entries. -/
theorem not_writesEntry {command : Command}
    (other : command ∈ preparing ∨ command = Command.runTable) {channel index : Nat}
    {terminal : Bool} : ¬ WritesEntry channel index terminal command.line := by
  rintro ⟨entry, written, formed, same, -⟩
  have otherwise : ∀ command ∈ Command.runTable :: preparing,
      command.text.toList.head? ≠ some 't' := by decide
  exact Command.tableEntry_line_ne formed (otherwise command (List.mem_cons.mpr other.symm)) same

/-- An entry's line writes that entry and no other, since the fields of an entry can be read back
from its line. -/
theorem writesEntry_iff {entry : TableEntry} {line : Text.Bytes}
    (sent : lineOf (Command.tableEntry entry) = some line) {channel index : Nat}
    {terminal : Bool} : WritesEntry channel index terminal line ↔
      entry.channel = channel ∧ entry.index = index ∧ entry.terminal = terminal := by
  cases formed : Command.tableEntry entry with
  | error cause =>
    rw [formed] at sent
    contradiction
  | ok command =>
    rw [formed] at sent
    cases sent
    constructor
    · rintro ⟨other, written, otherFormed, same, rfl, rfl, rfl⟩
      exact Command.tableEntry_determined formed otherFormed same.symm
    · rintro ⟨rfl, rfl, rfl⟩
      exact ⟨entry, command, formed, rfl, rfl, rfl, rfl⟩

/-- If two commands write an entry each, the entries differ in channel or index. -/
def Apart (earlier later : Except SynthError Command) : Prop :=
  ∀ line, lineOf earlier = some line → ∀ other, lineOf later = some other →
    ∀ channel index terminal otherTerminal, WritesEntry channel index terminal line →
      ¬ WritesEntry channel index otherTerminal other

/-- No two commands of the script write the same entry, be it with the same settings or with others.

Proof: commands that write no entry are apart from everything, and the entries of the table
ascend. -/
theorem script_apart (rows : List SynthRow) : (script rows).Pairwise Apart := by
  rw [script, List.pairwise_append, List.pairwise_append]
  refine ⟨?_, ⟨?_, List.pairwise_singleton _ _, ?_⟩, ?_⟩
  · rw [List.pairwise_map]
    refine List.pairwise_of_forall_mem_list ?_
    rintro command prepares later - line ⟨⟩ other sent channel index terminal otherTerminal writes
    exact (not_writesEntry (.inl prepares) writes).elim
  · rw [List.pairwise_map]
    refine (tableScript_ascends rows).imp ?_
    intro earlier later precedes line sent other sentLater channel index terminal otherTerminal
      writes writesAgain
    obtain ⟨channels, indices, -⟩ := (writesEntry_iff sent).mp writes
    obtain ⟨sameChannel, sameIndex, -⟩ := (writesEntry_iff sentLater).mp writesAgain
    rcases precedes with less | ⟨-, less⟩
    · omega
    · omega
  · intro earlier _ last isLast line sent other sentLast channel index terminal otherTerminal _
      writesAgain
    obtain rfl := List.mem_singleton.mp isLast
    cases sentLast
    exact not_writesEntry (.inr rfl) writesAgain
  · intro earlier isFirst later _ line sent other _ channel index terminal otherTerminal writes
    obtain ⟨command, prepares, rfl⟩ := List.mem_map.mp isFirst
    cases sent
    exact (not_writesEntry (.inl prepares) writes).elim

/-- The lines of the script write entries for the channels of the device up to the index behind the
rows, and only the entries there stop the table. -/
theorem script_writes {rows : List SynthRow} {line : Text.Bytes}
    (sent : line ∈ (script rows).filterMap lineOf) {channel index : Nat} {terminal : Bool}
    (writes : WritesEntry channel index terminal line) :
    channel < channelCount ∧ index ≤ rows.length ∧ (terminal = true ↔ index = rows.length) := by
  obtain ⟨command, listed, ofCommand⟩ := List.mem_filterMap.mp sent
  rcases List.mem_append.mp listed with isFirst | listed
  · obtain ⟨command, prepares, rfl⟩ := List.mem_map.mp isFirst
    cases ofCommand
    exact (not_writesEntry (.inl prepares) writes).elim
  · rcases List.mem_append.mp listed with isEntry | isLast
    · obtain ⟨entry, written, rfl⟩ := List.mem_map.mp isEntry
      obtain ⟨rfl, rfl, rfl⟩ := (writesEntry_iff ofCommand).mp writes
      exact mem_tableScript written
    · obtain rfl := List.mem_singleton.mp isLast
      cases ofCommand
      exact (not_writesEntry (.inr rfl) writes).elim

/-- The line that arms the table is sent for no other command of the script: it is none of those
that prepare, and it writes no entry. -/
theorem runTable_only_last (rows : List SynthRow) {line : Text.Bytes}
    (before : line ∈ wire (preparing ++ formed ((tableScript rows).map Command.tableEntry))) :
    line ≠ Command.runTable.line := by
  rw [wire_append] at before
  rcases List.mem_append.mp before with prepares | isEntry
  · have distinct : ∀ line ∈ wire preparing, line ≠ Command.runTable.line := by decide
    exact distinct line prepares
  · obtain ⟨command, listed, sent⟩ :=
      List.mem_filterMap.mp ((wire_formed_begins _).subset isEntry)
    obtain ⟨entry, -, rfl⟩ := List.mem_map.mp listed
    rintro rfl
    exact not_writesEntry (.inr rfl) ((writesEntry_iff sent).mpr ⟨rfl, rfl, rfl⟩)

/-- The line that arms the table is sent last, and only if the whole script is.

Proof: if some entry cannot be formed, the lines stop before the command that arms, whose line is
sent for no other. If all can be formed, the line is the last one or lies before it, and the latter
is excluded in the same way. -/
theorem runTable_ends {rows : List SynthRow} {earlier later : List Text.Bytes}
    (sent : earlier ++ Command.runTable.line :: later <+: wire (formed (script rows))) :
    later = [] ∧ ∃ commands : List Command, script rows = commands.map .ok ∧
      earlier ++ [Command.runTable.line] = wire commands := by
  have opening : formed (script rows) = preparing ++
      formed ((tableScript rows).map Command.tableEntry ++ [.ok Command.runTable]) := rfl
  have notBefore (later : List Text.Bytes) : ¬ earlier ++ Command.runTable.line :: later <+:
      wire (preparing ++ formed ((tableScript rows).map Command.tableEntry)) := by
    intro before
    exact runTable_only_last rows (before.subset List.mem_append_cons_self) rfl
  rcases formed_append ((tableScript rows).map Command.tableEntry) [.ok Command.runTable] with
    ⟨all, whole⟩ | cut
  · rw [opening, whole, ← List.append_assoc, wire_append] at sent
    rcases List.prefix_concat_iff.mp sent with same | before
    · rcases later.eq_nil_or_concat with rfl | ⟨middle, last, rfl⟩
      · refine ⟨rfl, formed (script rows), ?_, ?_⟩
        · rw [opening, whole, script, List.map_append, List.map_append, ← all]
          rfl
        · rw [opening, whole, ← List.append_assoc, wire_append]
          exact same
      · rw [List.concat_eq_append, ← List.cons_append, ← List.append_assoc] at same
        obtain ⟨before, -⟩ := List.append_inj' same rfl
        exact (notBefore middle (before ▸ List.prefix_refl _)).elim
    · exact (notBefore later before).elim
  · rw [opening, cut] at sent
    exact (notBefore later sent).elim

/-! ## Programming over a link -/

section Programming

variable {σ : Type} [SerialLink σ]

/-- The bytes are one line that accepts a command. -/
def IsAcceptance (reply : Text.Bytes) : Prop :=
  ∃ text, 0x0a ∉ text ∧ SerialLink.lineText text = acceptance ∧ reply = text ++ [0x0a]

/-- If all of the script could be formed, it is the commands that prepare, silent ones for the
entries, and the one that arms. -/
theorem script_whole {rows : List SynthRow} {commands : List Command}
    (all : script rows = commands.map .ok) :
    ∃ entries : List Command, commands = preparing ++ (entries ++ [Command.runTable]) ∧
      ∀ command ∈ entries, command.answered = false := by
  obtain ⟨first, rest, rfl, prepared, written⟩ := List.map_eq_append_iff.mp all.symm
  obtain ⟨entries, last, rfl, tableWritten, armed⟩ := List.map_eq_append_iff.mp written
  have injective : Function.Injective
      (List.map (Except.ok : Command → Except SynthError Command)) :=
    List.map_injective_iff.mpr fun _ _ => Except.ok.inj
  obtain rfl : first = preparing := injective prepared
  obtain rfl : last = [Command.runTable] := injective armed
  refine ⟨entries, rfl, ?_⟩
  intro command listed
  have fromEntry : Except.ok command ∈ (tableScript rows).map Command.tableEntry := by
    rw [← tableWritten]
    exact List.mem_map_of_mem listed
  obtain ⟨entry, -, formed⟩ := List.mem_map.mp fromEntry
  obtain ⟨-, -, unanswered, -⟩ := Command.tableEntry_columns formed
  exact unanswered

/-- A silent command that is carried out moves its line. -/
theorem carriedOut_silent {command : Command} {moved : List Traffic}
    (unanswered : command.answered = false) (carriedOut : CarriedOut command moved) :
    moved = [.took command.line] := by
  cases carriedOut with
  | silent => rfl
  | accepted answered => rw [unanswered] at answered; contradiction

/-- A question that is carried out moves its line and then an acceptance. -/
theorem carriedOut_answered {command : Command} {moved : List Traffic}
    (answered : command.answered = true) (carriedOut : CarriedOut command moved) :
    ∃ reply, IsAcceptance reply ∧ moved = .took command.line :: reply.map .gave := by
  cases carriedOut with
  | silent unanswered => rw [answered] at unanswered; contradiction
  | @accepted reply _ unended accepts => exact ⟨_, ⟨reply, unended, accepts, rfl⟩, rfl⟩

/-- Silent commands that are carried out move their lines. -/
theorem carriedOut_all_silent {commands : List Command} {parts : List (List Traffic)}
    (unanswered : ∀ command ∈ commands, command.answered = false)
    (carriedOut : List.Forall₂ CarriedOut commands parts) :
    parts.flatten = commands.map (.took ·.line) := by
  induction carriedOut with
  | nil => rfl
  | cons first rest inductionHypothesis =>
    rw [List.flatten_cons, carriedOut_silent (unanswered _ List.mem_cons_self) first,
      inductionHypothesis fun command later => unanswered command (List.mem_cons_of_mem _ later)]
    rfl

/-- What a programming over a link comes to, and what goes over the link. Each field holds of every
table and of every link, unless it says how the programming ended. -/
structure Scripted (rows : List SynthRow) (link : σ) (ended : Except SynthError Unit × σ)
    (moved : List Traffic) : Prop where
  /-- The lines are those of the script up to the first command that could not be formed, cut
  off somewhere. -/
  cut : Traffic.lines moved <+: wire (formed (script rows))
  /-- If it succeeds, the script was sent whole, and each of the two questions was answered
  by an acceptance. -/
  complete : ended.1 = .ok () → ∃ (entries : List Command) (first second : Text.Bytes),
    script rows = (preparing ++ entries ++ [Command.runTable]).map .ok ∧
    IsAcceptance first ∧ IsAcceptance second ∧
    moved =
      [.took Command.echoOff.line, .took (Command.phaseContinuous true).line] ++
      first.map .gave ++ [.took (Command.simultaneousUpdate false).line] ++
      second.map .gave ++ (Command.defineTable :: entries ++ [Command.runTable]).map (.took ·.line)
  /-- If it fails, it does so at one command: those before it were carried out, and after it
  nothing was sent. -/
  broken : ∀ cause, ended.1 = .error cause →
    ∃ (number : Nat) (command : Except SynthError Command) (reached : σ),
      (script rows)[number]? = some command ∧
      requestAll ((script rows).take number) link = (.ok (), reached) ∧
      request command reached = (.error cause, ended.2) ∧
      wire (formed ((script rows).take number)) <+: Traffic.lines moved ∧
      Traffic.lines moved <+: wire (formed ((script rows).take (number + 1)))
  /-- No entry is written twice. -/
  once : (Traffic.lines moved).Pairwise fun earlier later =>
    ∀ channel index terminal otherTerminal, WritesEntry channel index terminal earlier →
      ¬ WritesEntry channel index otherTerminal later
  /-- Entries are for the channels of the device, up to the index behind the rows, and only
  those there stop the table. -/
  placed : ∀ line ∈ Traffic.lines moved, ∀ channel index terminal,
    WritesEntry channel index terminal line →
      channel < channelCount ∧ index ≤ rows.length ∧ (terminal = true ↔ index = rows.length)
  /-- The table is armed last, after the whole script. -/
  armed : ∀ earlier later, Traffic.lines moved = earlier ++ Command.runTable.line :: later →
    later = [] ∧ ∃ commands : List Command, script rows = commands.map .ok ∧
      Traffic.lines moved = wire commands

/-- Whatever the link does and whenever it fails, programming a table follows the script. The link
is not disturbed by keeping what goes over it. Nothing is assumed of the rows: settings that have no
entry end the script before anything is sent for them.

Proof: programming is going through the commands of the script, which is a dialogue. How its lines
lie in the script follows from that, and what is said of the entries from the script alone. -/
theorem programTable_scripted (rows : List SynthRow) (link : σ) :
    ∃ moved, programTable (rows.map Vector.toList) (⟨link, []⟩ : Tapped σ) =
        ((programTable (rows.map Vector.toList) link).1,
          ⟨(programTable (rows.map Vector.toList) link).2, moved⟩) ∧
      Scripted rows link (programTable (rows.map Vector.toList) link) moved := by
  rw [programTable_eq, programTable_eq]
  obtain ⟨moved, same, dialogue⟩ := requestAll_dialogue (script rows) link []
  have cut := dialogue.lines_begin
  have among := cut.trans (wire_formed_begins (script rows))
  refine ⟨moved, same, cut, ?_, fun cause => dialogue.broken_at, ?_, ?_, ?_⟩
  · intro well
    obtain ⟨commands, parts, all, carriedOut, rfl⟩ := dialogue.complete well
    obtain ⟨entries, rfl, unanswered⟩ := script_whole all
    rcases carriedOut with _ | ⟨echo, _ | ⟨phase, _ | ⟨update, _ | ⟨define, later⟩⟩⟩⟩
    obtain ⟨first, accepted, rfl⟩ := carriedOut_answered rfl phase
    obtain ⟨second, acceptedToo, rfl⟩ := carriedOut_answered rfl update
    obtain rfl := carriedOut_silent rfl echo
    obtain rfl := carriedOut_silent rfl define
    have silent : ∀ command ∈ entries ++ [Command.runTable], command.answered = false := by
      intro command listed
      rcases List.mem_append.mp listed with isEntry | isLast
      · exact unanswered command isEntry
      · obtain rfl := List.mem_singleton.mp isLast
        rfl
    refine ⟨entries, first, second, by rw [all, List.append_assoc], accepted, acceptedToo, ?_⟩
    simp [carriedOut_all_silent silent later]
  · exact (List.pairwise_filterMap.mpr (script_apart rows)).sublist among.sublist
  · intro line sent channel index terminal writes
    exact script_writes (among.subset sent) writes
  · intro earlier later split
    rw [split] at cut ⊢
    obtain ⟨rfl, commands, all, same⟩ := runTable_ends cut
    exact ⟨rfl, commands, all, same⟩

end Programming

end PulseProgram.Synthesizer

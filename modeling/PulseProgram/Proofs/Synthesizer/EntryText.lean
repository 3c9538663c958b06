import PulseProgram.Proofs.Outcome
import PulseProgram.Proofs.Synthesizer.Traffic
import PulseProgram.Proofs.Text.Numerals

/-!
# The lines of table entries

The columns of an entry's line are fixed: the channel is one digit, an index the table has room
for is four hexadecimal digits, and the frequency word, the phase and the amplitude have as many
as their widths. Cutting a line at these columns therefore gives back everything that went into
it, and no command that begins otherwise has such a line.
-/

namespace PulseProgram

/-- Different texts have different bytes, since decoding gives back the text. -/
theorem Text.encode_injective {first second : String}
    (same : Text.encode first = Text.encode second) : first = second := by
  apply String.toByteArray_inj.mp
  rw [← String.utf8Encode_toList, ← String.utf8Encode_toList]
  exact congrArg List.toByteArray same

/-- What a table entry's line tells, as the numbers that stand in it. -/
structure EntryFields where
  channel : Nat
  index : Nat
  /-- The frequency in tenths of a hertz. -/
  word : Nat
  phase : Nat
  amplitude : Nat
  /-- Whether the table stops here. -/
  terminal : Bool
deriving DecidableEq

/-- What is told of an entry whose frequency has the given word. -/
def Synthesizer.TableEntry.fields (entry : Synthesizer.TableEntry) (word : BitVec 32) :
    EntryFields where
  channel := entry.channel
  index := entry.index
  word := word.toNat
  phase := entry.phase.toNat
  amplitude := entry.amplitude.toNat
  terminal := entry.terminal

namespace Command

open Synthesizer Text

/-! ## Writing -/

/-- The last characters of an entry. -/
def flag (terminal : Bool) : List Char := if terminal then ['0', '0'] else ['f', 'f']

/-- The columns of an entry whose frequency has the given word. They are characters and not a text,
so that they can be cut at any column. -/
def entryColumns (entry : TableEntry) (word : BitVec 32) : List Char :=
  't' :: entry.channel.digitChar :: ' ' ::
    ((hexField 4 entry.index).toList ++ ' ' ::
      ((hexField 8 word.toNat).toList ++ ',' ::
        ((hexField 4 entry.phase.toNat).toList ++ ',' ::
          ((hexField 4 entry.amplitude.toNat).toList ++ ',' :: flag entry.terminal))))

/-- The text of an entry, as its columns. -/
theorem entryText_toList {entry : TableEntry} (channel : entry.channel < channelCount)
    (word : BitVec 32) :
    ("t" ++ toString entry.channel ++ " " ++ hexField 4 entry.index ++ " " ++
      hexField 8 word.toNat ++ "," ++ hexField 4 entry.phase.toNat ++ "," ++
      hexField 4 entry.amplitude.toNat ++ "," ++ (if entry.terminal then "00" else "ff")).toList =
      entryColumns entry word := by
  have digit : Nat.toDigits 10 entry.channel = [entry.channel.digitChar] :=
    Nat.toDigits_of_lt_base (Nat.lt_of_lt_of_le channel (by decide))
  cases terminal : entry.terminal <;> simp [entryColumns, flag, digit, terminal]

/-- A channel passes its check if the device has it. -/
theorem checkChannel_ok_iff {channel : Nat} {checked : Unit} :
    checkChannel channel = .ok checked ↔ channel < channelCount := by
  by_cases present : channel < channelCount <;> simp [checkChannel, present]

/-- An entry is written if its channel exists, the table has room for its index and its frequency
has a word. No other check is made, and the command is told by the columns alone. -/
theorem tableEntry_ok_iff {entry : TableEntry} {command : Command} :
    tableEntry entry = .ok command ↔
      entry.channel < channelCount ∧ entry.index ≤ lastTableIndex ∧
        ∃ word, frequencyWord entry.megahertz = .ok word ∧
          command = ⟨String.ofList (entryColumns entry word), false⟩ := by
  constructor
  · intro formed
    obtain ⟨_, checked, formed⟩ := bind_ok_iff.mp formed
    have channel := checkChannel_ok_iff.mp checked
    split at formed
    · contradiction
    next room =>
      obtain ⟨word, fits, formed⟩ := bind_ok_iff.mp formed
      cases formed
      refine ⟨channel, Nat.le_of_not_lt room, word, fits, ?_⟩
      rw [← entryText_toList channel, String.ofList_toList]
  · rintro ⟨channel, room, word, fits, rfl⟩
    refine bind_ok_iff.mpr ⟨(), checkChannel_ok_iff.mpr channel, ?_⟩
    rw [if_neg (Nat.not_lt.mpr room)]
    refine bind_ok_iff.mpr ⟨word, fits, ?_⟩
    rw [← entryText_toList channel, String.ofList_toList]
    rfl

/-- An entry that is written is for a channel of the device and an index of the table, it is not
answered, and its text is its columns. -/
theorem tableEntry_columns {entry : TableEntry} {command : Command}
    (formed : tableEntry entry = .ok command) :
    entry.channel < channelCount ∧ entry.index ≤ lastTableIndex ∧ command.answered = false ∧
      ∃ word, frequencyWord entry.megahertz = .ok word ∧
        command.text.toList = entryColumns entry word := by
  obtain ⟨channel, room, word, fits, rfl⟩ := tableEntry_ok_iff.mp formed
  exact ⟨channel, room, rfl, word, fits, String.toList_ofList⟩

/-! ## Reading -/

/-- Cuts off a field of so many hexadecimal digits and the separator behind it, and reads it. -/
def hexColumns? (width : Nat) (separator : Char) (line : List Char) : Option (Nat × List Char) :=
  match line.splitAt width with
  | (field, next :: rest) =>
    if next = separator then (number? 16 field).map fun value => (value, rest) else none
  | (_, []) => none

/-- Whether the table stops, by the last characters of an entry. -/
def stops? : List Char → Option Bool
  | ['0', '0'] => some true
  | ['f', 'f'] => some false
  | _ => none

/-- Cuts the text of an entry at its columns and reads each of them. It is no part of the driver: it
is how a device would take the text, and refuses what is not of this form. -/
def entryFields? (text : String) : Option EntryFields :=
  match text.toList with
  | 't' :: channel :: ' ' :: line => do
    let channel ← number? 10 [channel]
    let (index, line) ← hexColumns? 4 ' ' line
    let (word, line) ← hexColumns? 8 ',' line
    let (phase, line) ← hexColumns? 4 ',' line
    let (amplitude, line) ← hexColumns? 4 ',' line
    let terminal ← stops? line
    return { channel, index, word, phase, amplitude, terminal }
  | _ => none

variable {width value : Nat}

/-- A number that fits its field fills it. -/
theorem length_hexField (wide : 0 < width) (fits : value < 16 ^ width) :
    (hexField width value).toList.length = width := by
  rw [hexField, String.toList_ofList, length_padded (by decide) wide fits]

/-- A field is read as the number that was written, and the rest of the line is left. The bound on
the number matters: a longer one would push the separator out of its column. -/
theorem hexColumns?_hexField (wide : 0 < width) (fits : value < 16 ^ width) (separator : Char)
    (rest : List Char) :
    hexColumns? width separator ((hexField width value).toList ++ separator :: rest) =
      some (value, rest) := by
  have filled := length_hexField wide fits
  have read : number? 16 (hexField width value).toList = some value := by
    rw [hexField, String.toList_ofList]
    exact number?_padded (by decide) (by decide) width value
  simp [hexColumns?, List.splitAt_eq, List.take_left' filled, List.drop_left' filled, read]

/-- The last characters tell whether the table stops. -/
theorem stops?_flag (terminal : Bool) : stops? (flag terminal) = some terminal := by
  cases terminal <;> rfl

/-- The columns of an entry are read as what was written, field after field. The words of 32 and 16
bits fit their columns by themselves, the channel and the index by the checks. -/
theorem entryFields?_entryColumns {entry : TableEntry} (channel : entry.channel < channelCount)
    (room : entry.index ≤ lastTableIndex) (word : BitVec 32) :
    entryFields? (String.ofList (entryColumns entry word)) = some (entry.fields word) := by
  have index : entry.index < 16 ^ 4 := Nat.lt_of_le_of_lt room (by decide)
  have frequency : word.toNat < 16 ^ 8 := word.isLt
  have phase : entry.phase.toNat < 16 ^ 4 := entry.phase.isLt
  have amplitude : entry.amplitude.toNat < 16 ^ 4 := entry.amplitude.isLt
  have single := number?_digitChar (Nat.lt_of_lt_of_le channel (show channelCount ≤ 10 by decide))
  rw [entryFields?, String.toList_ofList, entryColumns]
  simp only [single, hexColumns?_hexField (Nat.succ_pos 3) index,
    hexColumns?_hexField (Nat.succ_pos 7) frequency, hexColumns?_hexField (Nat.succ_pos 3) phase,
    hexColumns?_hexField (Nat.succ_pos 3) amplitude, stops?_flag, Option.bind_eq_bind,
    Option.bind_some]
  rfl

example : entryFields? "t1 001a 2faf0800,0000,03ff,ff" =
    some ⟨1, 26, 800000000, 0, 1023, false⟩ := by rfl

/-- All columns together are twenty-nine characters, whatever the values are. -/
theorem length_entryColumns {entry : TableEntry} (room : entry.index ≤ lastTableIndex)
    (word : BitVec 32) : (entryColumns entry word).length = 29 := by
  have index : entry.index < 16 ^ 4 := Nat.lt_of_le_of_lt room (by decide)
  have frequency : word.toNat < 16 ^ 8 := word.isLt
  have phase : entry.phase.toNat < 16 ^ 4 := entry.phase.isLt
  have amplitude : entry.amplitude.toNat < 16 ^ 4 := entry.amplitude.isLt
  have stop : (flag entry.terminal).length = 2 := by cases entry.terminal <;> rfl
  simp only [entryColumns, List.length_cons, List.length_append, stop,
    length_hexField (Nat.succ_pos 3) index, length_hexField (Nat.succ_pos 7) frequency,
    length_hexField (Nat.succ_pos 3) phase, length_hexField (Nat.succ_pos 3) amplitude]

/-! ## Entries apart -/

/-- The text of an entry tells all its fields, since equal texts are read alike. -/
theorem fields_eq_of_entryColumns {first second : TableEntry} {firstWord secondWord : BitVec 32}
    (firstChannel : first.channel < channelCount) (firstRoom : first.index ≤ lastTableIndex)
    (secondChannel : second.channel < channelCount) (secondRoom : second.index ≤ lastTableIndex)
    (same : String.ofList (entryColumns first firstWord) =
      String.ofList (entryColumns second secondWord)) :
    first.fields firstWord = second.fields secondWord := by
  have read := congrArg entryFields? same
  rw [entryFields?_entryColumns firstChannel firstRoom,
    entryFields?_entryColumns secondChannel secondRoom] at read
  exact Option.some.inj read

/-- The line of an entry tells its channel, its index and whether it stops the table. The settings
are told as well, but that is not needed where entries are kept apart. -/
theorem tableEntry_determined {first second : TableEntry} {firstCommand secondCommand : Command}
    (firstFormed : tableEntry first = .ok firstCommand)
    (secondFormed : tableEntry second = .ok secondCommand)
    (same : firstCommand.line = secondCommand.line) :
    first.channel = second.channel ∧ first.index = second.index ∧
      first.terminal = second.terminal := by
  obtain ⟨firstChannel, firstRoom, firstWord, -, rfl⟩ := tableEntry_ok_iff.mp firstFormed
  obtain ⟨secondChannel, secondRoom, secondWord, -, rfl⟩ := tableEntry_ok_iff.mp secondFormed
  have fields := fields_eq_of_entryColumns firstChannel firstRoom secondChannel secondRoom
    (Text.encode_injective (List.append_cancel_right same))
  exact ⟨congrArg EntryFields.channel fields, congrArg EntryFields.index fields,
    congrArg EntryFields.terminal fields⟩

/-- A command that begins otherwise than an entry has another line, whatever else is in it. -/
theorem tableEntry_line_ne {entry : TableEntry} {command other : Command}
    (formed : tableEntry entry = .ok command) (otherwise : other.text.toList.head? ≠ some 't') :
    command.line ≠ other.line := by
  intro same
  obtain ⟨-, -, -, word, -, text⟩ := tableEntry_columns formed
  have texts : command.text = other.text :=
    Text.encode_injective (List.append_cancel_right same)
  rw [← texts, text] at otherwise
  exact otherwise rfl

end Command

end PulseProgram

import PulseProgram.Playback

/-!
# Demonstrations

Two sequences that need no input. The first uses whatever channels a setup has:
one update per millisecond ramps the first analog channel, toggles the first
digital line and steps the first synthesizer channel. The second has channels of
its own and is shown as a report.
-/

namespace PulseProgram

/-- What is told of a fault. -/
def Fault.message : Fault → String
  | .rejected cause => cause.message
  | .outOfBounds => "a word or a row has no place"
  | .tooLarge => "the timeline or the table is too large"

/-- An update of a demonstration that was not placed. -/
structure DemoError where
  update : Nat
  fault : Fault
deriving DecidableEq

/-- Which update it was. -/
def DemoError.message (error : DemoError) : String := "demo update " ++ toString error.update

/-- Why it was not placed. -/
def DemoError.reason (error : DemoError) : String := error.fault.message

namespace Demo

/-- The name of the first channel of a kind. -/
def firstOf (map : ChannelMap) (kind : ChannelKind) : Option String :=
  (map.ofKind kind).head?.map (·.name)

/-- An entry for a channel, if there is one. -/
def entry {α : Type} (name : Option String) (value : α) : List (String × α) :=
  name.toList.map fun name => (name, value)

/-- One of `count` updates. -/
def update (map : ChannelMap) (count index : Nat) : Update :=
  let fraction := Binary64.ofNat index / Binary64.ofNat (max count 1)
  { duration := 1e-3
    analog := entry (firstOf map .analog) (-5 + 10 * fraction)
    digital := entry (firstOf map .digital) (index % 2 = 0)
    synth := entry (firstOf map .synth) (80 + fraction) }

/-- Places the last `remaining` of `count` updates. -/
def placeLast (count : Nat) :
    (remaining : Nat) → Sequencer → Except DemoError Unit × Sequencer
  | 0, sequencer => (.ok (), sequencer)
  | remaining + 1, sequencer =>
    let index := count - (remaining + 1)
    match sequencer.apply (update sequencer.channels count index) with
    | (.ok _, next) => placeLast count remaining next
    | (.error fault, next) => (.error ⟨index, fault⟩, next)

/-- Places the updates of the first demonstration and stops at the first that is not
placed. -/
def place (count : Nat) (sequencer : Sequencer) : Except DemoError Unit × Sequencer :=
  placeLast count count sequencer

/-- The channels of the second demonstration. -/
def reportChannels : List (String × ChannelKind × Nat) :=
  [("mot_cooling", .analog, 0), ("coil_sum", .analog, 9),
    ("mot_cooling_shutter", .digital, 0), ("slower_coil", .digital, 17),
    ("cooling_freq", .synth, 0), ("repump_freq", .synth, 1)]

/-- The updates of the second demonstration. -/
def reportUpdates : List Update :=
  [{ duration := 2
     analog := [("mot_cooling", 5), ("coil_sum", 2.5)]
     digital := [("mot_cooling_shutter", true), ("slower_coil", true)]
     synth := [("cooling_freq", 80), ("repump_freq", 120)] },
   { duration := 1e-3
     digital := [("slower_coil", false)] },
   { duration := 20e-3
     analog := [("mot_cooling", 1)]
     digital := [("mot_cooling_shutter", true)]
     synth := [("cooling_freq", 78)] }]

/-- The program of the second demonstration. -/
def reportProgram : Except Fault Program := do
  let map ← rejecting (reportChannels.foldlM
    (fun map (name, kind, address) => map.register name kind address) ChannelMap.empty)
  let sequencer ← Sequencer.start map (Config.withClockRate 1e6)
  return (← sequencer.applyAll reportUpdates).finish

end Demo

/-- A row of a table between square brackets. -/
def SynthRow.text (row : SynthRow) : String :=
  "[" ++ ", ".intercalate (row.toList.map Binary64.textWithPoint) ++ "]"

/-- A table of at least two rows as text, with what is to be known about its layout
in memory: the rows follow each other, four values each. -/
def Program.tableText (program : Program) : String :=
  "[" ++ ",\n ".intercalate (program.rows.map SynthRow.text) ++ "], shape=[" ++
    toString program.rowCount ++ ", 4], strides=[4, 1], layout=Cc (0x5), const ndim=2"

/-- A program in a few lines. -/
def Program.report (program : Program) : String :=
  toString program.sampleCount ++ " samples at " ++ program.clockRate.text ++ " Hz (" ++
    program.runtime.text ++ " s), " ++ toString program.rowCount ++ " synthesizer rows:\n" ++
    program.tableText ++ "\n"

end PulseProgram

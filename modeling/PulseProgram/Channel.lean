/-!
# Channels

An output channel has a name, a kind and an address among the outputs of that
kind. Analog channels sit eight to a converter board and digital lines sixteen to
a line board; synthesizer channels are on no board.
-/

namespace PulseProgram

/-- What a channel drives, which also says what its address counts. -/
inductive ChannelKind where
  | analog
  | digital
  | synth
deriving DecidableEq

/-- The kind as messages name it. -/
def ChannelKind.text : ChannelKind → String
  | .analog => "analog"
  | .digital => "digital"
  | .synth => "synthesizer"

/-- A named output. The address counts the outputs of its kind from zero. -/
structure Channel where
  name : String
  kind : ChannelKind
  address : Nat
deriving DecidableEq

namespace Channel

/-- Analog channels on one converter board. -/
def analogPerBoard : Nat := 8

/-- Converter boards. -/
def analogBoards : Nat := 4

/-- Analog channels in all, over the converter boards. -/
def analogCount : Nat := analogBoards * analogPerBoard

/-- Lines on one line board, one for each bit of the lower half of a word. -/
def linesPerBoard : Nat := 16

/-- Line boards. Lines on a later board exist by address only. -/
def lineBoards : Nat := 3

/-- Output channels of the synthesizer. -/
def synthCount : Nat := 4

/-- The board of the channel; the synthesizer has none. -/
def board (channel : Channel) : Option Nat :=
  match channel.kind with
  | .analog => some (channel.address / analogPerBoard)
  | .digital => some (channel.address / linesPerBoard)
  | .synth => none

/-- The channel with its kind and address. -/
def text (channel : Channel) : String :=
  channel.name ++ "(" ++ channel.kind.text ++ " @ " ++ toString channel.address ++ ")"

end Channel

end PulseProgram

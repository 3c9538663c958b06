import PulseProgram.ChannelMap
import PulseProgram.Text.Blank
import PulseProgram.Text.Utf8
import PulseProgram.Timing
import PulseProgram.Toml.Document

/-!
# Settings of a setup

The settings are a TOML document with the parameters of the clock, the link of
the synthesizer, and one table per kind of channel that gives each name its
address. Every section and every key may be left out, and keys that mean nothing
here are passed over.

The section of the clock and that of the synthesizer may also be arrays of their
values in the order in which they are listed here. Whole numbers stand for
fractions where a fraction is wanted, but not the other way round.
-/

namespace PulseProgram

/-- The section of the clock. What is left out is as in the default timing. -/
structure ClockSettings where
  rate : Binary64 := ({} : Config).clockRate
  maxDuration : Binary64 := ({} : Config).maxDuration
  startOffset : Binary64 := ({} : Config).startOffset
deriving DecidableEq

/-- The section of the synthesizer. -/
structure SynthSettings where
  /-- The serial device. If it is absent or blank the synthesizer is not
  programmed. -/
  serial : Option String := none
  minTriggerWidth : Binary64 := ({} : Config).minTriggerWidth
deriving DecidableEq

/-- Names with their addresses, in the order of the document. -/
abbrev AddressTable := List (String × Nat)

/-- All settings, section by section. -/
structure Settings where
  clock : ClockSettings := {}
  synthesizer : SynthSettings := {}
  analog : AddressTable := []
  digital : AddressTable := []
  synth : AddressTable := []
deriving DecidableEq

/-- Why a file could not be read, as far as messages tell it apart. -/
inductive FileError where
  | notFound
  | isDirectory
  | notADirectory
  | permissionDenied
  | nameTooLong
  | nulInName
  | notText
  | other (reason : String)
deriving DecidableEq

/-- The message of a failed reading. -/
def FileError.message : FileError → String
  | .notFound => "No such file or directory (os error 2)"
  | .isDirectory => "Is a directory (os error 21)"
  | .notADirectory => "Not a directory (os error 20)"
  | .permissionDenied => "Permission denied (os error 13)"
  | .nameTooLong => "File name too long (os error 36)"
  | .nulInName => "file name contained an unexpected NUL byte"
  | .notText => "stream did not contain valid UTF-8"
  | .other reason => reason

/-- Why there are no settings or no channels. -/
inductive ConfigError where
  | unreadable (path : String) (cause : FileError)
  /-- The document is not well-formed or has a value of the wrong type. -/
  | malformed
  | invalid (reason : String)
  | channel (cause : CompileError)
deriving DecidableEq

/-- The message of a failure. What is wrong with a malformed document is not
told. -/
def ConfigError.message : ConfigError → String
  | .unreadable path cause => "Failed to read settings file " ++ path ++ ": " ++ cause.message
  | .malformed => "Failed to parse settings"
  | .invalid reason => "Invalid settings: " ++ reason
  | .channel cause => cause.message

namespace Settings

open Toml

/-- The number a value stands for. Whole numbers are rounded to double precision where they are
large. -/
def number? : Value → Option Binary64
  | .float value => some value
  | .integer value => some (Binary64.ofInt value)
  | _ => none

/-- The text a value stands for. Nothing else stands for one. -/
def text? : Value → Option String
  | .text value => some value
  | _ => none

/-- The address a value stands for, which must not be negative. -/
def address? : Value → Option Nat
  | .integer value => if 0 ≤ value then some value.toNat else none
  | _ => none

/-- A section as a way to find its fields, which are given by key and by place. -/
def section? : Value → Option (String → Nat → Option Value)
  | .table _ entries => some fun key _ => Entries.get? entries key
  | .moment => some fun _ _ => none
  | .array elements => some fun _ place => elements[place]?
  | .tables elements => some fun _ place => elements[place]?.map (Value.table .header)
  | _ => none

/-- A field of a section, or its default if it is absent. A field of the wrong type
makes the section unusable. -/
def field? {α : Type} (read : Value → Option α) (default : α) : Option Value → Option α
  | none => some default
  | some value => read value

/-- Reads the section of the clock. A key that is left out has its default. -/
def clock? (value : Value) : Option ClockSettings := do
  let find ← section? value
  let defaults : ClockSettings := {}
  let rate ← field? number? defaults.rate (find "rate" 0)
  let maxDuration ← field? number? defaults.maxDuration (find "max_duration" 1)
  let startOffset ← field? number? defaults.startOffset (find "start_offset" 2)
  some { rate, maxDuration, startOffset }

/-- Reads the section of the synthesizer. -/
def synthesizer? (value : Value) : Option SynthSettings := do
  let find ← section? value
  let defaults : SynthSettings := {}
  let serial ← field? (fun value => (text? value).map some) none (find "serial" 0)
  let minTriggerWidth ← field? number? defaults.minTriggerWidth (find "min_trigger_width" 1)
  some { serial, minTriggerWidth }

/-- Reads a table of addresses. One value that is no address makes the table unusable. -/
def addresses? : Value → Option AddressTable
  | .table _ entries => entries.mapM fun entry => (address? entry.2).map (entry.1, ·)
  | _ => none

/-- Reads all sections of a document. A section that is left out has its defaults. -/
def ofEntries? (entries : Entries) : Option Settings := do
  let clock ← field? clock? {} (entries.get? "clock")
  let synthesizer ← field? synthesizer? {} (entries.get? "novatech")
  let analog ← field? addresses? [] (entries.get? "ao_ch")
  let digital ← field? addresses? [] (entries.get? "do_ch")
  let synth ← field? addresses? [] (entries.get? "dds_ch")
  some { clock, synthesizer, analog, digital, synth }

/-- Rejects a value that has to be finite and positive and is not. -/
def requirePositive (key : String) (value : Binary64) : Except ConfigError Unit :=
  if !value.isFinite || decide (value ≤ 0) then
    .error (.invalid (key ++ " must be finite and positive, got " ++ value.text))
  else .ok ()

/-- Checks the numbers. The start offset comes last and may be zero. -/
def validate (settings : Settings) : Except ConfigError Unit := do
  requirePositive "clock.rate" settings.clock.rate
  requirePositive "clock.max_duration" settings.clock.maxDuration
  requirePositive "novatech.min_trigger_width" settings.synthesizer.minTriggerWidth
  if !settings.clock.startOffset.isFinite || decide (settings.clock.startOffset < 0) then
    .error (.invalid ("clock.start_offset must be finite and non-negative, got " ++
      settings.clock.startOffset.text))
  else .ok ()

/-- The settings of a document, checked once they are all read. -/
def ofText (text : String) : Except ConfigError Settings :=
  match (document? text).bind ofEntries? with
  | none => .error .malformed
  | some settings => do
    settings.validate
    return settings

/-- The settings in a file, given what reading the file gave. -/
def ofFile (path : String) (content : Except FileError Text.Bytes) :
    Except ConfigError Settings :=
  match content with
  | .error cause => .error (.unreadable path cause)
  | .ok bytes =>
    match Text.decode? bytes with
    | none => .error (.unreadable path .notText)
    | some chars => ofText (.ofList chars)

/-- The serial device of the synthesizer, if one is given. -/
def synthesizerDevice (settings : Settings) : Option String :=
  settings.synthesizer.serial.filter fun serial => !(Text.trim serial.toList).isEmpty

/-- Registers the channels of a table. -/
def registerAll (kind : ChannelKind) (map : ChannelMap) (table : AddressTable) :
    Except CompileError ChannelMap :=
  table.foldlM (fun map entry => map.register entry.1 kind entry.2) map

/-- The channels of all tables, analog before digital before synthesizer. -/
def channelMap (settings : Settings) : Except CompileError ChannelMap := do
  let map ← registerAll .analog .empty settings.analog
  let map ← registerAll .digital map settings.digital
  registerAll .synth map settings.synth

/-- The timing of a run; the size of the synthesizer table is not a setting. -/
def config (settings : Settings) : Config where
  clockRate := settings.clock.rate
  maxDuration := settings.clock.maxDuration
  startOffset := settings.clock.startOffset
  minTriggerWidth := settings.synthesizer.minTriggerWidth

end Settings

end PulseProgram

import PulseProgram.Demo
import PulseProgram.Settings

/-!
# The command line

The program compiles a demonstration for the channels of a settings file and runs
it. Its arguments are the path of the file and the options below; an option with
a value takes it from the next argument or after an equals sign. Everything after
`--` is a path. Each argument may be given once.

Arguments are read from left to right and the first one that does not fit ends
the reading, as does a request for help.
-/

namespace PulseProgram.CommandLine

/-- What a run is asked for. -/
structure Options where
  settings : String
  simulate : Bool := false
  device : String := "Dev1"
  steps : Nat := 10
deriving DecidableEq

/-- What the arguments ask for. -/
inductive Request where
  | run (options : Options)
  | help
  | version
deriving DecidableEq

/-- Why a run ends early. -/
inductive Failure where
  | usage
  | settings (cause : ConfigError)
  | noChannels (path : String)
  | notCompiled (fault : Fault)
  | demo (cause : DemoError)
  | noOutput (device : String)
  | playback (cause : PlaybackError)
deriving DecidableEq

/-- The message of a failure and, below it, what caused it. -/
def Failure.chain : Failure → String × Option String
  | .usage => ("unexpected, repeated or missing arguments", none)
  | .settings (.unreadable path cause) =>
    ((ConfigError.unreadable path cause).message, some cause.message)
  | .settings cause => (cause.message, none)
  | .noChannels path => (path ++ " defines no channels", none)
  | .notCompiled fault => (fault.message, none)
  | .demo cause => (cause.message, some cause.reason)
  | .noOutput device =>
    ("built without the nidaqmx feature, cannot drive " ++ device ++ "; use --simulate", none)
  | .playback cause => (cause.message, none)

/-- What is written about a failure. -/
def Failure.report (failure : Failure) : String :=
  match failure.chain with
  | (message, none) => "Error: " ++ message ++ "\n"
  | (message, some cause) => "Error: " ++ message ++ "\n\nCaused by:\n    " ++ cause ++ "\n"

/-- The exit code after a failure. A size that cannot be stored ends the program
abnormally. -/
def Failure.exitCode : Failure → Nat
  | .usage => 2
  | .notCompiled .tooLarge => 101
  | _ => 1

/-! ## Arguments -/

/-- An argument by its form. -/
inductive Token where
  /-- An option with two dashes, and a value after an equals sign. -/
  | long (name : List Char) (value : Option (List Char))
  /-- Letters after a single dash. -/
  | short (letters : List Char)
  | separator
  | plain (text : List Char)
deriving DecidableEq

/-- Splits an option at its first equals sign. -/
def splitOption (chars : List Char) : List Char × Option (List Char) :=
  let name := chars.takeWhile (· ≠ '=')
  (name, if name.length < chars.length then some (chars.drop (name.length + 1)) else none)

/-- The form of an argument. A single dash alone is plain. -/
def token (chars : List Char) : Token :=
  match chars with
  | ['-', '-'] => .separator
  | '-' :: '-' :: rest =>
    let (name, value) := splitOption rest
    .long name value
  | '-' :: letter :: rest => .short (letter :: rest)
  | other => .plain other

/-- The forms of all arguments. -/
def tokens : List String → List Token
  | [] => []
  | argument :: rest =>
    match token argument.toList with
    | .separator => .separator :: rest.map fun path => .plain path.toList
    | other => other :: tokens rest

/-- What has been given so far. -/
structure Given where
  settings : Option String := none
  simulate : Bool := false
  device : Option String := none
  steps : Option Nat := none

/-- A number of steps: decimal digits after an optional plus sign, below the limit
of 64 bits. -/
def stepCount? (chars : List Char) : Option Nat :=
  let digits := match chars with
    | '+' :: rest => rest
    | other => other
  if digits.isEmpty || !digits.all Char.isDigit then none
  else
    let value := digits.foldl (fun value digit => 10 * value + (digit.toNat - 48)) 0
    if value < 0x10000000000000000 then some value else none

namespace Given

/-- Adds the path of the settings file. -/
def withPath (given : Given) (path : List Char) : Option Given :=
  if given.settings.isSome || path.isEmpty then none
  else some { given with settings := some (String.ofList path) }

/-- Adds an option that has a value. -/
def withValue (given : Given) (name value : List Char) : Option Given :=
  if name = "device".toList then
    if given.device.isSome then none
    else some { given with device := some (String.ofList value) }
  else if name = "steps".toList then
    if given.steps.isSome then none
    else (stepCount? value).map fun count => { given with steps := some count }
  else none

/-- Adds an option that has no value. -/
def withFlag (given : Given) (name : List Char) : Option Given :=
  if name = "simulate".toList && !given.simulate then some { given with simulate := true }
  else none

/-- What is asked for when all arguments are read. -/
def request (given : Given) : Option Request := do
  let settings ← given.settings
  let defaults : Options := { settings }
  some (.run {
    settings
    simulate := given.simulate
    device := given.device.getD defaults.device
    steps := given.steps.getD defaults.steps })

end Given

/-- The requests that are not about a run. -/
def information? (name : List Char) : Option Request :=
  if name = "help".toList then some .help
  else if name = "version".toList then some .version
  else none

/-- Whether an option wants a value. -/
def takesValue (name : List Char) : Bool := name = "device".toList || name = "steps".toList

/-- Reads the arguments that are left. -/
def read (given : Given) : List Token → Option Request
  | [] => given.request
  | .separator :: rest => read given rest
  | .plain path :: rest => do read (← given.withPath path) rest
  | .short letters :: _ =>
    match letters.head? with
    | some 'h' => some .help
    | some 'V' => some .version
    | _ => none
  | .long name (some value) :: rest => do read (← given.withValue name value) rest
  | .long name none :: rest =>
    match information? name with
    | some request => some request
    | none =>
      if takesValue name then
        match rest with
        | .plain value :: later => do read (← given.withValue name value) later
        | _ => none
      else do read (← given.withFlag name) rest

/-- What the arguments ask for. -/
def parse (arguments : List String) : Except Failure Request :=
  match read {} (tokens arguments) with
  | some request => .ok request
  | none => .error .usage

/-! ## Running -/

/-- How the program calls itself. -/
structure Identity where
  name : String
  version : String
  executable : String
  purpose : String

/-- The answer to a request for the version. -/
def Identity.versionText (identity : Identity) : String :=
  identity.name ++ " " ++ identity.version ++ "\n"

/-- The answer to a request for help. -/
def Identity.helpText (identity : Identity) : String :=
  identity.purpose ++ "\n\nUsage: " ++ identity.executable ++ " [OPTIONS] <SETTINGS>\n\n" ++
    "Arguments:\n" ++
    "  <SETTINGS>  Settings file with the clock, synthesizer link and channel tables\n\n" ++
    "Options:\n" ++
    "      --simulate         Inspect the compiled buffers instead of driving hardware\n" ++
    "      --device <DEVICE>  NI device whose four 8-line ports carry the output word " ++
    "[default: Dev1]\n" ++
    "      --steps <STEPS>    Number of steps in the demonstration sequence [default: 10]\n" ++
    "  -h, --help             Print help\n" ++
    "  -V, --version          Print version\n"

/-- The compiled demonstration for the channels of the settings. -/
def compile (options : Options) (content : Except FileError Text.Bytes) :
    Except Failure Program := do
  let settings ← (Settings.ofFile options.settings content).mapError Failure.settings
  let map ← (rejecting settings.channelMap).mapError Failure.notCompiled
  if map.channels.isEmpty then .error (.noChannels options.settings)
  else
    let sequencer ← (Sequencer.start map settings.config).mapError Failure.notCompiled
    match Demo.place options.steps sequencer with
    | (.ok (), last) => return last.finish
    | (.error cause, _) => .error (.demo cause)

/-- Compiles the demonstration and runs it. Without the library of an output only a
simulation can be run. The result is what is written when all went well. -/
def run (options : Options) (content : Except FileError Text.Bytes) : Except Failure String := do
  let program ← compile options content
  if options.simulate then
    (Simulation.play program {}).1.mapError Failure.playback
    return "Done\n"
  else .error (.noOutput options.device)

end PulseProgram.CommandLine

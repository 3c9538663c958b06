import PulseProgram.CommandLine

/-!
# The program

Reads the settings file, runs the command line and writes what it answers.
-/

namespace PulseProgram

/-- How this program calls itself. -/
def identity : CommandLine.Identity where
  name := "pulse-program"
  version := "0.1.0"
  executable := "pulse-program"
  purpose := "Compiles a demonstration sequence for the channels of a setup and runs it."

/-- The cause of a failed reading. The number of an error comes with either sign. -/
def FileError.of : IO.Error → FileError
  | .noFileOrDirectory .. => .notFound
  | .permissionDenied .. => .permissionDenied
  | error@(.invalidArgument _ code _) =>
    if code = 36 || code = 0 - 36 then .nameTooLong else .other (toString error)
  | .inappropriateType _ code _ => if code = 21 then .isDirectory else .notADirectory
  | unknown => .other (toString unknown)

/-- The content of a file. -/
def readSettings (path : String) : IO (Except FileError Text.Bytes) := do
  try
    return .ok (← IO.FS.readBinFile path).toList
  catch error =>
    return .error (.of error)

/-- Writes what the program answers and returns the exit code. -/
def conclude : Except CommandLine.Failure String → IO UInt32
  | .ok text => do
    IO.print text
    return 0
  | .error failure => do
    IO.eprint failure.report
    return failure.exitCode.toUInt32

/-- Runs the program on its arguments. -/
def runCommandLine (arguments : List String) : IO UInt32 :=
  match CommandLine.parse arguments with
  | .error failure => conclude (.error failure)
  | .ok .help => conclude (.ok identity.helpText)
  | .ok .version => conclude (.ok identity.versionText)
  | .ok (.run options) => do
    conclude (CommandLine.run options (← readSettings options.settings))

end PulseProgram

/-- The entry point of the program. -/
def main (arguments : List String) : IO UInt32 := PulseProgram.runCommandLine arguments

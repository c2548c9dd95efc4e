/-
# `Main` — the command line program

Reads the arguments, the environment and the current directory, carries
the command out on real files, and prints what it says.
-/
import BundleConfig.CommandLine.Run

namespace BundleConfig.Main

/-- A number in decimal, with zeros in front up to a width. -/
def padded (width n : Nat) : String :=
  String.ofList (Decimal.padLeft width (Text.Numeral.ofNat n))

/-- Milliseconds as hours, minutes, seconds and milliseconds of a day. -/
def clock (ms : Nat) : String :=
  padded 2 (ms / 3600000 % 24) ++ ":" ++ padded 2 (ms / 60000 % 60) ++ ":"
    ++ padded 2 (ms / 1000 % 60) ++ "." ++ padded 3 (ms % 1000)

def noticeText (time : String) : Notice → String
  | .message s => s
  | .logged e =>
      if e.serialized then (e.record.document time).render .oneLine ++ "\n"
      else e.record.text time

/-- What is wrong with a command line, in words. -/
def usageText : UsageError → String
  | .helpWanted => ""
  | .noArguments => "a command is needed: resolve, features or profiles"
  | .unknownOption name => "no such option: " ++ name
  | .missingValue name => name ++ " needs a value"
  | .unexpectedValue name => name ++ " takes no value"
  | .badValue name => "bad value for " ++ name
  | .missingMode => "a mode is needed"
  | .missingCommand => "a command is needed: resolve, features or profiles"
  | .unknownCommand name => "no such command: " ++ name
  | .extraArgument argument => "unexpected argument: " ++ argument

/-- The environment variables that stand for options. -/
def environment : IO Environ := do
  let names := GlobalOption.specs.filterMap fun s => s.key.environKey
  let mut found : Environ := []
  for name in names do
    match ← IO.getEnv name with
    | some value => found := found ++ [(name, value)]
    | none => pure ()
  return found

/-- Why writing failed, by the number that the operating system gave. -/
def writeError : IO.Error → WriteError
  | .noFileOrDirectory _ code reason => .ofNumber reason code.toNat
  | .inappropriateType _ code reason => .ofNumber reason code.toNat
  | .invalidArgument _ code reason => .ofNumber reason code.toNat
  | .permissionDenied _ code reason => .ofNumber reason code.toNat
  | .resourceExhausted _ code reason => .ofNumber reason code.toNat
  | .otherError code reason => .ofNumber reason code.toNat
  | e => .other 5 (toString e)

/-- A file written at a path, or why it could not be. -/
def writeFile (path : Path) (text : String) : IO (Option WriteError) := do
  try
    IO.FS.writeFile path.text text
    return none
  catch e => return some (writeError e)

/-- Prints, and gives the exit code. -/
def put (p : Printed) : IO UInt32 := do
  let time := clock (← IO.monoMsNow)
  for notice in p.stderr do
    (← IO.getStderr).putStr (noticeText time notice)
  (← IO.getStdout).putStr p.stdout
  return p.exitCode.toUInt32

/-- Carries a plan out on real files. -/
def carryOut : Plan → IO UInt32
  | .done printed => put printed
  | .failed failure => do
    (← IO.getStderr).putStrLn failure.message
    return 1
  | .write stderr path text => do
    put (CommandLine.printedWrite stderr path (← writeFile path text))

/-- The program: arguments, environment and current directory to an exit code. -/
def program (arguments : List String) : IO UInt32 := do
  let env ← environment
  let here ← IO.currentDir
  match AbsolutePath.ofText? here.toString, Invocation.ofArguments env arguments with
  | none, _ =>
    (← IO.getStderr).putStrLn "the current directory is not absolute"
    return 1
  | some _, .error e =>
    if e ≠ .helpWanted then (← IO.getStderr).putStrLn (usageText e)
    put (CommandLine.printedUsage e)
  | some cwd, .ok invocation => carryOut (CommandLine.plan cwd invocation .options)

end BundleConfig.Main

def main (arguments : List String) : IO UInt32 := BundleConfig.Main.program arguments

import Devirt.CommandLine.Session

/-!
# The program

Runs a session on the files and the terminal of the machine. The exit code is zero after a
complete session, one if it failed, and two if the arguments are not well formed.
-/

namespace Devirt.CommandLine

/-- The outcome of an action on files, with the cause if it failed. -/
def attempt {α : Type} (action : IO α) : IO (Except String α) :=
  tryCatch (do return .ok (← action)) fun e => return .error (toString e)

/-- The host of the machine. -/
def systemHost : Host IO where
  print := IO.print
  readText path := attempt (IO.FS.readFile path)
  createDirectory path := attempt (IO.FS.createDirAll path)
  writeText path text := attempt (IO.FS.writeFile path text)

/-- How the program is called. -/
def usage : String :=
  "Usage: devirt --file <FILE> [--output <DIRECTORY>] [--hierarchy] [--marker <TEXT>]...\n" ++
    "              [--listing <TEXT>] [--verbose]..."

/-- Runs a session and tells how long it took. -/
def runTimed (arguments : Arguments) : IO UInt32 := do
  let start ← IO.monoMsNow
  match ← systemHost.run arguments with
  | .error text =>
    IO.eprintln ("Error: " ++ text)
    return 1
  | .ok () =>
    IO.println ("\nTotal execution time: " ++ toString ((← IO.monoMsNow) - start) ++ "ms")
    return 0

/-- Reads the arguments and runs a session. -/
def start (arguments : List String) : IO UInt32 :=
  match Arguments.ofList? arguments with
  | some arguments => runTimed arguments
  | none => do
    IO.eprintln usage
    return 2

end Devirt.CommandLine

/-- The program. -/
def main (arguments : List String) : IO UInt32 := Devirt.CommandLine.start arguments

import DeviceUpdate.CommandLine.Run

/-! The program: its arguments, the settings file, and what it prints. -/

namespace DeviceUpdate.CommandLine

/-- Looks for a file. -/
def find (path : String) : IO Found := do
  try return .text (← IO.FS.readFile path)
  catch
    | .noFileOrDirectory .. => return .nothing
    | e => return .unreadable (toString e)

/-- What comes of the arguments. -/
def outcome (args : List String) : IO Outcome := do
  match read args with
  | .error stop => return stop.outcome
  | .ok command => return command.run (← find command.path)

/-- Tells what came of the arguments. -/
def report : Outcome → IO Unit
  | .printed text => IO.print text
  | .failed e => IO.eprintln ("Error: " ++ e.message)
  | .misused => IO.eprint Topic.program.explanation.write
  | .serving s => IO.eprintln ("settings are valid for a server at " ++ s.bind.write)

end DeviceUpdate.CommandLine

/-- Runs the program. -/
def main (args : List String) : IO UInt32 := do
  let outcome ← DeviceUpdate.CommandLine.outcome args
  DeviceUpdate.CommandLine.report outcome
  return UInt32.ofNat outcome.code

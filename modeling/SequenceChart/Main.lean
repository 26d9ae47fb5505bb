import SequenceChart.CommandLine.Run

/-!
The command line program.
-/

namespace SequenceChart.CommandLine

def SystemError.ofIOError : IO.Error → SystemError
  | .noFileOrDirectory .. => .noSuchFile
  | .inappropriateType _ code _ => if code = 21 then .isADirectory else .notADirectory
  | .permissionDenied .. => .permissionDenied
  | e => .other (toString e)

def attempt {α : Type} (action : IO α) : IO (Except SystemError α) := do
  try
    return .ok (← action)
  catch e =>
    return .error (.ofIOError e)

instance : Host IO where
  readStdin := do
    return (← attempt (do (← IO.getStdin).readBinToEnd)).bind decodeUtf8
  readFile name := do
    return (← attempt (IO.FS.readBinFile name)).bind decodeUtf8
  writeFile name content := attempt (IO.FS.writeFile name content)
  log l := return l.text

end SequenceChart.CommandLine

def main (args : List String) : IO UInt32 := do
  let outcome : SequenceChart.CommandLine.Outcome ← SequenceChart.CommandLine.run args
  IO.print outcome.stdout
  IO.eprint outcome.stderr
  return UInt32.ofNat outcome.status

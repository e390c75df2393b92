import NicFlow.Agent.Execution
import NicFlow.Service.Replay

/-! The command line. Rule files are read from disk and checked; a session finds no flow service, for
there is no connection to one here. -/

namespace NicFlow.Main

def failureReason : IO.Error → String
  | .noFileOrDirectory _ _ _ => DeviceDirectory.missingReason
  | error => toString error

def readFile (path : String) : IO (String × Except String String) := do
  match ← (IO.FS.readFile path).toBaseIO with
  | .ok text => return (path, .ok text)
  | .error error => return (path, .error (failureReason error))

/-- The files that a command line asks for. -/
def paths (words : List String) : List String :=
  match Execution.start words with
  | .ended _ => []
  | .command _ command => command.paths

def run (words : List String) : IO Outcome := do
  let texts ← (paths words).mapM readFile
  let files : Files := fun path => (texts.lookup path).getD (.error DeviceDirectory.missingReason)
  let lookup (root : String) : VfLookup := .ofDirectories root []
  return (Execution.run (Remote.serve unreachable) () files lookup 0 words).1

end NicFlow.Main

def main (words : List String) : IO UInt32 := do
  let outcome ← NicFlow.Main.run words
  for event in outcome.events do
    IO.println (event.level.name ++ " " ++ event.target ++ ": " ++ event.message)
  IO.print outcome.output
  return UInt32.ofNat outcome.code

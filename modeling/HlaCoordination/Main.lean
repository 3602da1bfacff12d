import HlaCoordination.CommandLine

/-!
The command `rtid`: gathers arguments, environment and configuration files, starts the daemon and
serves until its standard input ends.
-/

open HlaCoordination

def environmentVariables : IO (List (String × String)) := do
  let mut found := []
  for name in CommandLine.variableNames do
    if let some value ← IO.getEnv name then
      found := found ++ [(name, value)]
  return found

def readableFiles (paths : List String) : IO (List (String × String)) := do
  let mut found := []
  for path in paths do
    try
      found := found ++ [(path, ← IO.FS.readFile path)]
    catch _ => pure ()
  return found

def main (arguments : List String) : IO UInt32 := do
  let environment ← environmentVariables
  let files ← readableFiles (CommandLine.candidateFiles arguments environment)
  let sources : Sources := { arguments, environment, file? := fun path => files.lookup path }
  if let .ok _ := CommandLine.start sources then
    let _ ← (← IO.getStdin).readToEnd
  let exit := CommandLine.exit sources (.ok ())
  if let some line := exit.complaint then
    IO.eprintln line
  return exit.code

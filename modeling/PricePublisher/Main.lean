import PricePublisher.Startup.Arguments
import PricePublisher.Startup.LocalRun

/-!
# The program

The program reads its settings, complains if it cannot start, and then publishes
what comes in on standard input until it ends.
-/

open PricePublisher

namespace PricePublisher.Startup

/-- The names of all variables that the program asks for. -/
def variableNames : List String :=
  settingsPathVariable :: keysPathVariable :: Settings.variableNames

/-- The values of the variables that the program asks for. -/
def readEnvironment : IO Settings.Environment := do
  let values ← variableNames.mapM fun name => do return (name, ← IO.getEnv name)
  return fun name => (values.lookup name).join

/-- The text of a file, if it can be read. -/
def readText? (path : String) : IO (Option String) := do
  try
    return some (← IO.FS.readFile path)
  catch _ =>
    return none

/-- Write what a step results in. -/
def report (step : LocalStep) : IO LocalRun := do
  for line in step.lines do
    IO.println line
  for notice in step.notices do
    IO.eprintln (notice.severity.name ++ " " ++ notice.text)
  return step.run

/-- Take in lines until there are no more. -/
partial def readLines (input : IO.FS.Stream) (run : LocalRun) : IO LocalRun := do
  let line ← input.getLine
  if line.isEmpty then return run
  readLines input (← report (run.onLine line))

/-- Run a plan on standard input. -/
def runPlan (plan : Plan) : IO UInt32 := do
  let last ← readLines (← IO.getStdin) (.ofPlan plan)
  discard (report last.finish)
  return 0

/-- What the program says about its options. -/
def usageText : String :=
  "Usage: [-k KEYS_FILE] -c CONFIG_FILE"

/-- Start with the files that a command line names. -/
def start (arguments : Arguments) (environment : Settings.Environment) : IO UInt32 := do
  let settings ← readText? arguments.settingsPath
  let keys ← readText? arguments.keysPath
  match Plan.make settings keys environment with
  | .ok plan => runPlan plan
  | .error cause =>
      IO.eprintln ("Error: " ++ cause.message)
      return 1

end PricePublisher.Startup

/-- Run the program with the arguments of its command line. -/
def main (arguments : List String) : IO UInt32 := do
  let environment ← Startup.readEnvironment
  match Startup.CommandLine.read arguments environment with
  | .run files => Startup.start files environment
  | .help =>
      IO.println Startup.usageText
      return 0
  | .usage =>
      IO.eprintln Startup.usageText
      return 2

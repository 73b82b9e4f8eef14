import NamespaceBackup.Json.Writer
import NamespaceBackup.Program.Log

/-!
# The program

Reads the filter for the log and the command line, and reports the start. Without a cluster there
is nothing more to do.
-/

namespace NamespaceBackup

/-- A message as a line of the log. -/
def logLine (message : LogMessage) : String :=
  Json.text <| .object
    [("level", .str message.level.label), ("target", .str message.target),
      ("fields", .object [("message", .str message.text)])]

/-- Runs the program with a filter for the log and gives its exit code. -/
def runWith (filter : LogFilter) (arguments : List String) : IO UInt32 := do
  match Options.parse arguments with
  | .display flag =>
    IO.print flag.text
    return 0
  | .reject fault =>
    IO.eprintln ("error: " ++ fault.message)
    return 2
  | .start given =>
    for message in filter.apply (startMessages given) do
      IO.println (logLine message)
    IO.eprintln "Error: no cluster is configured"
    return 1

end NamespaceBackup

open NamespaceBackup in
/-- Runs the program and gives its exit code. -/
def main (arguments : List String) : IO UInt32 := do
  match LogFilter.ofSetting (← IO.getEnv "RUST_LOG") with
  | .ok filter => runWith filter arguments
  | .error _ =>
    IO.eprintln LogFilter.breakdown
    return 101

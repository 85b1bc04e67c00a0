import ScalingMetrics.Json.Writer
import ScalingMetrics.Startup
import ScalingMetrics.Telemetry.Document

/-!
# The program

The program is set up by its environment alone. Its log goes to the standard output, a document a
line, and the error that ends it to the standard error.
-/

namespace ScalingMetrics

/-- The variables in the form in which the system keeps them: a null character ends each of them. -/
def Settings.readEnvironment (text : String) : Settings.Environment :=
  (Text.splitOn '\x00' text.toList).filterMap fun entry =>
    (Text.cut? '=' entry).map fun (name, value) => (.ofList name, .ofList value)

/-- A line of the log of the program. -/
def Startup.logText (l : LogLine) : String :=
  match l.toJson with
  | .obj members => (Json.obj (members ++ [("target", .str Startup.logTarget)])).render
  | j => j.render

end ScalingMetrics

open ScalingMetrics

/-- Starts the program. Without a cluster it ends at once. -/
def main : IO UInt32 := do
  let env := Settings.readEnvironment (← IO.FS.readFile "/proc/self/environ")
  let started := Startup.prepare env false
  for line in Startup.shownLines env started.log do
    IO.println (Startup.logText line)
  match started.value with
  | .ok _ => return 0
  | .error e =>
    IO.eprintln ("Error: " ++ e.message)
    return 1

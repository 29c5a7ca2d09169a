import SpatialQuery.CommandLine.Report

/-!
# The command

Hands the arguments, and the standard input where it is needed, to the report, and prints that.
-/

namespace SpatialQuery.CommandLine

/-- The bytes of the standard input, if the command line asks for them. -/
def inputFor (arguments : List Text) : IO ByteArray :=
  match Invocation.ofArguments arguments with
  | .ok invocation =>
    if invocation.readsInput then do (← IO.getStdin).readBinToEnd else pure .empty
  | .error _ => pure .empty

/-- Prints a report; its exit code is the answer. -/
def printReport (report : Report) : IO UInt32 := do
  (← IO.getStdout).putStr (String.ofList report.output)
  if !report.errors.isEmpty then (← IO.getStderr).putStrLn (String.ofList report.errors)
  return report.exitCode.toUInt32

/-- Answers a command line. -/
def run (arguments : List Text) : IO UInt32 := do
  printReport (Report.onArguments arguments (← inputFor arguments))

end SpatialQuery.CommandLine

/-- Checks spatial queries, given as arguments or as lines of the standard input. -/
def main (arguments : List String) : IO UInt32 :=
  SpatialQuery.CommandLine.run (arguments.map String.toList)

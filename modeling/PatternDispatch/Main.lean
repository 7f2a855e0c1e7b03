/-
This file is the program: it runs the command line and writes what that returns.
-/
import PatternDispatch.CommandLine

/-- Runs the program on its arguments. -/
def main (arguments : List String) : IO UInt32 := do
  let outcome := PatternDispatch.CommandLine.run arguments
  (← IO.getStdout).putStr outcome.output
  (← IO.getStderr).putStr outcome.errors
  return outcome.status

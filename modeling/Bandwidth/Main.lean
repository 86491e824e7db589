import Bandwidth.Program

/-!
# The command line program

The program on a real console: output and errors go to the standard streams, and the clock is the monotonic one of the
host. A terminal gets styled output, unless the environment asks for none.
-/

namespace Bandwidth

def Console.ofProcess (style : Style) : Console IO where
  print := IO.println
  complain := IO.eprintln
  log event := IO.eprintln event.line
  now := do
    let nanoseconds ← IO.monoNanosNow
    return nanoseconds.toFloat / 1.0e9
  style

end Bandwidth

open Bandwidth in
/-- Runs the program on the simulated device that stands for the host. -/
def main (arguments : List String) : IO UInt32 := do
  let terminal ← (← IO.getStdout).isTty
  let muted := (← IO.getEnv "NO_COLOR").isSome
  let style := if terminal && !muted then Style.colored else Style.plain
  Program.main (Console.ofProcess style) Platform.sequential arguments

import Flowchart.Cli.Run

/-!
# The `mermaid-layout` executable

Reads standard input to its end, runs the command on the process's arguments, writes what the run
produced and exits with its status.
-/

set_option autoImplicit false

namespace Flowchart

namespace Cli

/-- Reads a stream to its end. -/
partial def readAll (stream : IO.FS.Stream) (acc : String) : IO String := do
  let line ← stream.getLine
  if line.isEmpty then pure acc else readAll stream (acc ++ line)

end Cli

end Flowchart

/-- Runs `mermaid-layout`. -/
def main (args : List String) : IO UInt32 := do
  let input ← Flowchart.Cli.readAll (← IO.getStdin) ""
  let outcome := Flowchart.Cli.run (args.map Flowchart.Text.ofString) (Flowchart.Text.ofString input)
  let stdout ← IO.getStdout
  stdout.putStr (Flowchart.Text.toString outcome.stdout)
  stdout.flush
  let stderr ← IO.getStderr
  stderr.putStr (Flowchart.Text.toString outcome.stderr)
  stderr.flush
  pure (UInt32.ofNat outcome.exitCode)

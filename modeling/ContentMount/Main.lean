/-
This file is the program. It carries no requests itself, so every host is out of its reach.
-/

import ContentMount.CommandLine.Session

open ContentMount ContentMount.Remote ContentMount.CommandLine

/-- The variables of the surroundings that the program looks at. -/
def lookedAt : List String :=
  "AWS_REGION" :: Setting.all.map Setting.variableName

/-- Prints what a stage of the program prints. -/
def emit (output : Output) : IO Unit := do
  (← IO.getStdout).putStr output.out
  (← IO.getStdout).flush
  (← IO.getStderr).putStr output.err

/-- Reads lines and carries them out until the program ends. -/
partial def converse (stage : Stage) (metrics : Metrics) : IO UInt32 := do
  emit stage.output
  match stage.progress with
  | .ended code => return code
  | .waiting connection shell =>
    let line ← (← IO.getStdin).getLine
    if line.isEmpty then converse endOfInput metrics
    else
      let line := (linesOf line).headD ""
      let (next, _, metrics) := step Transport.unreachable connection shell line ((), metrics)
      converse next metrics

def main (arguments : List String) : IO UInt32 := do
  let pairs ← lookedAt.filterMapM fun name => do
    return (← IO.getEnv name).map fun value => (name, value)
  let (stage, _, metrics) :=
    start Transport.unreachable (fun name => pairs.lookup name) arguments ((), Metrics.empty)
  converse stage metrics

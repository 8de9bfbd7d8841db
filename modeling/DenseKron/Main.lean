import DenseKron.Demo

/-!
# The example as a program

Reads the two settings from the environment of the process and shows what the example shows.
-/

open DenseKron

/-- Runs the example in the environment of the process. -/
def main : IO UInt32 := do
  let backend ← IO.getEnv Settings.backendKey
  let threshold ← IO.getEnv Settings.thresholdKey
  let lookup (key : String) : Option String :=
    if key = Settings.backendKey then backend
    else if key = Settings.thresholdKey then threshold
    else none
  let outcome := Demo.run lookup
  IO.print outcome.out
  IO.eprint outcome.err
  return outcome.exitCode.toUInt32

import StatSchema.Command.Program

/-!
# `StatSchema.Main` — the command line program

## Contents
- `main`: looks up the environment, writes what `StatSchema.exitOf` says, and ends with its code.
-/

open StatSchema

/-- Runs the program. -/
def main (words : List String) : IO UInt32 := do
  let names := [Connection.explorerVariable, Connection.subscriberVariable]
  let values ← names.mapM fun name => do return (name, ← IO.getEnv name)
  let exit := exitOf (fun name => (values.lookup name).join) words
  (← IO.getStdout).putStr exit.out
  (← IO.getStderr).putStr exit.err
  return exit.code.toUInt32

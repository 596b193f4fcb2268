import StreamBot.Upkeep.Checks

/-! # The command line

It prints what is to be started for a job, or how it is used.
-/

open StreamBot

/-- Prints the command lines of the job that the arguments ask for. -/
def main (arguments : List String) : IO UInt32 := do
  let run := Upkeep.run arguments []
  IO.print run.output
  IO.eprint run.errors
  return (run.code.getD 0).toNat.toUInt32

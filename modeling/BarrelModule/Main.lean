import BarrelModule.Disk
import BarrelModule.Program

open BarrelModule

def main (args : List String) : IO UInt32 := do
  let logFilter ← IO.getEnv "RUST_LOG"
  let finished ← match CommandLine.parse args with
    | .ok ⟨_, .build o⟩ => do
      let finished := Program.run (← Disk.snapshot o) logFilter args
      if finished.exitCode = 0 && o.output.bytes ≠ [] then Disk.store finished.files o.output
      pure finished
    | _ => pure (Program.run FileSystem.empty logFilter args)
  (← IO.getStderr).putStr finished.errors
  (← IO.getStdout).putStr finished.output
  return UInt32.ofNat finished.exitCode

/-
The simulator's command line: prints the outcome of a run and ends with its exit code.
-/
import FlashGate.Simulator.Run

open FlashGate

/-- Runs the simulator on the words of the command line. -/
def main (words : List String) : IO UInt32 := do
  match Simulator.run words with
  | .usage reason =>
    match reason with
    | some reason => IO.eprintln ("error: invalid value: " ++ reason)
    | none => IO.eprintln "error: the command line cannot be used"
    IO.eprintln Simulator.helpText
    return 2
  | .finished out =>
    IO.print out
    return 0
  | .failed out err =>
    IO.print out
    IO.eprintln err
    return 1

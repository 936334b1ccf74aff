/-
The dump: a range read through the gate, sixteen bytes a line.
-/
import FlashGate.Simulator.Simulation

namespace FlashGate.Simulator.Dump

/-- Number of bytes on a line. -/
def perLine : Nat := 16

/-- A line of the dump. -/
def line (offset : Nat) (bytes : List UInt8) : String :=
  Text.hex 8 offset ++ ": " ++ " ".intercalate (bytes.map fun b => Text.hex 2 b.toNat)

/-- The lines of the bytes from an offset on. -/
def linesFrom (offset : Nat) (bytes : List UInt8) : List String :=
  if bytes = [] then []
  else line offset (bytes.take perLine) :: linesFrom (offset + perLine) (bytes.drop perLine)
termination_by bytes.length
decreasing_by
  have : bytes.length ≠ 0 := by simpa using ‹¬bytes = []›
  have : perLine = 16 := rfl
  simp only [List.length_drop]
  omega

/-- The dump. -/
def run (address : UInt32) (length : Nat) : Part Unit := do
  let bytes ← Part.fetch 0 (.read address (List.replicate length 0))
  (linesFrom address.toNat bytes).forM Part.print
  Part.close

end FlashGate.Simulator.Dump

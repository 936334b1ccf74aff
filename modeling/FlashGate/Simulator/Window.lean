/-
The low-level run: a range is written, and read raw and nibble-swapped in a low-level window; each
byte of one has to be the other's with its nibbles swapped.
-/
import FlashGate.Simulator.Simulation

namespace FlashGate.Simulator.Window

/-- The bytes that are written before the window opens. -/
def seed (length : Nat) : List UInt8 :=
  (List.range length).map fun i => UInt8.ofNat (i * 7 + 0x13)

/-- Number of bytes of a raw read whose swap is not in the other read. -/
def mismatches (raw swapped : List UInt8) : Nat :=
  (List.zipWith (fun r s => Submode.swapNibbles r != s) raw swapped).count true

/-- The two reads; the second is made only if the first succeeds. -/
def reads (address : UInt32) (length : Nat) :
    Part (Except GateError (List UInt8 × List UInt8)) := do
  let buffer := List.replicate length 0
  match ← Part.act 0 (.bypassReadMode address buffer .raw) with
  | .bytes raw =>
    match ← Part.act 0 (.bypassReadMode address buffer .nibbleSwap) with
    | .bytes swapped => return .ok (raw, swapped)
    | .refused e _ => return .error e
    | _ => return .ok (raw, [])
  | .refused e _ => return .error e
  | _ => return .ok ([], [])

/-- The low-level run. The window is closed before a failed read is reported. -/
def run (address : UInt32) (length : Nat) : Part Unit := do
  Part.demand 0 (.erase address length)
  Part.demand 0 (.write address (seed length))
  Part.demand 0 .openWindow
  Part.print "Dispatcher parked, low-level window open"
  let result ← reads address length
  Part.demand 0 .closeWindow
  match result with
  | .error e => Part.fail (.gate e)
  | .ok (raw, swapped) =>
    Part.print "Dispatcher resumed"
    let wrong := mismatches raw swapped
    Part.print (s!"Compared {length} bytes at {Text.hexAddress address}: " ++
      s!"{wrong} nibble-swap mismatches")
    Part.close
    if wrong ≠ 0 then Part.fail (.mismatch wrong length)
    Part.check

end FlashGate.Simulator.Window

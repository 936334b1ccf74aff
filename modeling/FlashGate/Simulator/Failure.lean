/-
Why a run of the simulator fails, and how it is reported: errors of the gate, and results that do
not pass the checks after the run.
-/
import FlashGate.Gateway.Error
import FlashGate.Text.Quoted

namespace FlashGate.Simulator

/-- A failed run. -/
inductive Failure where
  | gate (e : GateError)
  /-- There is not one sector for each client. -/
  | tooFewSectors (clients sectors : Nat)
  /-- Data read differs from what was written. -/
  | mismatch (mismatches checked : Nat)
  /-- The chip reported breaches of the protocol. -/
  | violations (count : Nat)
  /-- The chip saw a call come in while another one was in flight. -/
  | overlaps (count : Nat)
  deriving DecidableEq, Repr

/-- A device error as it stands in a report. -/
def deviceReport : DeviceError → String
  | .connectFailed attempts => s!"ConnectFailed \x7b attempts: {attempts} \x7d"
  | .quadEnableFailed => "QuadEnableFailed"
  | .calibrationFailed => "CalibrationFailed"
  | .unsupportedSectorSize size => s!"UnsupportedSectorSize({size})"
  | .invalidGeometry => "InvalidGeometry"
  | .programmerError => "ProgrammerError"

/-- A gate error as it stands in a report. -/
def gateReport : GateError → String
  | .core e => s!"Core({deviceReport e})"
  | .lockUnavailable => "LockUnavailable"
  | .notParked => "NotParked"
  | .alreadyParked => "AlreadyParked"
  | .disconnected => "Disconnected"
  | .invalidParameter e => s!"InvalidParameter({Text.quote e.message})"

/-- The report of a failed run. -/
def Failure.report : Failure → String
  | .gate e => gateReport e
  | .tooFewSectors clients sectors =>
    Text.quote s!"{clients} threads need at least {clients} sectors, device has {sectors}"
  | .mismatch m n => s!"Mismatch \x7b mismatches: {m}, checked: {n} \x7d"
  | .violations n => s!"Violations({n})"
  | .overlaps n => s!"Overlaps({n})"

end FlashGate.Simulator

/-
How work on the device fails: errors, which a caller gets back, and faults, which end the thread
that hits them.
-/

namespace FlashGate

/-- An error of the device or of its description. -/
inductive DeviceError where
  /-- Every connect attempt failed; the number of attempts made. -/
  | connectFailed (attempts : UInt32)
  | quadEnableFailed
  | calibrationFailed
  /-- The device reports sectors of another size than 4 KiB. -/
  | unsupportedSectorSize (size : UInt32)
  | invalidGeometry
  /-- The transport refused a single connect. -/
  | programmerError
  deriving DecidableEq, Repr

/-- The wording of a device error. -/
def DeviceError.message : DeviceError → String
  | .connectFailed attempts => s!"failed to connect to flash after {attempts} attempt(s)"
  | .quadEnableFailed => "failed to enable quad mode"
  | .calibrationFailed => "fast read calibration failed"
  | .unsupportedSectorSize size => s!"unsupported sector size {size} (only 4096 is supported)"
  | .invalidGeometry => "invalid flash geometry"
  | .programmerError => "programmer error"

/-- A fault: the thread that hits it does nothing more. -/
inductive Fault where
  /-- A 32-bit sum does not fit. -/
  | overflow
  | divisionByZero
  /-- A range outside the stored bytes. -/
  | outOfRange
  /-- The flash cannot be reached any more; the whole process ends. -/
  | flashLost
  deriving DecidableEq, Repr

end FlashGate

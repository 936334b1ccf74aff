/-
The errors that a client of the gate gets back.
-/
import FlashGate.Config

namespace FlashGate

/-- An error of the gate. -/
inductive GateError where
  | core (e : DeviceError)
  /-- Another context holds the flash. -/
  | lockUnavailable
  /-- No low-level window is open, or it belongs to another client. -/
  | notParked
  | alreadyParked
  /-- The dispatcher has ended. -/
  | disconnected
  | invalidParameter (e : ParameterError)
  deriving DecidableEq, Repr

/-- The wording of a gate error. -/
def GateError.message : GateError → String
  | .core e => "Flash error: " ++ e.message
  | .lockUnavailable => "Flash is locked by another context"
  | .notParked => "Dispatcher is not parked"
  | .alreadyParked => "Dispatcher is already parked"
  | .disconnected => "Dispatcher has stopped"
  | .invalidParameter e => "Invalid parameter: " ++ e.message

end FlashGate

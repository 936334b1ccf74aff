/-
The device mode: which hardware the dispatcher holds, the steps that take it from one mode to the
next, and the read path chosen at bring-up.
-/
import FlashGate.Operation
import FlashGate.Text.Hex

namespace FlashGate

/-! ## Reconfiguration -/

/-- A set of reconfiguration steps, one bit each. Bits without a meaning are kept. -/
structure Reconfiguration where
  bits : UInt8
  deriving DecidableEq, Repr

namespace Reconfiguration

/-- No step. -/
def none : Reconfiguration := ⟨0⟩
/-- Release the fast-read hardware. -/
def shutdownFastRead : Reconfiguration := ⟨1⟩
/-- Disconnect the normal transport. -/
def disconnect : Reconfiguration := ⟨2⟩
/-- Claim the fast-read hardware and apply its calibration again. -/
def setupFastRead : Reconfiguration := ⟨4⟩
/-- Connect the normal transport, with retries. -/
def connect : Reconfiguration := ⟨8⟩

/-- The steps of both sets. -/
def union (a b : Reconfiguration) : Reconfiguration := ⟨a.bits ||| b.bits⟩

/-- Whether all steps of `b` are in `a`. -/
def contains (a b : Reconfiguration) : Bool := a.bits &&& b.bits == b.bits

/-- Whether there is nothing to do. -/
def isEmpty (a : Reconfiguration) : Bool := a.bits == 0

/-- The steps with their names, in the order in which they are applied. -/
def named : List (Reconfiguration × String) :=
  [(shutdownFastRead, "SHUTDOWN_FAST_READ"), (disconnect, "DISCONNECT"),
    (setupFastRead, "SETUP_FAST_READ"), (connect, "CONNECT")]

/-- The names of the steps in the set. -/
def names (a : Reconfiguration) : List String :=
  (named.filter fun p => a.contains p.1).map (·.2)

/-- The bits without a name. -/
def unnamed (a : Reconfiguration) : UInt8 := a.bits &&& 0xF0

/-- The set as it stands in the log: the names, then the bits without a name. -/
def text (a : Reconfiguration) : String :=
  let rest := if a.unnamed = 0 then [] else ["0x" ++ Text.hexLower a.unnamed.toNat]
  "Reconfigure(" ++ " | ".intercalate (a.names ++ rest) ++ ")"

end Reconfiguration

/-! ## Device modes -/

/-- Which hardware the dispatcher holds, told by the last operation it ran. -/
inductive Mode where
  | released
  | serving (kind : OperationKind)
  deriving DecidableEq, Repr

namespace Mode

/-- The mode's name. -/
def name : Mode → String
  | .released => "None"
  | .serving k => k.name

/-- Whether the normal transport is connected. -/
def isDirect : Mode → Bool
  | .released => false
  | .serving k => !k.isFastRead

/-- Whether the fast-read hardware is set up. -/
def isFastRead : Mode → Bool
  | .released => false
  | .serving k => k.isFastRead

/-- The submode of a fast read. -/
def submode? : Mode → Option Submode
  | .released => none
  | .serving k => k.submode?

/-- The steps before an operation of the kind: none if the hardware it needs is already held. -/
def stepsTo (m : Mode) (next : OperationKind) : Reconfiguration :=
  if next.isFastRead then
    if m.isFastRead then .none
    else if m.isDirect then Reconfiguration.disconnect.union .setupFastRead
    else .setupFastRead
  else
    if m.isDirect then .none
    else if m.isFastRead then Reconfiguration.shutdownFastRead.union .connect
    else .connect

/-- The steps that release whatever is held. -/
def release (m : Mode) : Reconfiguration :=
  if m.isFastRead then .shutdownFastRead
  else if m.isDirect then .disconnect
  else .none

end Mode

/-! ## Read path -/

/-- The read path chosen at bring-up. -/
inductive Strategy where
  /-- Reads go through the normal transport. -/
  | standard
  /-- Reads go through the calibrated fast-read hardware. -/
  | fast (submode : Submode)
  deriving DecidableEq, Repr

namespace Strategy

/-- The strategy's name. -/
def name : Strategy → String
  | .standard => "Standard"
  | .fast .raw => "FastRaw"
  | .fast .nibbleSwap => "FastNibbleSwap"

/-- The strategy for a configured submode: fast only if calibration succeeded. -/
def ofCalibration (submode : Submode) (calibrated : Bool) : Strategy :=
  if calibrated then .fast submode else .standard

/-- The calibrated submode, if fast reads are in use. -/
def submode? : Strategy → Option Submode
  | .standard => none
  | .fast m => some m

/-- The kind of a plain read. -/
def readKind : Strategy → OperationKind
  | .standard => .read
  | .fast m => .fastRead m

/-- The kind of a read that asks for a submode; without fast reads the submode is ignored. -/
def readKindFor (submode : Submode) : Strategy → OperationKind
  | .standard => .read
  | .fast _ => .fastRead submode

end Strategy

end FlashGate

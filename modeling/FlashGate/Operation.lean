/-
The operations that clients queue, and the kinds they fall into. Two kinds have the same category
when they need the same hardware: the normal transport or the fast-read hardware.
-/
import FlashGate.Command

namespace FlashGate

/-- The kind of a queued operation. -/
inductive OperationKind where
  | read
  | write
  | erase
  | fastRead (submode : Submode)
  deriving DecidableEq, Repr

namespace OperationKind

/-- The kind's name. -/
def name : OperationKind → String
  | .read => "Read"
  | .write => "Write"
  | .erase => "Erase"
  | .fastRead .raw => "FastReadRaw"
  | .fastRead .nibbleSwap => "FastReadNibbleSwap"

/-- Whether the kind needs the fast-read hardware. -/
def isFastRead : OperationKind → Bool
  | .fastRead _ => true
  | _ => false

/-- The submode of a fast read. -/
def submode? : OperationKind → Option Submode
  | .fastRead m => some m
  | _ => none

end OperationKind

/-- An operation on the flash. -/
inductive Operation where
  | read (address : UInt32) (length : Nat)
  | fastRead (submode : Submode) (address : UInt32) (length : Nat)
  | write (address : UInt32) (data : List UInt8)
  | erase (address : UInt32) (length : Nat)
  deriving DecidableEq, Repr

namespace Operation

/-- The kind of an operation. -/
def kind : Operation → OperationKind
  | .read .. => .read
  | .fastRead m .. => .fastRead m
  | .write .. => .write
  | .erase .. => .erase

/-- The read of the given kind; a kind that does not read is read as a plain read. -/
def ofReadKind (address : UInt32) (length : Nat) : OperationKind → Operation
  | .fastRead m => .fastRead m address length
  | _ => .read address length

/-- Whether the submitter waits for bytes. -/
def isRead : Operation → Bool
  | .read .. => true
  | .fastRead .. => true
  | _ => false

end Operation

end FlashGate

/-
The counted lock that guards direct access to the transport. Zero means free. Only the thread
that holds it already may add a level.
-/

namespace FlashGate

/-- A counted lock. -/
structure SpinLock where
  count : Nat := 0
  deriving DecidableEq, Repr

namespace SpinLock

/-- Whether any level is held. -/
def isLocked (l : SpinLock) : Bool := 0 < l.count

/-- The lock with its first level taken, if it is free. -/
def tryLock? (l : SpinLock) : Option SpinLock := if l.count = 0 then some ⟨1⟩ else none

/-- The lock with one more level. -/
def relock (l : SpinLock) : SpinLock := ⟨l.count + 1⟩

/-- The lock with one level less. -/
def release (l : SpinLock) : SpinLock := ⟨l.count - 1⟩

end SpinLock

end FlashGate

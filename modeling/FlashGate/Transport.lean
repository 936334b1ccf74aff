/-
The flash transport: the calls that drive a device, what each of them answers, and a transport as
the way a device state reacts to them. A transport comes with a bound on its busy polls, so waiting
for the device always ends. The bound loses no run that ends: a device without one is a transport on
pairs of a device and a number of polls (`Device.timed`), and its runs that leave a poll over are
just the runs of the device that end (`Device.ends_iff`).
-/
import FlashGate.Breach
import FlashGate.Command
import FlashGate.Fault

namespace FlashGate

/-- A call of the flash transport. A read names the buffer it fills. -/
inductive Call where
  | connect
  | disconnect
  | flashSize
  | pageSize
  | sectorSize
  | quadEnable
  | readRaw (command : UInt8) (address : UInt32) (buffer : List UInt8)
  | sendCommand (command : UInt8)
  | programPage (command : UInt8) (address : UInt32) (data : List UInt8)
  | eraseSector (command : UInt8) (address : UInt32)
  | isBusy
  | fastReadSetup
  | fastReadCalibrate (address : UInt32)
  | fastReadApplyCalibration
  | fastReadSetMode (submode : Submode)
  | fastRead (address : UInt32) (buffer : List UInt8)
  | fastReadShutdown
  | maskInterrupts
  | restoreInterrupts (token : UInt32)
  | delay (microseconds : UInt32)

namespace Call

/-- What a call answers: the sizes are words, a read hands back its buffer, and the calls of
bring-up may fail. -/
def Reply : Call → Type
  | .connect => Except DeviceError Unit
  | .quadEnable => Except DeviceError Unit
  | .fastReadCalibrate _ => Except DeviceError Unit
  | .flashSize => UInt32
  | .pageSize => UInt32
  | .sectorSize => UInt32
  | .readRaw .. => List UInt8
  | .fastRead .. => List UInt8
  | .isBusy => Bool
  | .maskInterrupts => UInt32
  | _ => Unit

/-- Whether the call changes which hardware holds the pins. -/
def isReconfiguration : Call → Bool
  | .connect => true
  | .disconnect => true
  | .fastReadSetup => true
  | .fastReadShutdown => true
  | _ => false

end Call

/-- The outcome of a call: its answer, the device after it, and the breaches that it reported. -/
structure Outcome (σ : Type) (c : Call) where
  reply : Except Fault c.Reply
  device : σ
  breaches : List Breach

/-- A transport over device states `σ`. -/
structure Transport (σ : Type) where
  /-- The commands that the device asks for. -/
  commandSet : σ → CommandSet
  /-- How the device reacts to a call. -/
  perform : σ → (c : Call) → Outcome σ c
  /-- A bound on the busy polls that are still answered with yes. -/
  pending : σ → Nat
  pending_mask : ∀ s, pending (perform s .maskInterrupts).device ≤ pending s
  pending_restore : ∀ s token, pending (perform s (.restoreInterrupts token)).device ≤ pending s
  pending_isBusy : ∀ s, (perform s .isBusy).reply = .ok true →
    pending (perform s .isBusy).device < pending s

end FlashGate

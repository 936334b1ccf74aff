/-
A device without storage. A read returns a pattern made from the address, every program and erase
keeps the device busy for a while, and interrupts are masked with numbered tokens. It stands in
where only the sequence of calls matters, and for devices too large to store.
-/
import FlashGate.Transport

namespace FlashGate

/-- A device that answers reads with a pattern of the address. -/
structure PatternDevice where
  size : UInt32 := 0x100000
  pageSize : UInt32 := 256
  sectorSize : UInt32 := 4096
  quadSupported : Bool := true
  calibrates : Bool := true
  busyPolls : UInt32 := 1
  /-- The commands that make the device busy. -/
  commands : CommandSet := .standard
  /-- Whether it reports its own commands and counts its interrupt tokens. -/
  reportsOwn : Bool := true
  connectFailuresLeft : UInt32 := 0
  busy : UInt32 := 0
  /-- The last interrupt token. -/
  token : UInt32 := 0

namespace PatternDevice

/-- The byte read at an offset from an address. -/
def pattern (address : UInt32) (i : Nat) : UInt8 := UInt8.ofNat (address.toNat + i)

/-- The bytes read from an address on. -/
def readPattern (address : UInt32) (length : Nat) : List UInt8 :=
  (List.range length).map (pattern address)

/-- The bytes that the fast-read hardware returns, in either submode. -/
def fastPattern (address : UInt32) (length : Nat) : List UInt8 :=
  (readPattern address length).map (· ^^^ 0xA5)

/-- Starts the busy time. -/
def engage (d : PatternDevice) : PatternDevice := { d with busy := d.busyPolls }

/-- Connects, unless a failure is still to come. -/
def connect (d : PatternDevice) : Outcome PatternDevice .connect :=
  if 0 < d.connectFailuresLeft then
    ⟨.ok (.error .programmerError), { d with connectFailuresLeft := d.connectFailuresLeft - 1 }, []⟩
  else ⟨.ok (.ok ()), d, []⟩

/-- Answers a busy poll; a yes takes one off the busy time. -/
def poll (d : PatternDevice) : Outcome PatternDevice .isBusy :=
  if 0 < d.busy then ⟨.ok true, { d with busy := d.busy - 1 }, []⟩ else ⟨.ok false, d, []⟩

/-- Masks interrupts: a fresh token, or always zero if tokens are not counted. -/
def mask (d : PatternDevice) : Outcome PatternDevice .maskInterrupts :=
  if d.reportsOwn then ⟨.ok (d.token + 1), { d with token := d.token + 1 }, []⟩
  else ⟨.ok (0 : UInt32), d, []⟩

/-- How the device reacts to a call. -/
def perform (d : PatternDevice) : (c : Call) → Outcome PatternDevice c
  | .connect => d.connect
  | .flashSize => ⟨.ok d.size, d, []⟩
  | .pageSize => ⟨.ok d.pageSize, d, []⟩
  | .sectorSize => ⟨.ok d.sectorSize, d, []⟩
  | .quadEnable => ⟨.ok (if d.quadSupported then .ok () else .error .quadEnableFailed), d, []⟩
  | .readRaw _ address buffer => ⟨.ok (readPattern address buffer.length), d, []⟩
  | .sendCommand command =>
    ⟨.ok (), if command = d.commands.chipErase then d.engage else d, []⟩
  | .programPage .. => ⟨.ok (), d.engage, []⟩
  | .eraseSector .. => ⟨.ok (), d.engage, []⟩
  | .isBusy => d.poll
  | .fastReadCalibrate _ =>
    ⟨.ok (if d.calibrates then .ok () else .error .calibrationFailed), d, []⟩
  | .fastRead address buffer => ⟨.ok (fastPattern address buffer.length), d, []⟩
  | .maskInterrupts => d.mask
  | .disconnect => ⟨.ok (), d, []⟩
  | .fastReadSetup => ⟨.ok (), d, []⟩
  | .fastReadApplyCalibration => ⟨.ok (), d, []⟩
  | .fastReadSetMode _ => ⟨.ok (), d, []⟩
  | .fastReadShutdown => ⟨.ok (), d, []⟩
  | .restoreInterrupts _ => ⟨.ok (), d, []⟩
  | .delay _ => ⟨.ok (), d, []⟩

/-- The device as a transport; its busy time bounds the polls. -/
def transport : Transport PatternDevice where
  commandSet d := if d.reportsOwn then d.commands else .standard
  perform := perform
  pending d := d.busy.toNat
  pending_mask d := by
    show (d.mask).device.busy.toNat ≤ d.busy.toNat
    unfold mask; split <;> exact Nat.le_refl _
  pending_restore _ _ := Nat.le_refl _
  pending_isBusy d h := by
    by_cases hb : 0 < d.busy
    · have h1 : (1 : UInt32) ≤ d.busy := by
        rw [UInt32.le_iff_toNat_le]; exact UInt32.lt_iff_toNat_lt.1 hb
      have h0 : 1 ≤ d.busy.toNat := UInt32.le_iff_toNat_le.1 h1
      simp only [perform, poll, hb, if_true, UInt32.toNat_sub_of_le _ _ h1]
      show d.busy.toNat - 1 < d.busy.toNat
      omega
    · have h' : (d.poll).reply = .ok true := h
      simp only [poll, hb, if_false] at h'
      exact absurd (Except.ok.inj h' : (false : Bool) = true) Bool.false_ne_true

/-- Whether the device's own record keeps a call: all but interrupt masks that are not counted. -/
def keeps (d : PatternDevice) : Call → Bool
  | .maskInterrupts => d.reportsOwn
  | .restoreInterrupts _ => d.reportsOwn
  | _ => true

/-- Makes the next connects fail. -/
def failConnects (d : PatternDevice) (count : UInt32) : PatternDevice :=
  { d with connectFailuresLeft := count }

end PatternDevice

end FlashGate

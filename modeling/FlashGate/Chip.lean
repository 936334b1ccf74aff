/-
An emulated flash chip. It stores bytes as a NOR flash does, keeps the write-enable latch and the
busy time of real parts, and reports every breach of the transport protocol: transfers in the
wrong hardware configuration, programs and erases without write enable, ranges past the end.
-/
import FlashGate.Memory
import FlashGate.Transport

namespace FlashGate

/-- What an emulated chip is built as. -/
structure Chip.Profile where
  size : UInt32 := 0x100000
  pageSize : UInt32 := 256
  sectorSize : UInt32 := 4096
  /-- Number of connects that fail at first. -/
  connectFailures : UInt32 := 0
  /-- Whether calibration finds its pattern. -/
  calibrates : Bool := true
  /-- Busy polls answered with yes after each program or erase. -/
  busyPolls : UInt32 := 1
  deriving DecidableEq, Repr

/-- An emulated chip. -/
structure Chip where
  profile : Chip.Profile
  memory : Memory
  connected : Bool := false
  fastReadActive : Bool := false
  calibrated : Bool := false
  submode : Submode := .raw
  writeEnabled : Bool := false
  busy : UInt32 := 0
  connectFailuresLeft : UInt32
  interruptMask : UInt32 := 0

namespace Chip

/-- The commands that the chip understands. -/
def commands : CommandSet := .standard

/-- A new chip with the given bytes at its start; the other bytes are erased, and data past the
end is left out. -/
def make (profile : Profile) (data : List UInt8) : Chip where
  profile
  memory := (Memory.erased profile.size.toNat).overwrite 0 (data.take profile.size.toNat)
  connectFailuresLeft := profile.connectFailures

/-- The breaches of a transfer that needs the normal transport. -/
def wireBreaches (chip : Chip) (a : Activity) : List Breach :=
  (if chip.connected then [] else [.disconnected a]) ++
    (if chip.fastReadActive then [.fastReadActive a] else [])

/-- The breaches of a transfer that needs the fast-read hardware. -/
def fastBreaches (chip : Chip) (a : Activity) : List Breach :=
  (if chip.fastReadActive then [] else [.notSetUp a]) ++
    (if chip.connected then [.transportConnected a] else [])

/-- Consumes the write enable and starts the busy time. -/
def begin (chip : Chip) : Chip :=
  { chip with writeEnabled := false, busy := chip.profile.busyPolls }

/-- Connects, unless a failure is still to come. -/
def connect (chip : Chip) : Outcome Chip .connect :=
  if chip.connectFailuresLeft > 0 then
    ⟨.ok (.error .programmerError),
      { chip with connectFailuresLeft := chip.connectFailuresLeft - 1 }, []⟩
  else
    let breaches := if chip.fastReadActive then [.fastReadActive .connect] else []
    ⟨.ok (.ok ()), { chip with connected := true }, breaches⟩

/-- Reads stored bytes. A read past the end leaves the buffer as it was. -/
def readRaw (chip : Chip) (command : UInt8) (address : UInt32) (buffer : List UInt8) :
    Outcome Chip (.readRaw command address buffer) :=
  let wire := chip.wireBreaches .read
  let known := command == Opcode.read || command == Opcode.fastRead || command == Opcode.qior
  let support := if known then [] else [.unsupportedReadCommand command]
  if chip.memory.holds address.toNat buffer.length then
    ⟨.ok (chip.memory.slice address.toNat buffer.length), chip, wire ++ support⟩
  else ⟨.ok buffer, chip, wire ++ support ++ [.readPastEnd address]⟩

/-- Obeys a single command byte. -/
def sendCommand (chip : Chip) (command : UInt8) : Outcome Chip (.sendCommand command) :=
  let wire := chip.wireBreaches .command
  if command = commands.writeEnable then ⟨.ok (), { chip with writeEnabled := true }, wire⟩
  else if command = commands.writeDisable then
    ⟨.ok (), { chip with writeEnabled := false }, wire⟩
  else if command = commands.chipErase ∨ command = Opcode.ce60 then
    if chip.writeEnabled then
      let chip := chip.begin
      ⟨.ok (), { chip with memory := chip.memory.eraseAll }, wire⟩
    else ⟨.ok (), chip, wire ++ [.notWriteEnabled .chipErase]⟩
  else ⟨.ok (), chip, wire ++ [.unknownCommand command]⟩

/-- Programs bytes. The page test comes before the write-enable test, and a range past the end
still consumes the write enable. -/
def programPage (chip : Chip) (command : UInt8) (address : UInt32) (data : List UInt8) :
    Outcome Chip (.programPage command address data) :=
  let wire := chip.wireBreaches .pageProgram
  let last := address.toNat + ((UInt32.ofNat data.length).toNat - 1)
  if 0x100000000 ≤ last then ⟨.error .overflow, chip, wire⟩
  else if chip.profile.pageSize = 0 then ⟨.error .divisionByZero, chip, wire⟩
  else
    let page := chip.profile.pageSize.toNat
    let crossing := if address.toNat / page = last / page then [] else [.crossesPage address]
    if chip.writeEnabled then
      let chip := chip.begin
      if chip.memory.holds address.toNat data.length then
        ⟨.ok (), { chip with memory := chip.memory.program address.toNat data }, wire ++ crossing⟩
      else ⟨.ok (), chip, wire ++ crossing ++ [.programPastEnd address]⟩
    else ⟨.ok (), chip, wire ++ crossing ++ [.notWriteEnabled .pageProgram]⟩

/-- Erases the sector whose start is the address with the bits below the sector size cleared. -/
def eraseSector (chip : Chip) (command : UInt8) (address : UInt32) :
    Outcome Chip (.eraseSector command address) :=
  let wire := chip.wireBreaches .sectorErase
  let sector := chip.profile.sectorSize
  if sector = 0 then ⟨.error .divisionByZero, chip, wire⟩
  else
    let alignment := if address % sector = 0 then [] else [.unalignedErase address]
    if chip.writeEnabled then
      let chip := chip.begin
      let start := (address.toUInt64 &&& ~~~(sector.toUInt64 - 1)).toNat
      if chip.memory.holds start sector.toNat then
        ⟨.ok (), { chip with memory := chip.memory.erase start sector.toNat }, wire ++ alignment⟩
      else ⟨.ok (), chip, wire ++ alignment ++ [.erasePastEnd address]⟩
    else ⟨.ok (), chip, wire ++ alignment ++ [.notWriteEnabled .sectorErase]⟩

/-- Searches for the calibration pattern. -/
def calibrate (chip : Chip) (address : UInt32) : Outcome Chip (.fastReadCalibrate address) :=
  let found := chip.profile.calibrates
  ⟨.ok (if found then .ok () else .error .calibrationFailed), { chip with calibrated := found },
    chip.fastBreaches .calibration⟩

/-- Reads stored bytes through the fast-read hardware, as its submode hands them over. A read past
the end leaves the buffer as it was. -/
def fastRead (chip : Chip) (address : UInt32) (buffer : List UInt8) :
    Outcome Chip (.fastRead address buffer) :=
  let fast := chip.fastBreaches .fastRead
  let calibration := if chip.calibrated then [] else [.uncalibrated]
  if chip.memory.holds address.toNat buffer.length then
    ⟨.ok ((chip.memory.slice address.toNat buffer.length).map chip.submode.apply), chip,
      fast ++ calibration⟩
  else ⟨.ok buffer, chip, fast ++ calibration ++ [.fastReadPastEnd address]⟩

/-- Answers a busy poll; a yes takes one off the busy time. -/
def poll (chip : Chip) : Outcome Chip .isBusy :=
  if 0 < chip.busy then ⟨.ok true, { chip with busy := chip.busy - 1 }, []⟩
  else ⟨.ok false, chip, []⟩

/-- How the chip reacts to a call. -/
def perform (chip : Chip) : (c : Call) → Outcome Chip c
  | .connect => chip.connect
  | .disconnect => ⟨.ok (), { chip with connected := false }, []⟩
  | .flashSize => ⟨.ok chip.profile.size, chip, []⟩
  | .pageSize => ⟨.ok chip.profile.pageSize, chip, []⟩
  | .sectorSize => ⟨.ok chip.profile.sectorSize, chip, []⟩
  | .quadEnable => ⟨.ok (.ok ()), chip, chip.wireBreaches .quadEnable⟩
  | .readRaw command address buffer => chip.readRaw command address buffer
  | .sendCommand command => chip.sendCommand command
  | .programPage command address data => chip.programPage command address data
  | .eraseSector command address => chip.eraseSector command address
  | .isBusy => chip.poll
  | .fastReadSetup =>
    ⟨.ok (), { chip with fastReadActive := true },
      if chip.connected then [.setupWhileConnected] else []⟩
  | .fastReadCalibrate address => chip.calibrate address
  | .fastReadApplyCalibration => ⟨.ok (), chip, chip.fastBreaches .applyCalibration⟩
  | .fastReadSetMode submode => ⟨.ok (), { chip with submode }, []⟩
  | .fastRead address buffer => chip.fastRead address buffer
  | .fastReadShutdown => ⟨.ok (), { chip with fastReadActive := false }, []⟩
  | .maskInterrupts => ⟨.ok chip.interruptMask, { chip with interruptMask := 0xFFFFFFFF }, []⟩
  | .restoreInterrupts token => ⟨.ok (), { chip with interruptMask := token }, []⟩
  | .delay _ => ⟨.ok (), chip, []⟩

/-- The chip as a transport; its busy time bounds the polls. -/
def transport : Transport Chip where
  commandSet _ := commands
  perform := perform
  pending chip := chip.busy.toNat
  pending_mask _ := Nat.le_refl _
  pending_restore _ _ := Nat.le_refl _
  pending_isBusy chip h := by
    by_cases hb : 0 < chip.busy
    · have h1 : (1 : UInt32) ≤ chip.busy := by
        rw [UInt32.le_iff_toNat_le]; exact UInt32.lt_iff_toNat_lt.1 hb
      have h0 : 1 ≤ chip.busy.toNat := UInt32.le_iff_toNat_le.1 h1
      simp only [perform, poll, hb, if_true, UInt32.toNat_sub_of_le _ _ h1]
      show chip.busy.toNat - 1 < chip.busy.toNat
      omega
    · have h' : (chip.poll).reply = .ok true := h
      simp only [poll, hb, if_false] at h'
      exact absurd (Except.ok.inj h' : (false : Bool) = true) Bool.false_ne_true

/-! ## Looking from outside -/

/-- Whether the chip's own record keeps a call: reports of sizes, busy polls, interrupt masks and
delays are no traffic and are left out. -/
def keeps : Call → Bool
  | .flashSize => false
  | .pageSize => false
  | .sectorSize => false
  | .isBusy => false
  | .maskInterrupts => false
  | .restoreInterrupts _ => false
  | .delay _ => false
  | _ => true

/-- The mark that a chip keeps while a call is in flight, and how many calls came in then. -/
structure CallGuard where
  inCall : Bool := false
  overlaps : Nat := 0

/-- A call comes in. -/
def CallGuard.enter (g : CallGuard) : CallGuard :=
  ⟨true, if g.inCall then g.overlaps + 1 else g.overlaps⟩

/-- A call is over. -/
def CallGuard.leave (g : CallGuard) : CallGuard := { g with inCall := false }

/-- How many of the calls in a record came in while another one was in flight. A call is one step of
a run, and stands in the record where it was made. -/
def overlaps (calls : List Call) : Nat :=
  (calls.foldl (fun g _ => g.enter.leave) ({} : CallGuard)).overlaps

/-- Calls that are made one after the other never overlap: each is over before the next comes in. -/
theorem overlaps_eq_zero (calls : List Call) : overlaps calls = 0 := by
  have free (g : CallGuard) (h : g.inCall = false) :
      (calls.foldl (fun g _ => g.enter.leave) g).overlaps = g.overlaps := by
    induction calls generalizing g with
    | nil => rfl
    | cons _ rest ih =>
      rw [List.foldl_cons, ih _ rfl]
      simp [CallGuard.enter, CallGuard.leave, h]
  exact free {} rfl

/-- Replaces stored bytes, if the chip holds them. -/
def fill (chip : Chip) (address : UInt32) (data : List UInt8) : Except Fault Chip :=
  if chip.memory.holds address.toNat data.length then
    .ok { chip with memory := chip.memory.overwrite address.toNat data }
  else .error .outOfRange

/-- The stored bytes of a range, if the chip holds it. -/
def dataAt (chip : Chip) (address : UInt32) (length : Nat) : Except Fault (List UInt8) :=
  if chip.memory.holds address.toNat length then .ok (chip.memory.slice address.toNat length)
  else .error .outOfRange

/-- Makes the next connects fail. -/
def failConnects (chip : Chip) (count : UInt32) : Chip :=
  { chip with connectFailuresLeft := count }

end Chip

end FlashGate

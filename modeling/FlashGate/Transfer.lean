/-
The transfers: connecting with retries, reads in chunks, writes page by page, erases sector by
sector, and changes of the hardware configuration. Every transaction on the wire is masked.
Reads past the end of the device are padded with erased bytes; writes and erases stop there.
-/
import FlashGate.Geometry.Plan
import FlashGate.Mode
import FlashGate.Script

namespace FlashGate

/-- The retry budget of a connect. -/
structure RetryPolicy where
  /-- Attempts after the first one. -/
  retries : UInt32 := 5
  /-- Delay before each of them, in microseconds. -/
  delay : UInt32 := 1000
  deriving DecidableEq, Repr

namespace Transfer

open Script

/-! ## Connecting -/

/-- Connects with so many retries left, `attempts` counting the coming attempt. -/
def connectFrom (delay : UInt32) : (left attempts : Nat) → Script (Except DeviceError Unit)
  | 0, attempts => do
    match (← ask .connect : Except DeviceError Unit) with
    | .error _ => return .error (.connectFailed (UInt32.ofNat attempts))
    | .ok () => connected attempts
  | left + 1, attempts => do
    match (← ask .connect : Except DeviceError Unit) with
    | .error _ =>
      log (.warn s!"Flash connect attempt {attempts} failed, retrying in {delay} us")
      ask (.delay delay)
      if attempts + 1 < 0x100000000 then connectFrom delay left (attempts + 1) else .fault .overflow
    | .ok () => connected attempts
where
  /-- Ends a connect that succeeded at the given attempt. -/
  connected (attempts : Nat) : Script (Except DeviceError Unit) := do
    if 1 < attempts then log (.debug s!"Flash connected after {attempts} attempts")
    return .ok ()

/-- Connects the normal transport, with at most one more attempt than there are retries. -/
def connect (policy : RetryPolicy) : Script (Except DeviceError Unit) :=
  connectFrom policy.delay policy.retries.toNat 1

/-- Applies reconfiguration steps: releases come before acquisitions. Setting up the fast-read
hardware applies its calibration again. -/
def reconfigure (steps : Reconfiguration) (retry : RetryPolicy) :
    Script (Except DeviceError Unit) := do
  if steps.isEmpty then return .ok ()
  log (.debug ("Reconfiguring transport: " ++ steps.text))
  if steps.contains .shutdownFastRead then ask .fastReadShutdown
  if steps.contains .disconnect then ask .disconnect
  if steps.contains .setupFastRead then
    ask .fastReadSetup
    ask .fastReadApplyCalibration
  if steps.contains .connect then connect retry else return .ok ()

/-! ## Reads -/

/-- The log line of a request. -/
def asked (what : String) (length : Nat) (address : UInt32) : Line :=
  .debug s!"Asked to {what} {length} bytes at address {Text.hexAddress address}"

/-- Fills the buffer piece by piece: the device's part from `fetch`, which gets the piece and its
part of the buffer, and the padding with erased bytes. A piece without a device part is not
fetched. `filled` holds the bytes of the earlier pieces, the last one first. -/
def fillPieces (fetch : Piece → List UInt8 → Script (List UInt8)) :
    List Piece → List UInt8 → List (List UInt8) → Script (List UInt8)
  | [], _, filled => return filled.reverse.flatten
  | p :: rest, buffer, filled => do
    let padding := List.replicate p.fill erasedByte
    let buffer' := buffer.drop (p.length + p.fill)
    if p.length = 0 then fillPieces fetch rest buffer' (padding :: filled)
    else
      log (.trace s!"Read {p.length} bytes from flash at address {Text.hexAddress p.address}")
      let bytes ← fetch p (buffer.take p.length)
      fillPieces fetch rest buffer' (padding :: bytes :: filled)

/-- Reads the buffer in chunks, cut at the end of the device. -/
def readChunked (g : Geometry) (chunk : Nat) (fetch : Piece → List UInt8 → Script (List UInt8))
    (address : UInt32) (buffer : List UInt8) : Script (List UInt8) :=
  fillPieces fetch (g.pieces chunk address buffer.length) buffer []

/-- Reads through the normal transport. -/
def read (g : Geometry) (commands : CommandSet) (chunk : Nat) (address : UInt32)
    (buffer : List UInt8) : Script (List UInt8) := do
  log (asked "read" buffer.length address)
  readChunked g chunk (fun p bytes => masked (.readRaw commands.read p.address bytes))
    address buffer

/-- Reads through the fast-read hardware. A given submode is selected before every chunk;
otherwise the submode stays as it is. -/
def fastRead (g : Geometry) (chunk : Nat) (address : UInt32) (buffer : List UInt8)
    (submode : Option Submode) : Script (List UInt8) := do
  log (asked "fast read" buffer.length address)
  readChunked g chunk fetch address buffer
where
  /-- Fetches one chunk. -/
  fetch (p : Piece) (bytes : List UInt8) : Script (List UInt8) := do
    match submode with
    | none => masked (.fastRead p.address bytes)
    | some m =>
      ask (.fastReadSetMode m)
      masked (.fastRead p.address bytes)

/-! ## Writes and erases -/

/-- One transaction that changes the device: write enable, the change, waiting, write disable. -/
def change (commands : CommandSet) (c : Call) : Script Unit := do
  masked (.sendCommand commands.writeEnable)
  let _ ← masked c
  waitReady
  masked (.sendCommand commands.writeDisable)

/-- Programs one page. -/
def programPage (commands : CommandSet) (p : Page) : Script Unit := do
  log (.trace s!"Write {p.data.length} bytes to flash at address {Text.hexAddress p.address}")
  change commands (.programPage commands.programPage p.address p.data)

/-- Programs the data page by page and returns how many bytes were sent. -/
def write (g : Geometry) (commands : CommandSet) (address : UInt32) (data : List UInt8) :
    Script Nat := do
  log (asked "write" data.length address)
  let plan := g.writePlan address data
  each (programPage commands) plan.pages
  match plan.ending with
  | .complete => return data.length
  | .pastEnd dropped =>
    log (.debug s!"Write stopped at end of flash, {dropped} bytes dropped")
    return data.length - dropped
  | .overflow => .fault .overflow

/-- Erases one sector. -/
def eraseSector (commands : CommandSet) (s : SectorErase) : Script Unit := do
  let sector := s.address / sectorSize
  log (.trace (s!"Erasing sector {sector} at address {Text.hexAddress s.address} " ++
    s!"({s.remaining} bytes left)"))
  change commands (.eraseSector commands.sectorErase s.address)

/-- Erases every sector that the range meets; a range that covers the device is one command. -/
def erase (g : Geometry) (commands : CommandSet) (address : UInt32) (length : Nat) :
    Script Erased := do
  log (asked "erase" length address)
  if g.isWholeChip address length then
    log (.debug "Erasing entire chip")
    change commands (.sendCommand commands.chipErase)
    return .chip
  else
    let (start, remaining) := Geometry.alignErase address length
    if start ≠ address then
      log (.debug s!"Adjusted starting erase address to {Text.hexAddress start}")
    let sectors := g.sectorsFrom start remaining
    each (eraseSector commands) sectors
    return .sectors start sectors.length

end Transfer

end FlashGate

/-
Bring-up: the device is connected once, described and put into quad mode, then disconnected; with
fast reads configured, the fast-read hardware is set up once for calibration.
-/
import FlashGate.Config

namespace FlashGate.BringUp

open Script

/-- Calibrates the fast-read hardware and releases it. Without calibration reads are standard. -/
def calibrate (config : FastReadConfig) : Script Strategy := do
  ask .fastReadSetup
  match (← ask (.fastReadCalibrate config.calibrationAddress) : Except DeviceError Unit) with
  | .ok () =>
    ask .fastReadShutdown
    return .ofCalibration config.submode true
  | .error e =>
    let address := Text.hexAddress config.calibrationAddress
    log (.warn ("Fast-read calibration at " ++ address ++ " failed (" ++ e.message ++
      "), using standard reads"))
    ask .fastReadShutdown
    return .ofCalibration config.submode false

/-- The read path of a configuration. -/
def strategy (config : Config) : Script Strategy :=
  match config.fastRead with
  | some fast => calibrate fast
  | none => return .standard

/-- Brings the device up with a single connect attempt. A failure after the connect leaves the
device connected. -/
def script (config : Config) : Script (Except DeviceError (Geometry × Strategy)) := do
  match ← Transfer.connect { config.retry with retries := 0 } with
  | .error e => return .error e
  | .ok () =>
    let total : UInt32 ← ask .flashSize
    let page : UInt32 ← ask .pageSize
    let sector : UInt32 ← ask .sectorSize
    match Geometry.ofSizes total page sector with
    | .error e => return .error e
    | .ok geometry =>
      match (← ask .quadEnable : Except DeviceError Unit) with
      | .error e => return .error e
      | .ok () =>
        ask .disconnect
        return .ok (geometry, ← strategy config)

/-- The log line that tells the outcome. -/
def readyLine (g : Geometry) (s : Strategy) : Line :=
  .info (s!"Flash ready: {g.totalSize} bytes, {g.pageSize} byte pages, " ++
    s!"{g.sectorCount} sectors, {s.name} reads")

end FlashGate.BringUp

/-
Breaches of the transport protocol, as an emulated device reports them: transfers in the wrong
hardware configuration, programs and erases without write enable, addresses out of range.
-/
import FlashGate.Text.Hex

namespace FlashGate

/-- A kind of transaction on the wire. -/
inductive Activity where
  | connect
  | quadEnable
  | read
  | command
  | pageProgram
  | sectorErase
  | chipErase
  | calibration
  | applyCalibration
  | fastRead
  deriving DecidableEq, Repr

/-- The name of an activity in a report. -/
def Activity.name : Activity → String
  | .connect => "connect"
  | .quadEnable => "quad enable"
  | .read => "read"
  | .command => "command"
  | .pageProgram => "page program"
  | .sectorErase => "sector erase"
  | .chipErase => "chip erase"
  | .calibration => "calibration"
  | .applyCalibration => "apply calibration"
  | .fastRead => "fast read"

/-- A breach of the transport protocol. -/
inductive Breach where
  /-- A normal transfer while the transport is disconnected. -/
  | disconnected (activity : Activity)
  /-- A normal transfer while the fast-read hardware holds the pins. -/
  | fastReadActive (activity : Activity)
  /-- Use of the fast-read hardware before it is set up. -/
  | notSetUp (activity : Activity)
  /-- Use of the fast-read hardware while the normal transport holds the pins. -/
  | transportConnected (activity : Activity)
  /-- Set-up of the fast-read hardware while the normal transport holds the pins. -/
  | setupWhileConnected
  | uncalibrated
  | notWriteEnabled (activity : Activity)
  | unknownCommand (command : UInt8)
  | unsupportedReadCommand (command : UInt8)
  | crossesPage (address : UInt32)
  | unalignedErase (address : UInt32)
  | readPastEnd (address : UInt32)
  | fastReadPastEnd (address : UInt32)
  | programPastEnd (address : UInt32)
  | erasePastEnd (address : UInt32)
  deriving DecidableEq, Repr

/-- The wording of a breach. -/
def Breach.message : Breach → String
  | .disconnected a => a.name ++ " while transport disconnected"
  | .fastReadActive a => a.name ++ " while fast-read hardware active"
  | .notSetUp a => a.name ++ " without fast-read setup"
  | .transportConnected a => a.name ++ " while normal transport connected"
  | .setupWhileConnected => "fast-read setup while transport connected"
  | .uncalibrated => "fast read without calibration"
  | .notWriteEnabled a => a.name ++ " without write enable"
  | .unknownCommand c => "unknown command " ++ Text.hexByte c
  | .unsupportedReadCommand c => "unsupported read command " ++ Text.hexByte c
  | .crossesPage a => "page program crosses page at " ++ Text.hexAddress a
  | .unalignedErase a => "unaligned sector erase at " ++ Text.hexAddress a
  | .readPastEnd a => "read past end at " ++ Text.hexAddress a
  | .fastReadPastEnd a => "fast read past end at " ++ Text.hexAddress a
  | .programPastEnd a => "program past end at " ++ Text.hexAddress a
  | .erasePastEnd a => "erase past end at " ++ Text.hexAddress a

end FlashGate

/-
The gate's configuration and its parameter text: `key=value` settings between commas. Blanks
around a setting are trimmed, empty settings are skipped, the last setting of a key wins, and the
first setting that cannot be used decides the error.
-/
import FlashGate.Log
import FlashGate.Request
import FlashGate.Text.Blank
import FlashGate.Text.Number
import FlashGate.Transfer

namespace FlashGate

/-- Fast reads: the submode, and the address of the calibration pattern. -/
structure FastReadConfig where
  submode : Submode
  calibrationAddress : UInt32
  deriving DecidableEq, Repr

/-- The configuration of a gate. -/
structure Config where
  /-- Number of requests the queue holds; with zero each one is handed over directly. -/
  queueDepth : Nat := 2
  /-- Number of bytes read in one transaction. -/
  readChunk : Nat := 24576
  retry : RetryPolicy := {}
  /-- The dispatcher's own priority. -/
  priority : Priority := 0
  fastRead : Option FastReadConfig := none
  deriving DecidableEq, Repr

/-- Why a setting cannot be used. -/
inductive ParameterError where
  /-- The setting has no equals sign. -/
  | noValue (setting : String)
  | badNumber (key value : String)
  /-- A number that has to be at least one is zero. -/
  | zero (key : String)
  | badSubmode (value : String)
  deriving DecidableEq, Repr

/-- The wording of a parameter error. -/
def ParameterError.message : ParameterError → String
  | .noValue s => "Invalid parameter format: '" ++ s ++ "' (expected key=value)"
  | .badNumber k v => "Invalid " ++ k ++ " value: " ++ v
  | .zero k => "Invalid " ++ k ++ ": must be at least 1"
  | .badSubmode v => "Invalid fast_read: " ++ v ++ " (must be raw or nibble_swap)"

/-- A setting that was understood. -/
inductive Setting where
  | queue (depth : Nat)
  | chunk (bytes : Nat)
  | retries (count : UInt32)
  | retryDelay (microseconds : UInt32)
  | priority (p : Priority)
  | fastRead (submode : Submode)
  | calibrationAddress (address : UInt32)
  /-- A key without a meaning; it is kept for the warning. -/
  | unknown (key value : String)
  deriving DecidableEq, Repr

namespace Setting

/-- The value of a key as a number. -/
def number (key value : List Char) : Except ParameterError UInt32 :=
  match Text.readWord value with
  | .ok n => .ok n
  | .error _ => .error (.badNumber (String.ofList key) (String.ofList value))

/-- The value of a key as a number that is at least one. -/
def positive (key value : List Char) : Except ParameterError Nat :=
  match number key value with
  | .error e => .error e
  | .ok n => if n = 0 then .error (.zero (String.ofList key)) else .ok n.toNat

/-- The name of a submode. -/
def submode (value : List Char) : Except ParameterError Submode :=
  if value = "raw".toList then .ok .raw
  else if value = "nibble_swap".toList then .ok .nibbleSwap
  else .error (.badSubmode (String.ofList value))

/-- The setting of a key and its value. -/
def ofPair (key value : List Char) : Except ParameterError Setting :=
  if key = "queue".toList then (positive key value).map .queue
  else if key = "chunk".toList then (positive key value).map .chunk
  else if key = "retries".toList then (number key value).map .retries
  else if key = "retry_delay".toList then (number key value).map .retryDelay
  else if key = "priority".toList then (number key value).map .priority
  else if key = "fast_read".toList then (submode value).map .fastRead
  else if key = "cal_addr".toList then (number key value).map .calibrationAddress
  else .ok (.unknown (String.ofList key) (String.ofList value))

/-- Reads one setting, already trimmed. -/
def parse (text : List Char) : Except ParameterError Setting :=
  match Text.splitFirst? '=' text with
  | none => .error (.noValue (String.ofList text))
  | some (key, value) => ofPair key value

/-- The warning that a setting leaves. -/
def warning? : Setting → Option Line
  | .unknown key value => some (.warn s!"Unknown arbiter option: {key}={value}")
  | _ => none

end Setting

namespace Config

/-- A configuration under construction: the submode and the calibration address may come in any
order. -/
structure Draft where
  config : Config := {}
  submode : Option Submode := none
  calibrationAddress : UInt32 := 0
  deriving DecidableEq, Repr

namespace Draft

/-- The draft with a setting applied. -/
def apply (d : Draft) : Setting → Draft
  | .queue depth => { d with config := { d.config with queueDepth := depth } }
  | .chunk bytes => { d with config := { d.config with readChunk := bytes } }
  | .retries count =>
    { d with config := { d.config with retry := { d.config.retry with retries := count } } }
  | .retryDelay us =>
    { d with config := { d.config with retry := { d.config.retry with delay := us } } }
  | .priority p => { d with config := { d.config with priority := p } }
  | .fastRead m => { d with submode := some m }
  | .calibrationAddress a => { d with calibrationAddress := a }
  | .unknown .. => d

/-- The finished configuration. -/
def finish (d : Draft) : Config :=
  { d.config with fastRead := d.submode.map fun m => ⟨m, d.calibrationAddress⟩ }

end Draft

/-- The settings of a parameter text: trimmed, without the empty ones. -/
def segments (text : List Char) : List (List Char) :=
  ((Text.splitOn ',' text).map Text.trim).filter (· ≠ [])

/-- Applies settings in order. The log lines of the settings before an error are kept. -/
def applyAll (d : Draft) : List (List Char) → Except ParameterError Draft × List Line
  | [] => (.ok d, [])
  | s :: rest =>
    match Setting.parse s with
    | .error e => (.error e, [])
    | .ok setting =>
      let (result, lines) := applyAll (d.apply setting) rest
      (result, setting.warning?.toList ++ lines)

/-- The configuration of a parameter text, and the log lines of reading it. -/
def ofText (text : String) : Except ParameterError Config × List Line :=
  let (result, lines) := applyAll {} (segments text.toList)
  (result.map Draft.finish, lines)

end Config

end FlashGate

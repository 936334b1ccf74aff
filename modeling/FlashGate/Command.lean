/-
The command bytes of a serial NOR flash, the set of commands that the transfers send, and the
submodes of the fast-read hardware.
-/

namespace FlashGate

/-! ## Command bytes -/

namespace Opcode

/-- Write enable. -/
def wren : UInt8 := 0x06
/-- Write disable. -/
def wrdi : UInt8 := 0x04
/-- Read on one line. -/
def read : UInt8 := 0x03
/-- Read on one line at full clock. -/
def fastRead : UInt8 := 0x0B
/-- Read with address and data on four lines. -/
def qior : UInt8 := 0xEB
/-- Page program. -/
def pp : UInt8 := 0x02
/-- Erase of a 4 KiB sector. -/
def se20 : UInt8 := 0x20
/-- Chip erase, first encoding. -/
def ce60 : UInt8 := 0x60
/-- Chip erase, second encoding. -/
def ceC7 : UInt8 := 0xC7

/-- All command bytes with their data-sheet names. -/
def table : List (String × UInt8) :=
  [("WREN", wren), ("WRDI", wrdi), ("READ", read), ("FAST_READ", fastRead), ("QIOR", qior),
    ("PP", pp), ("SE_20", se20), ("CE_60", ce60), ("CE_C7", ceC7)]

end Opcode

/-! ## Command sets -/

/-- The command byte for each kind of transaction. -/
structure CommandSet where
  read : UInt8
  writeEnable : UInt8
  writeDisable : UInt8
  programPage : UInt8
  sectorErase : UInt8
  chipErase : UInt8
  deriving DecidableEq, Repr

/-- The commands of a device that reports none of its own. -/
def CommandSet.standard : CommandSet :=
  ⟨Opcode.qior, Opcode.wren, Opcode.wrdi, Opcode.pp, Opcode.se20, Opcode.ceC7⟩

/-! ## Submodes -/

/-- How the fast-read hardware hands over a byte: as it is clocked in, or with its two nibbles
swapped. -/
inductive Submode where
  | raw
  | nibbleSwap
  deriving DecidableEq, Repr

namespace Submode

/-- The byte with its two nibbles swapped. -/
def swapNibbles (b : UInt8) : UInt8 := b <<< 4 ||| b >>> 4

/-- A byte as the submode hands it over. -/
def apply : Submode → UInt8 → UInt8
  | .raw, b => b
  | .nibbleSwap, b => swapNibbles b

end Submode

end FlashGate

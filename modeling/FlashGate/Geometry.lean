/-
The geometry of a NOR flash device: its size, its program pages and its 4 KiB erase sectors, and
the address arithmetic on them. Addresses are 32-bit words, lengths are counts. The page size is
a power of two, so an offset in a page is a mask.
-/
import FlashGate.Fault

namespace FlashGate

/-- The size of an erase sector in bytes. -/
def sectorSize : UInt32 := 4096

/-- The binary logarithm of the sector size. -/
def sectorBits : UInt32 := 12

/-- The value of an erased byte. -/
def erasedByte : UInt8 := 0xFF

/-- The largest length a request can carry. -/
def maxLength : Nat := 0xFFFFFFFFFFFFFFFF

/-- Whether a word is a power of two. -/
def isPowerOfTwo (w : UInt32) : Bool := w != 0 && w &&& (w - 1) == 0

/-- Size and page size of a device with 4 KiB sectors. -/
structure Geometry where
  totalSize : UInt32
  pageSize : UInt32
  totalSize_ne_zero : totalSize ≠ 0
  pageSize_isPowerOfTwo : isPowerOfTwo pageSize = true

/-- The part of a read chunk that the device holds, and the padding after it. -/
structure Split where
  address : UInt32
  length : Nat
  fill : Nat
  deriving DecidableEq, Repr

namespace Geometry

/-- The geometry of the reported sizes. An unsupported sector size is reported before any other
defect. -/
def ofSizes (total page sector : UInt32) : Except DeviceError Geometry :=
  if sector ≠ sectorSize then .error (.unsupportedSectorSize sector)
  else if h : total ≠ 0 ∧ isPowerOfTwo page = true then .ok ⟨total, page, h.1, h.2⟩
  else .error .invalidGeometry

variable (g : Geometry)

/-- Number of whole pages. -/
def pageCount : UInt32 := g.totalSize / g.pageSize

/-- Number of whole sectors. -/
def sectorCount : UInt32 := g.totalSize >>> sectorBits

/-- The address, or the end of the device if it lies past the end. -/
def clamp (address : UInt32) : UInt32 := min address g.totalSize

/-- Cuts a read of `length` bytes at the end of the device. -/
def splitForRead (address : UInt32) (length : Nat) : Split :=
  let start := g.clamp address
  let available := (g.totalSize - start).toNat
  if available < length then ⟨start, available, length - available⟩ else ⟨start, length, 0⟩

/-- The start of the sector that holds the address. -/
def sectorFloor (address : UInt32) : UInt32 := address &&& ~~~(sectorSize - 1)

/-- Whether the address starts a sector. -/
def isSectorAligned (address : UInt32) : Bool := address &&& (sectorSize - 1) == 0

/-- Moves the start of an erase down to its sector and grows the length by as much, up to the
largest length. -/
def alignErase (address : UInt32) (length : Nat) : UInt32 × Nat :=
  let start := sectorFloor address
  (start, min (length + (address - start).toNat) maxLength)

/-- Number of bytes from the address to the end of its page. -/
def pageRemaining (address : UInt32) : UInt32 :=
  g.pageSize - (address &&& (g.pageSize - 1))

/-- Whether an erase covers the whole device. -/
def isWholeChip (address : UInt32) (length : Nat) : Bool :=
  address == 0 && g.totalSize.toNat ≤ length

/-- A page is never empty, so a write always advances. -/
theorem pageRemaining_pos (address : UInt32) : 0 < (g.pageRemaining address).toNat := by
  have hp : g.pageSize ≠ 0 := by
    intro h
    have := g.pageSize_isPowerOfTwo
    simp [isPowerOfTwo, h] at this
  have hp' : 0 < g.pageSize.toNat := by
    rcases Nat.eq_zero_or_pos g.pageSize.toNat with h | h
    · exact absurd (UInt32.toNat_inj.1 h) hp
    · exact h
  have h1 : (g.pageSize - 1).toNat = g.pageSize.toNat - 1 := by
    rw [UInt32.toNat_sub_of_le _ _ (by rw [UInt32.le_iff_toNat_le]; exact hp')]; rfl
  have hle : (address &&& (g.pageSize - 1)).toNat ≤ g.pageSize.toNat - 1 := by
    rw [UInt32.toNat_and, h1]; exact Nat.and_le_right
  unfold pageRemaining
  rw [UInt32.toNat_sub_of_le _ _ (by rw [UInt32.le_iff_toNat_le]; omega)]
  omega

end Geometry

end FlashGate

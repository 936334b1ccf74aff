/-
How a request is cut along the geometry, before anything is sent: a read into pieces of at most a
chunk each and the padding after the end of the device, a write into programs that stay in their
page, an erase into sectors.
-/
import FlashGate.Geometry

namespace FlashGate

/-- One piece of a read, at most a chunk or all padding: the bytes the device holds at `address`,
and the padding after them. It goes to the place `offset` of the buffer. -/
structure Piece extends Split where
  offset : Nat
  deriving DecidableEq, Repr

/-- One program: bytes that lie in one page. -/
structure Page where
  address : UInt32
  data : List UInt8
  deriving DecidableEq, Repr

/-- How the cutting of a write ends. -/
inductive WriteEnd where
  /-- All bytes are in the pages. -/
  | complete
  /-- The end of the device is reached; so many bytes are dropped. -/
  | pastEnd (dropped : Nat)
  /-- The address after the last page is no 32-bit word. -/
  | overflow
  deriving DecidableEq, Repr

/-- The programs of a write, in order, and how they end. -/
structure WritePlan where
  pages : List Page
  ending : WriteEnd
  deriving DecidableEq, Repr

/-- One sector erase, and the bytes that were left to erase before it. -/
structure SectorErase where
  address : UInt32
  remaining : Nat
  deriving DecidableEq, Repr

/-- What an erase does to the device. -/
inductive Erased where
  /-- One command for the whole chip. -/
  | chip
  /-- So many sectors, one after the other. -/
  | sectors (start : UInt32) (count : Nat)
  deriving DecidableEq, Repr

namespace Geometry

variable (g : Geometry)

/-- The pieces of a read from `offset` on. The next piece starts where the device's part of this
one ends; after the end of the device all the rest is one piece of padding. -/
def piecesFrom (chunk : Nat) (address : UInt32) (offset remaining : Nat) : List Piece :=
  if remaining = 0 then []
  else
    let step := max chunk 1
    let split := g.splitForRead address (min remaining step)
    if split.length = 0 then [{ split with fill := remaining, offset }]
    else
      { split with offset } ::
        piecesFrom chunk (split.address + UInt32.ofNat split.length) (offset + step)
          (remaining - step)
termination_by remaining

/-- The pieces of a read of `length` bytes. -/
def pieces (chunk : Nat) (address : UInt32) (length : Nat) : List Piece :=
  g.piecesFrom chunk address 0 length

/-- The programs of a write. Each takes what is left of its page. -/
def writePlan (address : UInt32) (data : List UInt8) : WritePlan :=
  if data = [] then ⟨[], .complete⟩
  else if g.totalSize ≤ address then ⟨[], .pastEnd data.length⟩
  else
    let room := (g.pageRemaining address).toNat
    let page : Page := ⟨address, data.take room⟩
    let length := page.data.length
    if address.toNat + length < 0x100000000 then
      let rest := writePlan (address + UInt32.ofNat length) (data.drop room)
      { rest with pages := page :: rest.pages }
    else ⟨[page], .overflow⟩
termination_by data.length
decreasing_by
  have := g.pageRemaining_pos address
  have : data.length ≠ 0 := by simpa using ‹¬data = []›
  simp only [List.length_drop]
  omega

/-- The sectors of an erase from `address` on, up to the end of the device or of the address
space. -/
def sectorsFrom (address : UInt32) (remaining : Nat) : List SectorErase :=
  if remaining = 0 ∨ g.totalSize ≤ address then []
  else
    ⟨address, remaining⟩ ::
      if address.toNat + sectorSize.toNat < 0x100000000 then
        sectorsFrom (address + sectorSize) (remaining - min remaining sectorSize.toNat)
      else []
termination_by remaining
decreasing_by
  have : sectorSize.toNat = 4096 := rfl
  omega

end Geometry

end FlashGate

/-
Where the geometry cuts a range: at the end of the device, at the end of a page, at the start of a
sector. Main statement: `cuts_at_boundaries`, that a read can be cut anywhere without a change in
what it gets from the device, and that what is computed with masks on words is the nearest multiple
of the page size and of the sector size.
-/
import FlashGate.Proofs.Device.Plan
import Mathlib.Order.Bounds.Defs

namespace FlashGate.Geometry

variable (g : Geometry)

/-! ## The end of a page -/

theorem isLeast_pageEnd (address : UInt32) :
    IsLeast {k | g.pageSize.toNat ∣ k ∧ address.toNat < k}
      (address.toNat + (g.pageRemaining address).toNat) := by
  have inside := Nat.mod_lt address.toNat g.pageSize_pos
  have parts := Nat.div_add_mod address.toNat g.pageSize.toNat
  have place : address.toNat + (g.pageRemaining address).toNat =
      g.pageSize.toNat * (address.toNat / g.pageSize.toNat + 1) := by
    rw [pageRemaining_eq, Nat.mul_add_one]
    omega
  refine ⟨⟨place ▸ Nat.dvd_mul_right .., by rw [pageRemaining_eq]; omega⟩, ?_⟩
  rintro _ ⟨⟨q, rfl⟩, after⟩
  rw [place]
  exact Nat.mul_le_mul_left _ (Nat.div_lt_of_lt_mul after)

/-! ## The start of a sector -/

theorem isGreatest_sectorFloor (address : UInt32) :
    IsGreatest {k | 4096 ∣ k ∧ k ≤ address.toNat} (sectorFloor address).toNat := by
  rw [sectorFloor_eq]
  exact ⟨⟨Nat.dvd_mul_left .., by omega⟩, fun k ⟨multiple, upTo⟩ => by omega⟩

theorem sectorFloor_eq_shift (address : UInt32) :
    sectorFloor address = address >>> sectorBits <<< sectorBits := by
  have bits : sectorBits.toNat % 32 = 12 := by decide
  rw [← UInt32.toNat_inj, sectorFloor_eq, UInt32.toNat_shiftLeft, UInt32.toNat_shiftRight, bits,
    Nat.shiftLeft_eq, Nat.shiftRight_eq_div_pow]
  have := address.toNat_lt
  omega

theorem length_alignErase (address : UInt32) (length : Nat) :
    (alignErase address length).2 = min (length + address.toNat % 4096) (2 ^ 64 - 1) := by
  obtain ⟨start, stop⟩ := alignErase_eq address length
  have largest : maxLength = 2 ^ 64 - 1 := rfl
  omega

/-! ## All boundaries -/

/-- For every geometry, address and lengths. A read is cut into what the device holds and the
padding, and goes on at a word inside of the device or at its end; going on there gets together what
the read in one piece gets, and so do the pieces of any chunk. What is left of a page reaches to the
next multiple of the page size. An erase starts at the last multiple of the sector size, and its
length grows by the offset there, up to the largest length. -/
theorem cuts_at_boundaries (address : UInt32) (m n : Nat) :
    let first := g.splitForRead address m
    let room := (g.pageRemaining address).toNat
    let erase := alignErase address m
    (first.address.toNat = min address.toNat g.totalSize.toNat ∧
      first.length = min (g.totalSize.toNat - address.toNat) m ∧ first.length + first.fill = m ∧
      first.next.toNat = first.address.toNat + first.length ∧
      first.next.toNat ≤ g.totalSize.toNat) ∧
    first.Joins (g.splitForRead first.next n) (g.splitForRead address (m + n)) ∧
    (∀ chunk, ((g.pieces chunk address m).map fun p => p.length).sum = first.length ∧
      ((g.pieces chunk address m).map fun p => p.fill).sum = first.fill) ∧
    (room = g.pageSize.toNat - address.toNat % g.pageSize.toNat ∧
      1 ≤ room ∧ room ≤ g.pageSize.toNat ∧
      IsLeast {k | g.pageSize.toNat ∣ k ∧ address.toNat < k} (address.toNat + room)) ∧
    erase.1 = address >>> sectorBits <<< sectorBits ∧
    IsGreatest {k | 4096 ∣ k ∧ k ≤ address.toNat} erase.1.toNat ∧
    erase.2 = min (m + address.toNat % 4096) (2 ^ 64 - 1) := by
  obtain ⟨start, held, all⟩ := g.splitForRead_eq address m
  obtain ⟨word, inside⟩ := g.splitForRead_inside address m
  have room := g.pageRemaining_eq address
  exact ⟨⟨start, held, all, word, inside⟩, g.joins_splitForRead address m n,
    fun chunk => g.sums_piecesFrom chunk address 0 m,
    ⟨room, g.pageRemaining_pos address, room ▸ Nat.sub_le .., g.isLeast_pageEnd address⟩,
    sectorFloor_eq_shift address, isGreatest_sectorFloor address, length_alignErase address m⟩

/-- The last page of the address space ends after the last word. -/
example : let g : Geometry := ⟨100, 0x80000000, by decide, by decide⟩
    (0xFFFFFFFF : UInt32).toNat + (g.pageRemaining 0xFFFFFFFF).toNat = 2 ^ 32 := by decide

end FlashGate.Geometry

/-
Where a sector erase of the emulated chip lands. The chip tells an unaligned address by the
remainder, but clears the bits below the sector size to find the start of the sector. Main
statement: `sector_erase_by_mask`, the law of an erase for every sector size, and that it erases the
sector of its address on all chips of a profile just where the sector size is a power of two, or
larger than the chip.
-/
import FlashGate.Proofs.Device.Storage

namespace FlashGate.Chip

/-! ## Where sectors start -/

theorem sectorStart_holds {sector : UInt32} (some : sector ≠ 0) (address : UInt32) :
    sectorStart sector address ≤ address.toNat ∧
      address.toNat < sectorStart sector address + sector.toNat := by
  have pos : 0 < sector.toNat := Nat.pos_of_ne_zero fun h => some (UInt32.toNat_inj.1 h)
  have parts := sectorStart_add some address
  have bound : address.toNat &&& (sector.toNat - 1) ≤ sector.toNat - 1 := Nat.and_le_right
  omega

/-- Where the sector size is no power of two, some address of the first sector has a start after
its own. -/
theorem exists_sectorStart_pos {sector : UInt32} (some : sector ≠ 0)
    (other : isPowerOfTwo sector = false) :
    ∃ address : UInt32, address.toNat < sector.toNat ∧ 0 < sectorStart sector address := by
  have pos : sector.toNat ≠ 0 := fun h => some (UInt32.toNat_inj.1 h)
  have low : 2 ^ sector.toNat.log2 ≤ sector.toNat := Nat.log2_self_le pos
  have high : sector.toNat < 2 ^ (sector.toNat.log2 + 1) := Nat.lt_log2_self
  have between : sector.toNat ≠ 2 ^ sector.toNat.log2 := fun h => by
    rw [Geometry.isPowerOfTwo_iff.2 ⟨_, h⟩] at other
    cases other
  generalize sector.toNat.log2 = k at low high between
  -- the address with all bits below the highest one of the sector size
  have small := sector.toNat_lt
  have word : (UInt32.ofNat (2 ^ k - 1)).toNat = 2 ^ k - 1 := UInt32.toNat_ofNat_of_lt' (by
    show _ < 2 ^ 32
    omega)
  have parts := sectorStart_add some (UInt32.ofNat (2 ^ k - 1))
  rw [word, Nat.and_comm, Nat.and_two_pow_sub_one_eq_mod] at parts
  rw [Nat.pow_succ] at high
  have rest : (sector.toNat - 1) % 2 ^ k = sector.toNat - 1 - 2 ^ k := by
    rw [Nat.mod_eq_sub_mod (by omega), Nat.mod_eq_of_lt (by omega)]
  exact ⟨UInt32.ofNat (2 ^ k - 1), by omega, by omega⟩

/-! ## Sector erases -/

section Law

variable (chip : Chip)

/-- An erase of the sector that starts at a place: only bytes of that sector change, they are all
erased where the sector lies inside of the chip, and the erase is reported as unaligned just where
its address does not start a sector. -/
structure ErasesAt (start : Nat) (command : UInt8) (address : UInt32) : Prop where
  others : ∀ i, ¬ (start ≤ i ∧ i < start + chip.profile.sectorSize.toNat) →
    (chip.perform (.eraseSector command address)).device.memory.byte i = chip.memory.byte i
  filled : start + chip.profile.sectorSize.toNat ≤ chip.memory.size →
    ∀ i, start ≤ i → i < start + chip.profile.sectorSize.toNat →
      (chip.perform (.eraseSector command address)).device.memory.byte i = erasedByte
  reported : .unalignedErase address ∈ (chip.perform (.eraseSector command address)).breaches ↔
    address.toNat ≠ address.toNat / chip.profile.sectorSize.toNat * chip.profile.sectorSize.toNat

variable {chip}

theorem mod_eq_zero_iff (sector address : UInt32) : address % sector = 0 ↔
    address.toNat = address.toNat / sector.toNat * sector.toNat := by
  have parts := Nat.div_add_mod' address.toNat sector.toNat
  rw [← UInt32.toNat_inj, UInt32.toNat_mod]
  show _ = 0 ↔ _
  omega

/-- What an erase does while the latch is on. -/
theorem eraseSector_perform (some : chip.profile.sectorSize ≠ 0)
    (enabled : chip.writeEnabled = true)
    (command : UInt8) (address : UInt32) :
    let start := sectorStart chip.profile.sectorSize address
    let length := chip.profile.sectorSize.toNat
    let outcome := chip.perform (.eraseSector command address)
    outcome.reply = .ok () ∧
    outcome.device.memory =
      (if start + length ≤ chip.memory.size then chip.memory.erase start length else chip.memory) ∧
    (.unalignedErase address ∈ outcome.breaches ↔ address % chip.profile.sectorSize ≠ 0) := by
  intro start length outcome
  have wire : .unalignedErase address ∉ chip.wireBreaches .sectorErase := by
    unfold wireBreaches
    cases chip.connected <;> cases chip.fastReadActive <;> simp
  have alignment : (.unalignedErase address ∈ (if address % chip.profile.sectorSize = 0 then []
      else [Breach.unalignedErase address])) ↔ address % chip.profile.sectorSize ≠ 0 := by
    split <;> simp [*]
  have performed : outcome =
      if chip.memory.holds start length then
        ⟨.ok (), { chip.begin with memory := chip.memory.erase start length },
          chip.wireBreaches .sectorErase ++ if address % chip.profile.sectorSize = 0 then []
            else [.unalignedErase address]⟩
      else ⟨.ok (), chip.begin, chip.wireBreaches .sectorErase ++
        (if address % chip.profile.sectorSize = 0 then [] else [.unalignedErase address]) ++
          [.erasePastEnd address]⟩ := by
    show chip.eraseSector command address = _
    simp only [eraseSector, if_neg some, if_pos enabled]
    rfl
  rw [performed]
  by_cases held : start + length ≤ chip.memory.size
  · have inside : chip.memory.holds start length = true := decide_eq_true held
    rw [if_pos inside, if_pos held]
    exact ⟨rfl, rfl, by simp [wire, alignment]⟩
  · have outside : ¬ chip.memory.holds start length = true := fun h => held (of_decide_eq_true h)
    rw [if_neg outside, if_neg held]
    exact ⟨rfl, rfl, by simp [wire, alignment]⟩

theorem erasesAt_sectorStart (some : chip.profile.sectorSize ≠ 0)
    (enabled : chip.writeEnabled = true) (command : UInt8) (address : UInt32) :
    chip.ErasesAt (sectorStart chip.profile.sectorSize address) command address := by
  obtain ⟨-, memory, unaligned⟩ := eraseSector_perform some enabled command address
  refine ⟨fun i outside => ?_, fun inside i low high => ?_, ?_⟩
  · rw [memory]
    split
    · rw [Memory.byte_erase, if_neg outside]
    · rfl
  · rw [memory, if_pos inside, Memory.byte_erase, if_pos ⟨low, high⟩]
  · rw [unaligned, Ne, mod_eq_zero_iff]

end Law

/-- The chips of a profile that can be erased: they hold as many bytes as they say, and their latch
is on. -/
structure Erasable (profile : Profile) (chip : Chip) : Prop where
  built : chip.profile = profile
  memory : chip.memory.size = profile.size.toNat
  enabled : chip.writeEnabled = true

/-- Where the sector size is no power of two and a sector lies inside of the chip, some erase leaves
a byte of the first sector as it is: that of an address there which has a later start. -/
theorem exists_not_erasesAt {profile : Profile} (some : profile.sectorSize ≠ 0)
    (other : isPowerOfTwo profile.sectorSize = false)
    (inside : profile.sectorSize.toNat ≤ profile.size.toNat) :
    ∃ chip, Erasable profile chip ∧ ∃ address : UInt32,
      ¬ chip.ErasesAt (address.toNat / profile.sectorSize.toNat * profile.sectorSize.toNat)
        commands.sectorErase address := by
  obtain ⟨address, first, after⟩ := exists_sectorStart_pos some other
  let chip : Chip := { make profile [0] with writeEnabled := true }
  refine ⟨chip, ⟨rfl, rfl, rfl⟩, address, fun whole => ?_⟩
  have pos : 0 < profile.size.toNat := by omega
  have clear : chip.memory.byte 0 = 0 := by
    show ((Memory.erased _).overwrite 0 ([0].take profile.size.toNat)).byte 0 = 0
    rw [List.take_of_length_le (by exact pos), Memory.byte_overwrite]
    rfl
  have elsewhere : chip.ErasesAt (sectorStart profile.sectorSize address) commands.sectorErase
      address := erasesAt_sectorStart some rfl _ _
  have kept := elsewhere.others 0 fun here => Nat.not_le.2 after here.1
  rw [Nat.div_eq_of_lt first, Nat.zero_mul] at whole
  have sized : 0 + profile.sectorSize.toNat ≤ profile.size.toNat := by omega
  have erased := whole.filled sized 0 (Nat.le_refl 0)
    (Nat.lt_of_le_of_lt (Nat.zero_le _) (Nat.lt_add_left 0 first))
  rw [kept, clear] at erased
  cases erased

/-- A sector erase while the latch is on, for every sector size but zero: it erases the range of
that size which starts with the address less the bits below the sector size, if that lies inside of
the chip, and the range holds the address. So the sector of each address is erased, and no byte
outside of it, on all chips of a profile, just where the sector size is a power of two, or where no
sector lies inside of the chip. -/
theorem sector_erase_by_mask (profile : Profile) (some : profile.sectorSize ≠ 0) :
    let sector := profile.sectorSize.toNat
    (∀ chip, Erasable profile chip → ∀ command address,
      let start := address.toNat - (address.toNat &&& (sector - 1))
      (start ≤ address.toNat ∧ address.toNat < start + sector) ∧
      (chip.perform (.eraseSector command address)).reply = .ok () ∧
      chip.ErasesAt start command address ∧
      (chip.memory.size < start + sector →
        (chip.perform (.eraseSector command address)).device.memory = chip.memory)) ∧
    ((∀ chip, Erasable profile chip → ∀ command address,
      chip.ErasesAt (address.toNat / sector * sector) command address) ↔
        isPowerOfTwo profile.sectorSize = true ∨ profile.size.toNat < sector) := by
  intro sector
  have by_mask (chip : Chip) (erasable : Erasable profile chip) (command : UInt8)
      (address : UInt32) :
      chip.ErasesAt (sectorStart profile.sectorSize address) command address := by
    obtain ⟨rfl, -, enabled⟩ := erasable
    exact erasesAt_sectorStart some enabled command address
  refine ⟨fun chip erasable command address => ?_, fun all => ?_, fun sizes chip erasable command
    address => ?_⟩
  · intro start
    have parts := sectorStart_add some address
    have same : sectorStart profile.sectorSize address = start := by
      show _ = address.toNat - (address.toNat &&& (profile.sectorSize.toNat - 1))
      omega
    rw [← same]
    refine ⟨sectorStart_holds some address, ?_, by_mask chip erasable command address, ?_⟩
    · obtain ⟨rfl, -, enabled⟩ := erasable
      exact (eraseSector_perform some enabled command address).1
    · obtain ⟨rfl, -, enabled⟩ := erasable
      intro past
      rw [(eraseSector_perform some enabled command address).2.1, if_neg (Nat.not_le.2 past)]
  · cases other : isPowerOfTwo profile.sectorSize with
    | true => exact .inl rfl
    | false =>
      refine .inr (Nat.lt_of_not_le fun inside => ?_)
      obtain ⟨chip, erasable, address, fails⟩ := exists_not_erasesAt some other inside
      exact fails (all chip erasable commands.sectorErase address)
  · rcases sizes with power | small
    · rw [← sector_start power]
      exact by_mask chip erasable command address
    · have erased := by_mask chip erasable command address
      obtain ⟨rfl, memory, enabled⟩ := erasable
      refine ⟨fun i _ => ?_, fun inside => ?_, erased.reported⟩
      · rw [(eraseSector_perform some enabled command address).2.1, if_neg (by omega)]
      · omega

/-- On a chip of three sectors of two bytes the second sector is erased from each of its addresses,
and the one that does not start it is reported. -/
theorem sector_erase_by_mask_two :
    let profile : Profile := { size := 6, sectorSize := 2 }
    let chip : Chip := { make profile (List.replicate 6 0) with writeEnabled := true }
    profile.sectorSize ≠ 0 ∧ Erasable profile chip ∧
    chip.ErasesAt 2 commands.sectorErase 2 ∧ chip.ErasesAt 2 commands.sectorErase 3 ∧
    (chip.perform (.eraseSector commands.sectorErase 3)).device.memory.toList =
      [0, 0, 0xFF, 0xFF, 0, 0] := by
  intro profile chip
  have some : profile.sectorSize ≠ 0 := by decide
  have erasable : Erasable profile chip := ⟨rfl, rfl, rfl⟩
  have erases := (sector_erase_by_mask profile some).2.2 (.inl (by decide)) chip erasable
    commands.sectorErase
  have two : (2 : UInt32).toNat / profile.sectorSize.toNat * profile.sectorSize.toNat = 2 := by
    decide
  have three : (3 : UInt32).toNat / profile.sectorSize.toNat * profile.sectorSize.toNat = 2 := by
    decide
  exact ⟨some, erasable, two ▸ erases 2, three ▸ erases 3, by decide +kernel⟩

/-- On a chip of two sectors of three bytes an erase of the second one, which is not reported,
erases the three bytes from the second byte on. -/
theorem erases_across_sectors :
    let profile : Profile := { size := 6, sectorSize := 3 }
    let chip : Chip := { make profile (List.replicate 6 0) with writeEnabled := true }
    let outcome := chip.perform (.eraseSector commands.sectorErase 3)
    profile.sectorSize ≠ 0 ∧ Erasable profile chip ∧
    outcome.device.memory.toList = [0, 0xFF, 0xFF, 0xFF, 0, 0] ∧
    .unalignedErase 3 ∉ outcome.breaches ∧ ¬ chip.ErasesAt 3 commands.sectorErase 3 := by
  intro profile chip outcome
  have left : outcome.device.memory.byte 4 = 0 := by decide +kernel
  refine ⟨by decide, ⟨rfl, rfl, rfl⟩, by decide +kernel, by decide +kernel, fun erases => ?_⟩
  have erased := erases.filled (by decide) 4 (by decide) (by decide)
  cases left.symm.trans erased

end FlashGate.Chip

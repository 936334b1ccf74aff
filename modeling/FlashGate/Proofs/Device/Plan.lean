/-
What the cutting of requests amounts to. Main statements: `joins_splitForRead`, that a read can be
cut in two anywhere; `flatMap_piecesFrom`, that the pieces of a read together hand over the bytes of
its range, erased ones past the end of the device; and `byte_erase_sectors`, that an erase erases
the sectors that its range meets.
-/
import FlashGate.Geometry.Plan
import FlashGate.Memory
import Mathlib.Algebra.BigOperators.Group.List.Basic
import Mathlib.Algebra.GroupWithZero.Nat

namespace FlashGate

namespace Split

/-- The address where a read goes on. -/
def next (s : Split) : UInt32 := s.address + UInt32.ofNat s.length

/-- Two parts of a read get together what a third one gets, and after the padding of the first part
there are no more bytes. -/
structure Joins (first second whole : Split) : Prop where
  length : first.length + second.length = whole.length
  fill : first.fill + second.fill = whole.fill
  ordered : 0 < first.fill → second.length = 0

end Split

namespace Geometry

variable (g : Geometry)

/-! ## Reads -/

/-- The bytes of a range, as a device of the given size shows them: erased ones past its end. -/
def shown (byte : Nat → UInt8) (size start length : Nat) : List UInt8 :=
  (List.range' start length).map fun i => if i < size then byte i else erasedByte

theorem shown_append (byte : Nat → UInt8) (size start m n : Nat) :
    shown byte size start (m + n) = shown byte size start m ++ shown byte size (start + m) n := by
  rw [shown, shown, shown, ← List.map_append, List.range'_append_1]

theorem shown_inside (byte : Nat → UInt8) {size start length : Nat} (h : start + length ≤ size) :
    shown byte size start length = (List.range' start length).map byte := by
  refine List.map_congr_left fun i hi => ?_
  have := (List.mem_range'_1.1 hi).2
  rw [if_pos (by omega)]

theorem shown_outside (byte : Nat → UInt8) {size start length : Nat} (h : size ≤ start) :
    shown byte size start length = List.replicate length erasedByte := by
  refine List.eq_replicate_iff.2 ⟨by simp [shown], fun b hb => ?_⟩
  obtain ⟨i, hi, rfl⟩ := List.mem_map.1 hb
  have := (List.mem_range'_1.1 hi).1
  rw [if_neg (by omega)]

/-- How a read is cut at the end of the device, in numbers. -/
theorem splitForRead_eq (address : UInt32) (length : Nat) :
    (g.splitForRead address length).address.toNat = min address.toNat g.totalSize.toNat ∧
    (g.splitForRead address length).length = min (g.totalSize.toNat - address.toNat) length ∧
    (g.splitForRead address length).length + (g.splitForRead address length).fill = length := by
  have clamp : (g.clamp address).toNat = min address.toNat g.totalSize.toNat := by
    show (if address ≤ g.totalSize then address else g.totalSize).toNat = _
    split
    next h =>
      rw [UInt32.le_iff_toNat_le] at h
      omega
    next h =>
      rw [UInt32.le_iff_toNat_le] at h
      omega
  have hle : g.clamp address ≤ g.totalSize := by
    rw [UInt32.le_iff_toNat_le, clamp]
    omega
  have room : (g.totalSize - g.clamp address).toNat = g.totalSize.toNat - address.toNat := by
    rw [UInt32.toNat_sub_of_le _ _ hle, clamp]
    omega
  unfold splitForRead
  simp only [room]
  split
  · exact ⟨clamp, by simp only; omega, by simp only; omega⟩
  · exact ⟨clamp, by simp only; omega, by simp only; omega⟩

theorem splitForRead_next (address : UInt32) (length : Nat) :
    ((g.splitForRead address length).address +
      UInt32.ofNat (g.splitForRead address length).length).toNat =
      min address.toNat g.totalSize.toNat + min (g.totalSize.toNat - address.toNat) length := by
  obtain ⟨ha, hl, -⟩ := g.splitForRead_eq address length
  have := g.totalSize.toNat_lt
  have small : (UInt32.ofNat (g.splitForRead address length).length).toNat =
      (g.splitForRead address length).length :=
    UInt32.toNat_ofNat_of_lt' (by rw [hl]; show _ < 2 ^ 32; omega)
  rw [UInt32.toNat_add, small, ha, hl, Nat.mod_eq_of_lt (by omega)]

/-- Each piece with a device part lies inside of the device. -/
theorem piece_inside {chunk : Nat} {address : UInt32} {offset remaining : Nat} {p : Piece}
    (hp : p ∈ g.piecesFrom chunk address offset remaining) :
    p.address.toNat + p.length ≤ g.totalSize.toNat := by
  induction remaining using Nat.strongRecOn generalizing address offset with
  | ind remaining ih =>
    rw [piecesFrom] at hp
    obtain ⟨ha, hl, -⟩ := g.splitForRead_eq address (min remaining (max chunk 1))
    split at hp
    · cases hp
    · simp only at hp
      split at hp
      · rw [List.mem_singleton] at hp
        subst hp
        simp only
        omega
      · rcases List.mem_cons.1 hp with rfl | hp
        · simp only
          omega
        · exact ih _ (by omega) hp

theorem splitForRead_inside (address : UInt32) (length : Nat) :
    let split := g.splitForRead address length
    split.next.toNat = split.address.toNat + split.length ∧
      split.next.toNat ≤ g.totalSize.toNat := by
  obtain ⟨start, held, -⟩ := g.splitForRead_eq address length
  have next : (g.splitForRead address length).next.toNat = _ := g.splitForRead_next address length
  dsimp only
  omega

/-- A read can be cut in two anywhere. -/
theorem joins_splitForRead (address : UInt32) (m n : Nat) :
    let first := g.splitForRead address m
    first.Joins (g.splitForRead first.next n) (g.splitForRead address (m + n)) := by
  intro first
  obtain ⟨-, held, all⟩ : _ ∧ first.length = _ ∧ first.length + first.fill = m :=
    g.splitForRead_eq address m
  -- what the device still holds after the first part
  have left : g.totalSize.toNat - first.next.toNat =
      g.totalSize.toNat - address.toNat - first.length := by
    have next : first.next.toNat = _ := g.splitForRead_next address m
    omega
  obtain ⟨-, held', all'⟩ := g.splitForRead_eq first.next n
  obtain ⟨-, heldWhole, allWhole⟩ := g.splitForRead_eq address (m + n)
  rw [left] at held'
  have lengths : first.length + (g.splitForRead first.next n).length =
      (g.splitForRead address (m + n)).length := by
    omega
  exact ⟨lengths, by omega, by omega⟩

/-- The pieces of a read get together what the read in one piece gets. -/
theorem sums_piecesFrom (chunk : Nat) (address : UInt32) (offset remaining : Nat) :
    ((g.piecesFrom chunk address offset remaining).map fun p => p.length).sum =
        (g.splitForRead address remaining).length ∧
      ((g.piecesFrom chunk address offset remaining).map fun p => p.fill).sum =
        (g.splitForRead address remaining).fill := by
  induction remaining using Nat.strongRecOn generalizing address offset with
  | ind remaining ih =>
    have joins := g.joins_splitForRead address (min remaining (max chunk 1))
      (remaining - max chunk 1)
    have cut : min remaining (max chunk 1) + (remaining - max chunk 1) = remaining := by omega
    rw [cut] at joins
    obtain ⟨-, -, all⟩ := g.splitForRead_eq address remaining
    obtain ⟨-, -, all'⟩ := g.splitForRead_eq address (min remaining (max chunk 1))
    rw [piecesFrom]
    split
    next none => simp only [List.map_nil, List.sum_nil]; omega
    next some =>
      simp only
      split
      next outside =>
        -- the first part is all padding, so no bytes come after it
        have past := joins.ordered (by omega)
        have := joins.length
        simp only [List.map_cons, List.map_nil, List.sum_cons, List.sum_nil]
        omega
      next =>
        obtain ⟨lengths, fills⟩ := ih (remaining - max chunk 1) (by omega)
          (g.splitForRead address (min remaining (max chunk 1))).next (offset + max chunk 1)
        rw [List.map_cons, List.map_cons, List.sum_cons, List.sum_cons]
        exact ⟨(congrArg _ lengths).trans joins.length, (congrArg _ fills).trans joins.fill⟩

theorem sum_piecesFrom (chunk : Nat) (address : UInt32) (offset remaining : Nat) :
    ((g.piecesFrom chunk address offset remaining).map fun p => p.length + p.fill).sum =
      remaining := by
  obtain ⟨lengths, fills⟩ := g.sums_piecesFrom chunk address offset remaining
  rw [List.sum_map_add, lengths, fills]
  exact (g.splitForRead_eq address remaining).2.2

/-- The pieces of a read hand over the bytes of its range. -/
theorem flatMap_piecesFrom (byte : Nat → UInt8) (chunk : Nat) (address : UInt32)
    (offset remaining : Nat) :
    (g.piecesFrom chunk address offset remaining).flatMap (fun p =>
      (List.range' p.address.toNat p.length).map byte ++ List.replicate p.fill erasedByte) =
      shown byte g.totalSize.toNat address.toNat remaining := by
  induction remaining using Nat.strongRecOn generalizing address offset with
  | ind remaining ih =>
    rw [piecesFrom]
    obtain ⟨ha, hl, hs⟩ := g.splitForRead_eq address (min remaining (max chunk 1))
    have hn := g.splitForRead_next address (min remaining (max chunk 1))
    split
    next h => simp [h, shown]
    next hr =>
      simp only
      split
      next h =>
        -- past the end all the rest is padding
        have past : g.totalSize.toNat ≤ address.toNat := by omega
        simp [h, shown_outside byte past]
      next h =>
        generalize hp : g.splitForRead address (min remaining (max chunk 1)) = p at *
        have inside : address.toNat + p.length ≤ g.totalSize.toNat := by omega
        -- what is padded lies past the end, and so does all that comes after padding
        have padding : List.replicate p.fill erasedByte =
            shown byte g.totalSize.toNat (address.toNat + p.length) p.fill := by
          rcases Nat.eq_zero_or_pos p.fill with hf | hf
          · simp [hf, shown]
          · rw [shown_outside byte (by omega)]
        have after : shown byte g.totalSize.toNat
            (min address.toNat g.totalSize.toNat +
              min (g.totalSize.toNat - address.toNat) (min remaining (max chunk 1)))
            (remaining - max chunk 1) = shown byte g.totalSize.toNat
              (address.toNat + p.length + p.fill) (remaining - max chunk 1) := by
          rcases Nat.eq_zero_or_pos p.fill with hf | hf
          · congr 1
            omega
          · rw [shown_outside byte (by omega), shown_outside byte (by omega)]
        have cut : remaining = p.length + p.fill + (remaining - max chunk 1) := by omega
        have start : p.address.toNat = address.toNat := by omega
        rw [List.flatMap_cons, ih _ (by omega), hn, after, padding]
        conv => rhs; rw [cut, shown_append, shown_append, shown_inside byte inside]
        simp only [start, Nat.add_assoc]

/-! ## Masks -/

/-- Clearing the low bits of a word rounds it down. -/
theorem and_high_mask {x k n : Nat} (hx : x < 2 ^ n) (hk : k ≤ n) :
    x &&& (2 ^ n - 2 ^ k) = x / 2 ^ k * 2 ^ k := by
  have mask : 2 ^ n - 2 ^ k = (2 ^ (n - k) - 1) <<< k := by
    rw [Nat.shiftLeft_eq, Nat.sub_mul, ← Nat.pow_add, Nat.sub_add_cancel hk, Nat.one_mul]
  have down : x / 2 ^ k * 2 ^ k = (x >>> k) <<< k := by
    rw [Nat.shiftLeft_eq, Nat.shiftRight_eq_div_pow]
  rw [mask, down]
  refine Nat.eq_of_testBit_eq fun i => ?_
  rw [Nat.testBit_and, Nat.testBit_shiftLeft, Nat.testBit_shiftLeft, Nat.testBit_shiftRight,
    Nat.testBit_two_pow_sub_one]
  by_cases hi : k ≤ i
  · have index : k + (i - k) = i := by omega
    by_cases hn : i - k < n - k
    · simp [hi, hn, index]
    · have high : x.testBit i = false :=
        Nat.testBit_lt_two_pow (Nat.lt_of_lt_of_le hx (Nat.pow_le_pow_right (by omega) (by omega)))
      simp [index, high]
  · simp [hi]

/-- The powers of two among the words. -/
theorem isPowerOfTwo_iff {w : UInt32} : isPowerOfTwo w = true ↔ ∃ k, w.toNat = 2 ^ k := by
  by_cases zero : w = 0
  · subst zero
    exact ⟨fun h => absurd h (by decide), fun ⟨k, hk⟩ =>
      absurd hk (Nat.ne_of_lt (Nat.two_pow_pos k))⟩
  · have pos : w.toNat ≠ 0 := fun h => zero (UInt32.toNat_inj.1 h)
    have one : (w - 1).toNat = w.toNat - 1 := by
      rw [UInt32.toNat_sub_of_le _ _ (by
        rw [UInt32.le_iff_toNat_le]
        exact Nat.pos_of_ne_zero pos)]
      rfl
    have bits : isPowerOfTwo w = true ↔ w.toNat &&& (w.toNat - 1) = 0 := by
      rw [isPowerOfTwo, ← one, ← UInt32.toNat_and, bne_iff_ne.2 zero, Bool.true_and, beq_iff_eq,
        ← UInt32.toNat_inj]
      rfl
    exact bits.trans (Nat.and_sub_one_eq_zero_iff_isPowerOfTwo pos)

theorem pageSize_eq : ∃ k, g.pageSize.toNat = 2 ^ k := isPowerOfTwo_iff.1 g.pageSize_isPowerOfTwo

theorem pageSize_pos : 0 < g.pageSize.toNat := by
  obtain ⟨k, hk⟩ := g.pageSize_eq
  rw [hk]
  exact Nat.two_pow_pos k

theorem pageRemaining_eq (address : UInt32) :
    (g.pageRemaining address).toNat = g.pageSize.toNat - address.toNat % g.pageSize.toNat := by
  obtain ⟨k, hk⟩ := g.pageSize_eq
  have one : (g.pageSize - 1).toNat = g.pageSize.toNat - 1 := by
    rw [UInt32.toNat_sub_of_le _ _ (by rw [UInt32.le_iff_toNat_le]; exact g.pageSize_pos)]
    rfl
  have offset : (address &&& (g.pageSize - 1)).toNat = address.toNat % g.pageSize.toNat := by
    rw [UInt32.toNat_and, one, hk, Nat.and_two_pow_sub_one_eq_mod]
  have := Nat.mod_lt address.toNat g.pageSize_pos
  rw [pageRemaining, UInt32.toNat_sub_of_le _ _ (by rw [UInt32.le_iff_toNat_le]; omega), offset]

theorem sectorFloor_eq (address : UInt32) :
    (sectorFloor address).toNat = address.toNat / 4096 * 4096 := by
  have mask : (~~~(sectorSize - 1)).toNat = 2 ^ 32 - 2 ^ 12 := by decide
  rw [sectorFloor, UInt32.toNat_and, mask, and_high_mask address.toNat_lt (by omega),
    show 2 ^ 12 = 4096 from rfl]

/-! ## Writes -/

theorem first_page {address : UInt32} {data : List UInt8} (hd : data ≠ [])
    (ha : ¬ g.totalSize ≤ address) :
    data.take (g.pageRemaining address).toNat ≠ [] ∧ address.toNat < g.totalSize.toNat ∧
      address.toNat % g.pageSize.toNat + (data.take (g.pageRemaining address).toNat).length ≤
        g.pageSize.toNat := by
  have pos := g.pageRemaining_pos address
  have room := g.pageRemaining_eq address
  have length : 0 < data.length := List.length_pos_iff.2 hd
  rw [UInt32.le_iff_toNat_le] at ha
  refine ⟨?_, by omega, ?_⟩
  · rw [← List.length_pos_iff, List.length_take]
    omega
  · rw [List.length_take]
    omega

/-- A page of a plan has bytes, starts inside of the device, and does not leave its page. -/
theorem page_of_writePlan {address : UInt32} {data : List UInt8} {p : Page}
    (hp : p ∈ (g.writePlan address data).pages) :
    p.data ≠ [] ∧ p.address.toNat < g.totalSize.toNat ∧
      p.address.toNat % g.pageSize.toNat + p.data.length ≤ g.pageSize.toNat := by
  induction address, data using writePlan.induct g with
  | case1 address => rw [writePlan, if_pos rfl] at hp; cases hp
  | case2 address data hd ha => rw [writePlan, if_neg hd, if_pos ha] at hp; cases hp
  | case3 address data hd ha room page length hl ih =>
    rw [writePlan, if_neg hd, if_neg ha] at hp
    simp only at hp
    rw [if_pos hl] at hp
    rcases List.mem_cons.1 hp with rfl | hp
    · exact g.first_page hd ha
    · exact ih hp
  | case4 address data hd ha room page length hl =>
    rw [writePlan, if_neg hd, if_neg ha] at hp
    simp only at hp
    rw [if_neg hl, List.mem_singleton] at hp
    subst hp
    exact g.first_page hd ha

/-- A memory with a page programmed, if the memory holds it. -/
def programHeld (m : Memory) (p : Page) : Memory :=
  if m.holds p.address.toNat p.data.length then m.program p.address.toNat p.data else m

@[simp] theorem size_programHeld (m : Memory) (p : Page) : (programHeld m p).size = m.size := by
  unfold programHeld
  split <;> rfl

@[simp] theorem size_foldl_programHeld (pages : List Page) (m : Memory) :
    (pages.foldl programHeld m).size = m.size := by
  induction pages generalizing m with
  | nil => rfl
  | cons p pages ih => rw [List.foldl_cons, ih, size_programHeld]

/-- Where the size is a whole number of pages, a part of a page that starts before the end lies
before the end. -/
theorem page_inside {size page address length : Nat} (whole : size % page = 0)
    (ha : address < size) (hl : address % page + length ≤ page) : address + length ≤ size := by
  have hd := Nat.div_add_mod address page
  have ht := Nat.div_add_mod size page
  have hq : address / page < size / page := Nat.div_lt_of_lt_mul (by omega)
  have : page * (address / page + 1) ≤ page * (size / page) := Nat.mul_le_mul_left _ hq
  rw [Nat.mul_add, Nat.mul_one] at this
  omega

theorem page_addresses {address : UInt32} {length : Nat}
    (fits : address.toNat % g.pageSize.toNat + length ≤ g.pageSize.toNat) :
    address.toNat + length ≤ 2 ^ 32 := by
  obtain ⟨k, hk⟩ := g.pageSize_eq
  have bound := g.pageSize.toNat_lt
  refine page_inside ?_ address.toNat_lt fits
  rw [hk] at bound ⊢
  have : k < 32 := (Nat.pow_lt_pow_iff_right (by omega)).1 bound
  exact Nat.mod_eq_zero_of_dvd (Nat.pow_dvd_pow 2 (by omega))

theorem pages_inside (whole : g.totalSize.toNat % g.pageSize.toNat = 0) {address : UInt32}
    {data : List UInt8} {p : Page} (hp : p ∈ (g.writePlan address data).pages) :
    p.address.toNat + p.data.length ≤ g.totalSize.toNat := by
  obtain ⟨-, inside, fits⟩ := g.page_of_writePlan hp
  exact page_inside whole inside fits

/-- A write whose pages lie inside of the device does not run out of addresses. -/
theorem ending_ne_overflow {address : UInt32} {data : List UInt8}
    (held : ∀ p ∈ (g.writePlan address data).pages,
      p.address.toNat + p.data.length ≤ g.totalSize.toNat) :
    (g.writePlan address data).ending ≠ .overflow := by
  induction address, data using writePlan.induct g with
  | case1 address => rw [writePlan, if_pos rfl]; simp
  | case2 address data hd ha => rw [writePlan, if_neg hd, if_pos ha]; simp
  | case3 address data hd ha room page length hl ih =>
    rw [writePlan, if_neg hd, if_neg ha] at held ⊢
    simp only at held ⊢
    rw [if_pos hl] at held ⊢
    exact ih fun p hp => held p (List.mem_cons_of_mem _ hp)
  | case4 address data hd ha room page length hl =>
    rw [writePlan, if_neg hd, if_neg ha] at held
    simp only at held
    rw [if_neg hl] at held
    have held : address.toNat + length ≤ g.totalSize.toNat := held page (List.mem_singleton_self _)
    have := g.totalSize.toNat_lt
    exact absurd (by omega) hl

/-! ## Erases -/

theorem isWholeChip_iff {address : UInt32} {length : Nat} :
    g.isWholeChip address length = true ↔ address = 0 ∧ g.totalSize.toNat ≤ length := by
  simp [isWholeChip]

/-- A memory with a sector erased, if the memory holds it. -/
def eraseHeld (m : Memory) (s : SectorErase) : Memory :=
  if m.holds s.address.toNat sectorSize.toNat then m.erase s.address.toNat sectorSize.toNat else m

@[simp] theorem size_eraseHeld (m : Memory) (s : SectorErase) : (eraseHeld m s).size = m.size := by
  unfold eraseHeld
  split <;> rfl

@[simp] theorem size_foldl_eraseHeld (sectors : List SectorErase) (m : Memory) :
    (sectors.foldl eraseHeld m).size = m.size := by
  induction sectors generalizing m with
  | nil => rfl
  | cons s sectors ih => rw [List.foldl_cons, ih, size_eraseHeld]

theorem sector_next {address : UInt32} (h : address.toNat + sectorSize.toNat < 0x100000000) :
    (address + sectorSize).toNat = address.toNat + 4096 := by
  rw [UInt32.toNat_add, Nat.mod_eq_of_lt h]
  rfl

theorem sector_of_sectorsFrom {address : UInt32} {remaining : Nat} {s : SectorErase}
    (aligned : address.toNat % 4096 = 0) (hs : s ∈ g.sectorsFrom address remaining) :
    s.address.toNat % 4096 = 0 ∧ s.address.toNat < g.totalSize.toNat := by
  induction address, remaining using sectorsFrom.induct g with
  | case1 address remaining h => rw [sectorsFrom, if_pos h] at hs; cases hs
  | case2 address remaining h ih =>
    rw [sectorsFrom, if_neg h] at hs
    rw [not_or, UInt32.le_iff_toNat_le] at h
    rcases List.mem_cons.1 hs with rfl | hs
    · exact ⟨aligned, by simp only; omega⟩
    · split at hs
      next hl => exact ih (by rw [sector_next hl]; omega) hs
      next => cases hs

/-- In a device of whole sectors, each sector of an erase lies inside of the device. -/
theorem sectors_inside (whole : g.totalSize.toNat % 4096 = 0) {address : UInt32} {length : Nat}
    {s : SectorErase}
    (hs : s ∈ g.sectorsFrom (alignErase address length).1 (alignErase address length).2) :
    s.address.toNat + 4096 ≤ g.totalSize.toNat := by
  have aligned : (alignErase address length).1.toNat % 4096 = 0 := by
    rw [alignErase, sectorFloor_eq]
    omega
  obtain ⟨start, inside⟩ := g.sector_of_sectorsFrom aligned hs
  omega

/-- The sectors of an erase together erase what lies in a sector that starts before the end of the
range, where they all lie inside of the device. -/
theorem byte_foldl_sectors (m : Memory) (hm : m.size = g.totalSize.toNat) {address : UInt32}
    (aligned : address.toNat % 4096 = 0) {remaining : Nat}
    (held : ∀ s ∈ g.sectorsFrom address remaining, s.address.toNat + 4096 ≤ g.totalSize.toNat)
    (i : Nat) :
    ((g.sectorsFrom address remaining).foldl eraseHeld m).byte i =
      if address.toNat ≤ i ∧ i / 4096 * 4096 < address.toNat + remaining ∧
        i < g.totalSize.toNat then erasedByte else m.byte i := by
  have size : sectorSize.toNat = 4096 := rfl
  have := g.totalSize.toNat_lt
  induction address, remaining using sectorsFrom.induct g generalizing m with
  | case1 address remaining h =>
    rw [sectorsFrom, if_pos h, List.foldl_nil, if_neg]
    rw [UInt32.le_iff_toNat_le] at h
    omega
  | case2 address remaining h ih =>
    rw [not_or, UInt32.le_iff_toNat_le] at h
    have hc : ¬ (remaining = 0 ∨ g.totalSize ≤ address) := by
      rw [not_or, UInt32.le_iff_toNat_le]
      exact h
    rw [sectorsFrom, if_neg hc] at held ⊢
    have inside : address.toNat + 4096 ≤ g.totalSize.toNat := held ⟨address, remaining⟩
      (List.mem_cons_self ..)
    -- the address after the sector is a word, as the device ends there or later
    have hl : address.toNat + sectorSize.toNat < 0x100000000 := by omega
    rw [if_pos hl] at held ⊢
    rw [List.foldl_cons, ih _ (by rw [size_eraseHeld, hm]) (by rw [sector_next hl]; omega)
      (fun s hs => held s (List.mem_cons_of_mem _ hs)), sector_next hl, size]
    have erased : eraseHeld m ⟨address, remaining⟩ = m.erase address.toNat 4096 := by
      rw [eraseHeld, if_pos]
      · rfl
      · simp only [Memory.holds, decide_eq_true_eq, hm, size]
        omega
    rw [erased, Memory.byte_erase]
    by_cases hi : address.toNat ≤ i ∧ i < address.toNat + 4096
    · -- in this sector
      rw [if_pos hi, if_neg (by omega), if_pos (by omega)]
    · rw [if_neg hi]
      by_cases later : address.toNat ≤ i ∧ i / 4096 * 4096 < address.toNat + remaining ∧
          i < g.totalSize.toNat
      · rw [if_pos (by omega), if_pos later]
      · rw [if_neg (by omega), if_neg later]

/-- Where an erase starts, and how far it goes, up to a length that no device has. -/
theorem alignErase_eq (address : UInt32) (length : Nat) :
    (alignErase address length).1.toNat = address.toNat / 4096 * 4096 ∧
      (alignErase address length).1.toNat + (alignErase address length).2 =
        min (address.toNat + length) (address.toNat / 4096 * 4096 + maxLength) := by
  have floor := sectorFloor_eq address
  have below : sectorFloor address ≤ address := by
    rw [UInt32.le_iff_toNat_le, floor]
    omega
  have offset : (address - sectorFloor address).toNat =
      address.toNat - address.toNat / 4096 * 4096 := by
    rw [UInt32.toNat_sub_of_le _ _ below, floor]
  refine ⟨floor, ?_⟩
  simp only [alignErase, floor, offset]
  omega

/-- An erase whose sectors lie inside of the device erases what lies in a sector that its range
meets. -/
theorem byte_erase_sectors (m : Memory) (hm : m.size = g.totalSize.toNat) {address : UInt32}
    {length : Nat} (held : ∀ s ∈ g.sectorsFrom (alignErase address length).1
      (alignErase address length).2, s.address.toNat + 4096 ≤ g.totalSize.toNat) (i : Nat) :
    ((g.sectorsFrom (alignErase address length).1 (alignErase address length).2).foldl
      eraseHeld m).byte i =
      if (address.toNat / 4096 ≤ i / 4096 ∧ i / 4096 * 4096 < address.toNat + length) ∧
        i < g.totalSize.toNat then erasedByte else m.byte i := by
  obtain ⟨start, stop⟩ := alignErase_eq address length
  have := g.totalSize.toNat_lt
  have large : maxLength = 2 ^ 64 - 1 := rfl
  rw [g.byte_foldl_sectors m hm (by rw [start]; omega) held, start]
  rw [start] at stop
  by_cases h : (address.toNat / 4096 ≤ i / 4096 ∧ i / 4096 * 4096 < address.toNat + length) ∧
      i < g.totalSize.toNat
  · rw [if_pos (by omega), if_pos h]
  · rw [if_neg (by omega), if_neg h]

end Geometry

end FlashGate

/-
A flat memory as the reference of what a gate's clients see: addresses are unbounded numbers, a
write clears bits, an erase sets whole sectors, a read past the end gives erased bytes. Main
statement: `Flat.shows_effect` and `Flat.reply_eq`, that an operation whose pages and sectors lie
inside of the device, as they all do on a device of whole pages and sectors, changes the stored
bytes as it changes the flat memory, and hands over the same bytes.
-/
import FlashGate.Proofs.Device.Extent
import FlashGate.Proofs.Device.Transfer

namespace FlashGate

/-- Whether the pages and sectors that the operation changes all lie inside of the device. -/
def Operation.StaysInside (g : Geometry) : Operation → Prop
  | .write address data => ∀ p ∈ (g.writePlan address data).pages,
    p.address.toNat + p.data.length ≤ g.totalSize.toNat
  | .erase address length => ∀ s ∈ g.sectorsFrom (Geometry.alignErase address length).1
      (Geometry.alignErase address length).2, s.address.toNat + 4096 ≤ g.totalSize.toNat
  | _ => True

/-- On a device of whole pages and sectors every operation stays inside. -/
theorem Operation.staysInside_of_whole {g : Geometry}
    (pages : g.totalSize.toNat % g.pageSize.toNat = 0) (sectors : g.totalSize.toNat % 4096 = 0)
    (o : Operation) : o.StaysInside g := by
  cases o with
  | read => trivial
  | fastRead => trivial
  | write => exact fun p => g.pages_inside pages
  | erase => exact fun s => g.sectors_inside sectors

/-- A flat memory of so many bytes. -/
structure Flat where
  size : Nat
  byte : Nat → UInt8

namespace Flat

/-- The flat memory with the data's bits cleared from `start` on; what lies past the end is
dropped. -/
def write (f : Flat) (start : Nat) (data : List UInt8) : Flat :=
  { f with byte := fun i =>
      if h : start ≤ i ∧ i - start < data.length ∧ i < f.size then
        f.byte i &&& data[i - start]
      else f.byte i }

/-- Whether the sector of an address meets the range that starts with the sector of `start` and
has its end `length` after `start`. -/
def Meets (start length i : Nat) : Prop :=
  ∃ x, start / 4096 * 4096 ≤ x ∧ x < start + length ∧ x / 4096 = i / 4096

theorem meets_iff {start length i : Nat} : Meets start length i ↔
    start / 4096 ≤ i / 4096 ∧ i / 4096 * 4096 < start + length := by
  constructor
  · rintro ⟨x, h₁, h₂, h₃⟩
    omega
  · rintro ⟨h₁, h₂⟩
    exact ⟨i / 4096 * 4096, by omega, h₂, by omega⟩

instance (start length i : Nat) : Decidable (Meets start length i) :=
  decidable_of_iff' _ meets_iff

/-- The flat memory with every sector erased that meets the range. -/
def erase (f : Flat) (start length : Nat) : Flat :=
  { f with byte := fun i => if Meets start length i ∧ i < f.size then 0xFF else f.byte i }

/-- The bytes from `start` on, erased ones past the end. -/
def read (f : Flat) (start length : Nat) : List UInt8 :=
  (List.range length).map fun i => if start + i < f.size then f.byte (start + i) else 0xFF

/-- The flat memory after an operation. -/
def after (f : Flat) : Operation → Flat
  | .read .. => f
  | .fastRead .. => f
  | .write address data => f.write address.toNat data
  | .erase address length => f.erase address.toNat length

/-- The bytes that an operation hands over: those of a read, with their nibbles swapped exactly if
it is a fast read that swaps them. -/
def reply (f : Flat) : Operation → List UInt8
  | .read address length => f.read address.toNat length
  | .fastRead .raw address length => f.read address.toNat length
  | .fastRead .nibbleSwap address length =>
    (f.read address.toNat length).map Submode.swapNibbles
  | _ => []

/-- The stored bytes are those of the flat memory. -/
structure Shows (f : Flat) (m : Memory) : Prop where
  size : m.size = f.size
  byte : ∀ i < f.size, m.byte i = f.byte i

variable {g : Geometry} {f : Flat} {m : Memory}

theorem Shows.write (h : f.Shows m) (size : m.size = g.totalSize.toNat) {address : UInt32}
    {data : List UInt8} (inside : (Operation.write address data).StaysInside g) :
    (f.write address.toNat data).Shows
      ((g.writePlan address data).pages.foldl Geometry.programHeld m) := by
  refine ⟨by rw [Geometry.size_foldl_programHeld]; exact h.size, fun i hi => ?_⟩
  have hi : i < f.size := hi
  have limit : g.totalSize.toNat = f.size := size.symm.trans h.size
  have programs := g.programs_iff_of_inside inside i
  rw [g.byte_foldl_pages m size, h.byte i hi]
  show _ = dite _ _ _
  by_cases hw : address.toNat ≤ i ∧ i - address.toNat < data.length ∧ i < f.size
  · rw [dif_pos (programs.2 ⟨⟨hw.1, hw.2.1⟩, by omega⟩), dif_pos hw,
      List.get_eq_getElem]
  · rw [dif_neg fun h => hw (by have := programs.1 h; omega), dif_neg hw]

theorem Shows.erase (h : f.Shows m) (size : m.size = g.totalSize.toNat) {address : UInt32}
    {length : Nat} (inside : (Operation.erase address length).StaysInside g) :
    (f.erase address.toNat length).Shows ((Operation.erase address length).effect g m) := by
  refine ⟨by rw [Operation.size_effect]; exact h.size, fun i hi => ?_⟩
  have hi : i < f.size := hi
  have limit : g.totalSize.toNat = f.size := size.symm.trans h.size
  show _ = if Meets address.toNat length i ∧ i < f.size then 0xFF else f.byte i
  simp only [Operation.effect]
  split
  next chip =>
    -- the range covers the device, so it meets every sector
    obtain ⟨rfl, covers⟩ := g.isWholeChip_iff.1 chip
    have zero : (0 : UInt32).toNat = 0 := rfl
    rw [Memory.byte_eraseAll, if_pos ⟨meets_iff.2 (by rw [zero]; omega), hi⟩]
    rfl
  next =>
    rw [g.byte_erase_sectors m size inside, h.byte i hi]
    by_cases hm : Meets address.toNat length i
    · rw [if_pos ⟨meets_iff.1 hm, by omega⟩, if_pos ⟨hm, hi⟩]
      rfl
    · rw [if_neg (fun hc => hm (meets_iff.2 hc.1)), if_neg (fun hc => hm hc.1)]

/-- An operation changes the stored bytes as it changes the flat memory. -/
theorem shows_effect (h : f.Shows m) (size : m.size = g.totalSize.toNat) {o : Operation}
    (inside : o.StaysInside g) : (f.after o).Shows (o.effect g m) := by
  cases o with
  | read => exact h
  | fastRead => exact h
  | write => exact h.write size inside
  | erase => exact h.erase size inside

theorem Shows.shown (h : f.Shows m) (change : UInt8 → UInt8)
    (erased : change erasedByte = erasedByte)
    (start length : Nat) : Geometry.shown (fun i => change (m.byte i)) f.size start length =
      (f.read start length).map change := by
  rw [Geometry.shown, Flat.read, List.range'_eq_map_range, List.map_map, List.map_map]
  refine List.map_congr_left fun i _ => ?_
  simp only [Function.comp]
  split
  next hi => rw [h.byte _ hi]
  next => exact erased.symm

/-- An operation hands over the bytes that the flat memory hands over. -/
theorem reply_eq (h : f.Shows m) (size : m.size = g.totalSize.toNat) (o : Operation) :
    o.reply g m = f.reply o := by
  have limit : g.totalSize.toNat = f.size := size.symm.trans h.size
  have raw (start length : Nat) : Geometry.shown m.byte f.size start length =
      f.read start length := (h.shown id rfl start length).trans (List.map_id _)
  cases o with
  | read address length =>
    simp only [Operation.reply, limit]
    exact raw _ _
  | fastRead mode address length =>
    simp only [Operation.reply, limit]
    cases mode with
    | raw => exact raw _ _
    | nibbleSwap => exact h.shown Submode.swapNibbles (by decide) _ _
  | write => rfl
  | erase => rfl

end Flat

end FlashGate

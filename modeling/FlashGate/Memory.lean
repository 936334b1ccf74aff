/-
The stored bytes of a device. Programming only clears bits; filling sets whole bytes. Ranges are
checked before, so an operation on a range that is not held is never made.

A memory is seen through `byte`, the stored byte at an address: each operation comes with the
`byte` law that says what it does there.
-/
import FlashGate.Geometry

namespace FlashGate

/-- Stored bytes, kept in blocks. A block reaches to the last of its bytes that was ever set, and
there are blocks up to the last one ever used; every other byte is erased. So a device takes room
for the blocks in use only, however large it is. -/
structure Memory where
  size : Nat
  blocks : Array (Array UInt8) := #[]

namespace Memory

/-- Number of bytes in a block. -/
def blockSize : Nat := 1024

/-- Erased bytes. -/
def erased (size : Nat) : Memory := { size }

/-- The byte at an address of the blocks. -/
def byteIn (blocks : Array (Array UInt8)) (i : Nat) : UInt8 :=
  (blocks[i / blockSize]?.getD #[])[i % blockSize]?.getD erasedByte

/-- The byte at an address. -/
def byte (m : Memory) (i : Nat) : UInt8 := byteIn m.blocks i

/-- All bytes in order. -/
def toList (m : Memory) : List UInt8 := (List.range m.size).map m.byte

/-- Whether the range lies inside the memory. -/
def holds (m : Memory) (start length : Nat) : Bool := start + length ≤ m.size

/-- The bytes of a range. -/
def slice (m : Memory) (start length : Nat) : List UInt8 := (List.range' start length).map m.byte

@[simp] theorem length_slice (m : Memory) (start length : Nat) :
    (m.slice start length).length = length := by
  rw [slice, List.length_map, List.length_range']

/-- Changes the element at an index of an array that reads as `fill` past its end. -/
def alter {α : Type} (fill : α) (xs : Array α) (i : Nat) (f : α → α) : Array α :=
  (xs ++ Array.replicate (i + 1 - xs.size) fill).modify i f

/-- Combines each byte of the data with the stored byte at its place. -/
def combineFrom (f : UInt8 → UInt8 → UInt8) (blocks : Array (Array UInt8)) (start : Nat) :
    List UInt8 → Array (Array UInt8)
  | [] => blocks
  | b :: rest =>
    let blocks := alter #[] blocks (start / blockSize) fun block =>
      alter erasedByte block (start % blockSize) (f · b)
    combineFrom f blocks (start + 1) rest

/-- Combines data with the stored bytes from `start` on. -/
def combine (f : UInt8 → UInt8 → UInt8) (m : Memory) (start : Nat) (data : List UInt8) : Memory :=
  match m with
  | ⟨size, blocks⟩ => ⟨size, combineFrom f blocks start data⟩

/-- Clears the bits that are clear in the data. -/
def program (m : Memory) (start : Nat) (data : List UInt8) : Memory :=
  m.combine (· &&& ·) start data

/-- Replaces bytes by the data. -/
def overwrite (m : Memory) (start : Nat) (data : List UInt8) : Memory :=
  m.combine (fun _ b => b) start data

/-- Erases the bytes of a block from `start` to before `stop`. A block erased as a whole takes no
room any more. -/
def eraseWithin (start stop : Nat) (block : Array UInt8) : Array UInt8 :=
  if start = 0 ∧ block.size ≤ stop then #[]
  else block.mapIdx fun i b => if start ≤ i ∧ i < stop then erasedByte else b

/-- Erases the bytes from `start` to before `stop` in the given number of blocks, the first of
them block `k`. -/
def eraseFrom (start stop : Nat) (blocks : Array (Array UInt8)) (k : Nat) :
    (count : Nat) → Array (Array UInt8)
  | 0 => blocks
  | n + 1 =>
    let blocks := blocks.modify k (eraseWithin (start - k * blockSize) (stop - k * blockSize))
    eraseFrom start stop blocks (k + 1) n

/-- Erases a range. -/
def erase (m : Memory) (start length : Nat) : Memory :=
  match m with
  | ⟨size, blocks⟩ =>
    let stop := start + length
    let first := start / blockSize
    ⟨size, eraseFrom start stop blocks first (min (stop / blockSize + 1) blocks.size - first)⟩

/-- Erases everything. -/
def eraseAll (m : Memory) : Memory := erased m.size

/-! ## Sizes -/

@[simp] theorem size_erased (n : Nat) : (erased n).size = n := rfl

@[simp] theorem size_program (m : Memory) (start : Nat) (data : List UInt8) :
    (m.program start data).size = m.size := rfl

@[simp] theorem size_erase (m : Memory) (start length : Nat) :
    (m.erase start length).size = m.size := rfl

@[simp] theorem size_eraseAll (m : Memory) : m.eraseAll.size = m.size := rfl

/-! ## Bytes -/

@[simp] theorem byte_erased (n i : Nat) : (erased n).byte i = erasedByte := by
  simp [erased, byte, byteIn]

theorem getD_alter {α : Type} (fill : α) (xs : Array α) (i j : Nat) (f : α → α) :
    (alter fill xs i f)[j]?.getD fill =
      if j = i then f (xs[i]?.getD fill) else xs[j]?.getD fill := by
  have grown (k : Nat) : (xs ++ Array.replicate (i + 1 - xs.size) fill)[k]?.getD fill =
      xs[k]?.getD fill := by
    rcases Nat.lt_or_ge k xs.size with h | h
    · simp [Array.getElem?_append, h]
    · simp only [Array.getElem?_append, Nat.not_lt.mpr h, if_false, Array.getElem?_replicate,
        Array.getElem?_eq_none h, Option.getD_none]
      split <;> rfl
  rw [alter, Array.getElem?_modify]
  by_cases h : j = i
  · subst h
    have hj : j < (xs ++ Array.replicate (j + 1 - xs.size) fill).size := by
      simp only [Array.size_append, Array.size_replicate]
      omega
    have hg := grown j
    rw [Array.getElem?_eq_getElem hj, Option.getD_some] at hg
    rw [if_pos rfl, if_pos rfl, Array.getElem?_eq_getElem hj, Option.map_some, Option.getD_some, hg]
  · rw [if_neg (Ne.symm h), if_neg h, grown]

theorem eq_of_block {i j : Nat} (hd : i / blockSize = j / blockSize)
    (hm : i % blockSize = j % blockSize) : i = j := by
  rw [← Nat.div_add_mod i blockSize, ← Nat.div_add_mod j blockSize, hd, hm]

theorem byteIn_alter (f : UInt8 → UInt8) (blocks : Array (Array UInt8)) (i j : Nat) :
    byteIn (alter #[] blocks (i / blockSize) fun block =>
      alter erasedByte block (i % blockSize) f) j =
      if j = i then f (byteIn blocks i) else byteIn blocks j := by
  simp only [byteIn, getD_alter]
  by_cases hd : j / blockSize = i / blockSize
  · rw [if_pos hd, getD_alter, hd]
    by_cases hm : j % blockSize = i % blockSize
    · rw [if_pos hm, if_pos (eq_of_block hd hm)]
    · rw [if_neg hm, if_neg (fun h => hm (by rw [h]))]
  · rw [if_neg hd, if_neg (fun h => hd (by rw [h]))]

theorem byteIn_combineFrom (f : UInt8 → UInt8 → UInt8) (data : List UInt8) :
    ∀ (blocks : Array (Array UInt8)) (start i : Nat),
      byteIn (combineFrom f blocks start data) i =
        if h : start ≤ i ∧ i - start < data.length then f (byteIn blocks i) data[i - start]
        else byteIn blocks i := by
  induction data with
  | nil =>
    intro blocks start i
    simp [combineFrom]
  | cons b rest ih =>
    intro blocks start i
    rw [combineFrom, ih]
    simp only [byteIn_alter, List.length_cons]
    rcases Nat.lt_trichotomy i start with h | h | h
    · rw [dif_neg (by omega), dif_neg (by omega), if_neg (by omega)]
    · subst h
      rw [dif_neg (by omega), dif_pos (by omega), if_pos rfl]
      simp
    · have hk : i - start = (i - (start + 1)) + 1 := by omega
      rw [if_neg (by omega)]
      by_cases hi : i - start < rest.length + 1
      · rw [dif_pos (by omega), dif_pos (by omega)]
        simp only [hk, List.getElem_cons_succ]
      · rw [dif_neg (by omega), dif_neg (by omega)]

/-- A byte in the range of the data is combined with the data's byte, any other one stays. -/
theorem byte_combine (f : UInt8 → UInt8 → UInt8) (m : Memory) (start : Nat) (data : List UInt8)
    (i : Nat) : (m.combine f start data).byte i =
      if h : start ≤ i ∧ i - start < data.length then f (m.byte i) data[i - start]
      else m.byte i := byteIn_combineFrom f data m.blocks start i

theorem byte_program (m : Memory) (start : Nat) (data : List UInt8) (i : Nat) :
    (m.program start data).byte i =
      if h : start ≤ i ∧ i - start < data.length then m.byte i &&& data[i - start]
      else m.byte i := byte_combine ..

theorem byte_overwrite (m : Memory) (start : Nat) (data : List UInt8) (i : Nat) :
    (m.overwrite start data).byte i =
      if h : start ≤ i ∧ i - start < data.length then data[i - start]
      else m.byte i := byte_combine ..

theorem getD_eraseWithin (start stop : Nat) (block : Array UInt8) (i : Nat) :
    (eraseWithin start stop block)[i]?.getD erasedByte =
      if start ≤ i ∧ i < stop then erasedByte else block[i]?.getD erasedByte := by
  rw [eraseWithin]
  rcases Nat.lt_or_ge i block.size with h | h
  · split
    · rw [if_pos (by omega)]
      simp
    · simp [Array.getElem?_eq_getElem h]
  · rw [Array.getElem?_eq_none h]
    split <;> simp [Array.getElem?_eq_none h]

/-- A byte in the range and in one of the blocks becomes erased, any other one stays. -/
theorem byteIn_eraseFrom (start stop count : Nat) :
    ∀ (blocks : Array (Array UInt8)) (k i : Nat),
      byteIn (eraseFrom start stop blocks k count) i =
        if (k ≤ i / blockSize ∧ i / blockSize < k + count) ∧ start ≤ i ∧ i < stop then erasedByte
        else byteIn blocks i := by
  induction count with
  | zero =>
    intro blocks k i
    rw [eraseFrom, if_neg (by omega)]
  | succ n ih =>
    intro blocks k i
    rw [eraseFrom, ih]
    have hi := Nat.div_add_mod' i blockSize
    have modified : byteIn (blocks.modify k
        (eraseWithin (start - k * blockSize) (stop - k * blockSize))) i =
        if k = i / blockSize ∧ start ≤ i ∧ i < stop then erasedByte else byteIn blocks i := by
      simp only [byteIn, Array.getElem?_modify]
      by_cases hk : k = i / blockSize
      · subst hk
        cases blocks[i / blockSize]? with
        | none => simp
        | some block =>
          simp only [if_true, Option.map_some, Option.getD_some, getD_eraseWithin, true_and]
          by_cases h : start ≤ i ∧ i < stop
          · rw [if_pos h, if_pos (by omega)]
          · rw [if_neg h, if_neg (by omega)]
      · rw [if_neg hk, if_neg (fun h => hk h.1)]
    rw [modified]
    by_cases h : (k ≤ i / blockSize ∧ i / blockSize < k + (n + 1)) ∧ start ≤ i ∧ i < stop
    · rw [if_pos h]
      split
      · rfl
      · rw [if_pos (by omega)]
    · rw [if_neg h, if_neg (by omega), if_neg (by omega)]

theorem byte_erase (m : Memory) (start length i : Nat) :
    (m.erase start length).byte i =
      if start ≤ i ∧ i < start + length then erasedByte else m.byte i := by
  obtain ⟨size, blocks⟩ := m
  simp only [erase, byte, byteIn_eraseFrom]
  by_cases h : start ≤ i ∧ i < start + length
  · have first : start / blockSize ≤ i / blockSize := Nat.div_le_div_right h.1
    have last : i / blockSize ≤ (start + length) / blockSize := Nat.div_le_div_right (by omega)
    rw [if_pos h]
    rcases Nat.lt_or_ge (i / blockSize) blocks.size with hb | hb
    · rw [if_pos (by omega)]
    · rw [if_neg (by omega), byteIn, Array.getElem?_eq_none hb]
      simp
  · rw [if_neg h, if_neg (by omega)]

@[simp] theorem byte_eraseAll (m : Memory) (i : Nat) : m.eraseAll.byte i = erasedByte := by
  simp [eraseAll]

end Memory

end FlashGate

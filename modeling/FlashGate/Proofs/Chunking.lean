/-
How a read is cut into chunks. Main statement: `reads_in_chunks`, what a read in chunks asks its
fetch for and how it puts the answers together, for every geometry, chunk, address, buffer and
fetch; and that the bytes read do not depend on the chunk.
-/
import FlashGate.PatternDevice
import FlashGate.Proofs.Device.Plan
import FlashGate.Proofs.Transfer

namespace FlashGate

/-! ## Sequencing -/

namespace Script

variable {α β γ σ : Type}

theorem bind_bind (f : α → Script β) (h : β → Script γ) :
    ∀ s : Script α, s >>= f >>= h = s >>= fun a => f a >>= h
  | .done _ => rfl
  | .fault _ => rfl
  | .note l rest => congrArg (Script.note l) (bind_bind f h rest)
  | .call c rest => congrArg (Script.call c) (funext fun x => bind_bind f h (rest x))
  | .untilReady rest => congrArg Script.untilReady (bind_bind f h rest)

theorem bind_done : ∀ s : Script α, s >>= pure = s
  | .done _ => rfl
  | .fault _ => rfl
  | .note l rest => congrArg (Script.note l) (bind_done rest)
  | .call c rest => congrArg (Script.call c) (funext fun x => bind_done (rest x))
  | .untilReady rest => congrArg Script.untilReady (bind_done rest)

instance : LawfulMonad Script :=
  LawfulMonad.mk' Script bind_done (fun _ _ => rfl) fun s f h => bind_bind f h s

end Script

/-! ## The pieces that are fetched -/

namespace Geometry

variable (g : Geometry) (chunk : Nat)

/-- How many bytes of a read the device holds. -/
def held (address : UInt32) (length : Nat) : Nat :=
  min length (g.totalSize.toNat - min address.toNat g.totalSize.toNat)

/-- The pieces of a read from `offset` on that are fetched. -/
def fetchedFrom (address : UInt32) (offset remaining : Nat) : List Piece :=
  (g.piecesFrom chunk address offset remaining).filter fun p => p.length ≠ 0

/-- The fetches of a read: the `i`-th one starts `i` chunks after the address, goes to the place `i`
chunks after the start of the buffer, and is a chunk long or ends with what the device holds. There
are as many as start before that end. -/
def Fetches (address : UInt32) (length : Nat) (pieces : List Piece) : Prop :=
  ∀ i, (pieces[i]?.map fun p => (p.address.toNat, p.length, p.offset)) =
    if i * max chunk 1 < g.held address length then
      some (address.toNat + i * max chunk 1,
        min (max chunk 1) (g.held address length - i * max chunk 1), i * max chunk 1)
    else none

/-- The first piece of a read of which the device holds something, and the address after it. -/
structure First (address : UInt32) (offset remaining : Nat) (p : Piece) (next : UInt32) : Prop where
  pieces : g.piecesFrom chunk address offset remaining =
    p :: g.piecesFrom chunk next (offset + max chunk 1) (remaining - max chunk 1)
  fetched : g.fetchedFrom chunk address offset remaining =
    p :: g.fetchedFrom chunk next (offset + max chunk 1) (remaining - max chunk 1)
  start : p.address = address
  place : p.offset = offset
  size : p.length = min (max chunk 1) (g.held address remaining)
  whole : p.length + p.fill = min remaining (max chunk 1)
  after : next.toNat = address.toNat + p.length
  left : g.held next (remaining - max chunk 1) = g.held address remaining - max chunk 1

variable {g} {address : UInt32} {remaining : Nat}

theorem held_le (address : UInt32) (length : Nat) : g.held address length ≤ length :=
  Nat.min_le_left ..

/-- Where the device holds something of a read, its first chunk is fetched, and the read goes on
after it. -/
theorem exists_first (offset : Nat) (inside : 0 < g.held address remaining) :
    ∃ p next, g.First chunk address offset remaining p next := by
  obtain ⟨ha, hl, hs⟩ := g.splitForRead_eq address (min remaining (max chunk 1))
  have hn := g.splitForRead_next address (min remaining (max chunk 1))
  have some : remaining ≠ 0 ∧ address.toNat ≤ g.totalSize.toNat := by
    unfold held at inside
    omega
  rw [Nat.min_eq_left some.2] at ha hn
  have held : g.held address remaining = min remaining (g.totalSize.toNat - address.toNat) := by
    rw [Geometry.held, Nat.min_eq_left some.2]
  have size : (g.splitForRead address (min remaining (max chunk 1))).length =
      min (max chunk 1) (g.held address remaining) := by
    rw [hl, held]
    omega
  have taken : ¬ (g.splitForRead address (min remaining (max chunk 1))).length = 0 := by
    rw [size]
    omega
  have pieces := piecesFrom.eq_def g chunk address offset remaining
  rw [if_neg some.1] at pieces
  simp only at pieces
  rw [if_neg taken] at pieces
  refine ⟨_, _, pieces, ?_, UInt32.toNat_inj.1 ha, rfl, size, hs, by rw [hn, ← hl], ?_⟩
  · rw [fetchedFrom, pieces, List.filter_cons_of_pos (by simpa using taken), fetchedFrom]
  · have inside : address.toNat + min (max chunk 1) (g.held address remaining) ≤
        g.totalSize.toNat := by
      rw [held]
      omega
    rw [Geometry.held, hn, ← hl, size, Nat.min_eq_left inside, held]
    omega

/-- Where the device holds nothing of a read, all of it is padding. -/
theorem piecesFrom_outside (offset : Nat) (outside : g.held address remaining = 0) :
    g.piecesFrom chunk address offset remaining = [] ∧ remaining = 0 ∨
      ∃ p, g.piecesFrom chunk address offset remaining = [p] ∧ p.length = 0 ∧
        p.fill = remaining := by
  rw [piecesFrom]
  obtain ⟨-, hl, -⟩ := g.splitForRead_eq address (min remaining (max chunk 1))
  unfold held at outside
  split
  next h => exact .inl ⟨rfl, h⟩
  next h =>
    have empty : (g.splitForRead address (min remaining (max chunk 1))).length = 0 := by omega
    simp only
    rw [if_pos empty]
    exact .inr ⟨_, rfl, empty, rfl⟩

theorem fetchedFrom_outside (offset : Nat) (outside : g.held address remaining = 0) :
    g.fetchedFrom chunk address offset remaining = [] := by
  obtain ⟨pieces, -⟩ | ⟨p, pieces, empty, -⟩ := piecesFrom_outside chunk offset outside
  · rw [fetchedFrom, pieces, List.filter_nil]
  · simp [fetchedFrom, pieces, empty]

/-- The fetches of a read that starts at `offset` of the buffer. -/
theorem fetches_fetchedFrom (address : UInt32) (offset remaining i : Nat) :
    ((g.fetchedFrom chunk address offset remaining)[i]?.map fun p =>
      (p.address.toNat, p.length, p.offset)) =
    if i * max chunk 1 < g.held address remaining then
      some (address.toNat + i * max chunk 1,
        min (max chunk 1) (g.held address remaining - i * max chunk 1), offset + i * max chunk 1)
    else none := by
  induction i generalizing address offset remaining with
  | zero =>
    rcases Nat.eq_zero_or_pos (g.held address remaining) with outside | inside
    · simp [fetchedFrom_outside chunk offset outside, outside]
    · obtain ⟨p, next, first⟩ := exists_first chunk offset inside
      simp [first.fetched, first.start, first.size, first.place, inside]
  | succ i ih =>
    rcases Nat.eq_zero_or_pos (g.held address remaining) with outside | inside
    · simp [fetchedFrom_outside chunk offset outside, outside]
    · obtain ⟨p, next, first⟩ := exists_first chunk offset inside
      rw [first.fetched, List.getElem?_cons_succ, ih, first.left, first.after, first.size,
        Nat.succ_mul]
      by_cases more : i * max chunk 1 < g.held address remaining - max chunk 1
      · rw [if_pos more, if_pos (by omega)]
        simp only [Option.some.injEq, Prod.mk.injEq]
        omega
      · rw [if_neg more, if_neg (by omega)]

theorem fetches_pieces (address : UInt32) (length : Nat) :
    g.Fetches chunk address length (g.fetchedFrom chunk address 0 length) := fun i => by
  rw [fetches_fetchedFrom, Nat.zero_add]

variable {chunk}
variable {length : Nat} {pieces : List Piece}

/-- The place of a piece that is fetched. -/
theorem Fetches.piece (h : g.Fetches chunk address length pieces) {i : Nat} {p : Piece}
    (hp : pieces[i]? = some p) : i * max chunk 1 < g.held address length ∧
      p.length = min (max chunk 1) (g.held address length - i * max chunk 1) ∧
      p.offset = i * max chunk 1 := by
  have piece := h i
  rw [hp, Option.map_some] at piece
  split at piece
  next inside =>
    simp only [Option.some.injEq, Prod.mk.injEq] at piece
    exact ⟨inside, piece.2⟩
  next => cases piece

theorem Fetches.sum_take (h : g.Fetches chunk address length pieces) (i : Nat)
    (count : i ≤ pieces.length) : ((pieces.take i).map fun p => p.length).sum =
      min (i * max chunk 1) (g.held address length) := by
  induction i with
  | zero => simp
  | succ i ih =>
    obtain ⟨inside, hl, -⟩ := h.piece (List.getElem?_eq_getElem count)
    rw [List.take_succ_eq_append_getElem count, List.map_append, List.sum_append_nat,
      ih (by omega), List.map_singleton, List.sum_singleton, hl, Nat.succ_mul]
    omega

theorem Fetches.sum (h : g.Fetches chunk address length pieces) :
    (pieces.map fun p => p.length).sum = g.held address length := by
  have all := h.sum_take pieces.length (Nat.le_refl _)
  have last := h pieces.length
  rw [List.getElem?_eq_none (Nat.le_refl _), Option.map_none] at last
  split at last
  · cases last
  · rw [List.take_length] at all
    omega

/-- Answers as long as their pieces stand in the buffer where their pieces do. -/
theorem Fetches.place (h : g.Fetches chunk address length pieces) {parts : List (List UInt8)}
    (fits : parts.map List.length = pieces.map fun p => p.length) :
    parts.flatten.length = g.held address length ∧
      ∀ (i : Nat) (p : Piece) (part : List UInt8), pieces[i]? = some p → parts[i]? = some part →
        (parts.flatten.drop p.offset).take p.length = part := by
  refine ⟨by rw [List.length_flatten, fits, h.sum], fun i p part hp hpart => ?_⟩
  obtain ⟨inside, -, ho⟩ := h.piece hp
  obtain ⟨count, hi⟩ := List.getElem?_eq_some_iff.1 hpart
  have count' : i < pieces.length := (List.getElem?_eq_some_iff.1 hp).1
  have before : (parts.take i).flatten.length = p.offset := by
    rw [List.length_flatten, List.map_take, fits, ← List.map_take, h.sum_take i (by omega), ho]
    omega
  have size : part.length = p.length := by
    have same := congrArg (·[i]?) fits
    simpa [hp, hpart] using same
  have cut : parts = parts.take i ++ part :: parts.drop (i + 1) := by
    rw [← hi, ← List.drop_eq_getElem_cons count, List.take_append_drop]
  rw [cut, List.flatten_append, List.flatten_cons, ← before, List.drop_left, ← size, List.take_left]

/-- What the device holds of a read, and the padding after it. -/
theorem shown_eq (byte : Nat → UInt8) (address : UInt32) (length : Nat) :
    shown byte g.totalSize.toNat address.toNat length =
      (List.range' address.toNat (g.held address length)).map byte ++
        List.replicate (length - g.held address length) erasedByte := by
  by_cases past : g.totalSize.toNat ≤ address.toNat
  · have outside : g.held address length = 0 := by unfold held; omega
    rw [shown_outside byte past, outside]
    rfl
  · have cut : length = g.held address length + (length - g.held address length) := by
      unfold held
      omega
    have inside : address.toNat + g.held address length ≤ g.totalSize.toNat := by
      unfold held
      omega
    conv => lhs; rw [cut, shown_append, shown_inside byte inside]
    congr 1
    rcases Nat.eq_zero_or_pos (length - g.held address length) with all | some
    · rw [all]
      rfl
    · exact shown_outside byte (by unfold held at some ⊢; omega)

theorem flatten_fetchedFrom (byte : Nat → UInt8) (chunk remaining : Nat) :
    ∀ (address : UInt32) (offset : Nat),
      ((g.fetchedFrom chunk address offset remaining).map fun p =>
        (List.range' p.address.toNat p.length).map byte).flatten =
          (List.range' address.toNat (g.held address remaining)).map byte := by
  induction remaining using Nat.strongRecOn with
  | ind remaining ih =>
    intro address offset
    rcases Nat.eq_zero_or_pos (g.held address remaining) with outside | inside
    · simp [fetchedFrom_outside chunk offset outside, outside]
    · obtain ⟨p, next, first⟩ := exists_first chunk offset inside
      have size := first.size
      have short := g.held_le address remaining
      have whole : g.held address remaining =
          p.length + (g.held address remaining - max chunk 1) := by
        omega
      rw [first.fetched, List.map_cons, List.flatten_cons, ih _ (by omega), first.after, first.left,
        first.start, ← List.map_append, List.range'_append_1, ← whole]

end Geometry

namespace Transfer

open Script

variable (fetch : Piece → List UInt8 → Script (List UInt8)) (buffer : List UInt8)

/-- Fetches one piece: the fetch gets the part of the buffer at the place of the piece. -/
def fetchPiece (p : Piece) : Script (List UInt8) := do
  log (.trace s!"Read {p.length} bytes from flash at address {Text.hexAddress p.address}")
  fetch p ((buffer.drop p.offset).take p.length)

/-- What fills the buffer is the answers of the fetches, one after the other, and then erased
bytes. -/
theorem fillPieces_eq (g : Geometry) (chunk remaining : Nat) : ∀ (address : UInt32) (offset : Nat)
    (rest : List UInt8) (filled : List (List UInt8)), (0 < remaining → rest = buffer.drop offset) →
    fillPieces fetch (g.piecesFrom chunk address offset remaining) rest filled = (do
      let parts ← (g.fetchedFrom chunk address offset remaining).mapM (fetchPiece fetch buffer)
      return filled.reverse.flatten ++
        (parts.flatten ++ List.replicate (remaining - g.held address remaining) erasedByte)) := by
  induction remaining using Nat.strongRecOn with
  | ind remaining ih =>
    intro address offset rest filled place
    rcases Nat.eq_zero_or_pos (g.held address remaining) with outside | inside
    · rw [g.fetchedFrom_outside chunk offset outside, outside, List.mapM_nil, pure_bind]
      obtain ⟨pieces, rfl⟩ | ⟨p, pieces, empty, fill⟩ :=
        g.piecesFrom_outside chunk offset outside
      · rw [pieces, fillPieces]
        simp
      · rw [pieces, fillPieces, if_pos empty, fillPieces, fill]
        simp
    · obtain ⟨p, next, first⟩ := g.exists_first chunk offset inside
      have size := first.size
      have cut := first.whole
      have short := g.held_le address remaining
      have taken : p.length ≠ 0 := by omega
      obtain rfl : rest = buffer.drop p.offset := first.place ▸ place (by omega)
      rw [first.pieces, first.fetched, List.mapM_cons, fillPieces, if_neg taken]
      simp only [fetchPiece, bind_assoc, pure_bind]
      refine bind_congr fun _ => bind_congr fun bytes => ?_
      rw [ih (remaining - max chunk 1) (by omega) next _ _ _ fun more => ?_]
      · rcases Nat.eq_zero_or_pos p.fill with full | padded
        · -- the chunk is full or the last one
          have same : remaining - max chunk 1 - (g.held address remaining - max chunk 1) =
              remaining - g.held address remaining := by
            omega
          simp [first.left, full, same]
        · -- the chunk is cut, so nothing is fetched after it
          have outside : g.held next (remaining - max chunk 1) = 0 := by
            rw [first.left]
            omega
          have padding : p.fill + (remaining - max chunk 1) =
              remaining - g.held address remaining := by
            omega
          simp [g.fetchedFrom_outside chunk _ outside, outside, ← padding]
      · rw [List.drop_drop, first.place]
        congr 1
        omega

variable {σ : Type} {T : Transport σ} {who : Actor} {Inv : σ → Prop} {byte : Nat → UInt8}

/-- The fetch hands over the byte that belongs to each address, on every device as `Inv` says, and
keeps it so. -/
def HandsOver (T : Transport σ) (who : Actor) (Inv : σ → Prop) (byte : Nat → UInt8)
    (fetch : Piece → List UInt8 → Script (List UInt8)) : Prop :=
  ∀ p bytes b, bytes.length = p.length → Inv b.device → ∃ b', Inv b'.device ∧
    (fetch p bytes).run T who b = (.ok ((List.range' p.address.toNat p.length).map byte), b')

variable {fetch buffer}

theorem run_mapM_fetchPiece (hands : HandsOver T who Inv byte fetch) : ∀ (pieces : List Piece)
    (b : Bus σ), (∀ p ∈ pieces, p.offset + p.length ≤ buffer.length) → Inv b.device →
      ∃ b', (pieces.mapM (fetchPiece fetch buffer)).run T who b =
        (.ok (pieces.map fun p => (List.range' p.address.toNat p.length).map byte), b')
  | [], b, _, _ => ⟨b, rfl⟩
  | p :: pieces, b, fits, good => by
    have room := fits p (List.mem_cons_self ..)
    obtain ⟨b₁, good₁, fetched⟩ := hands p ((buffer.drop p.offset).take p.length) (b.log who _)
      (by rw [List.length_take, List.length_drop]; omega) good
    obtain ⟨b₂, rest⟩ := run_mapM_fetchPiece hands pieces b₁
      (fun q hq => fits q (List.mem_cons_of_mem _ hq)) good₁
    have first : (fetchPiece fetch buffer p).run T who b =
        (.ok ((List.range' p.address.toNat p.length).map byte), b₁) := fetched
    refine ⟨b₂, ?_⟩
    rw [List.mapM_cons, run_bind, first]
    dsimp only
    rw [run_bind, rest]
    rfl

end Transfer

/-- A read in chunks, for every geometry, chunk, address, buffer and fetch. Its script is that of
the fetches in their order, each of which gets its own part of the buffer, and it hands back their
answers one after the other with erased bytes for all that the device does not hold; so answers as
long as their parts of the buffer stand in their places. No address that is computed on the way
lies past the end of the device. And where the fetch hands over what belongs to each address, the
bytes read do not depend on the chunk. -/
theorem reads_in_chunks (g : Geometry) (chunk : Nat)
    (fetch : Piece → List UInt8 → Script (List UInt8)) (address : UInt32) (buffer : List UInt8) :
    (∃ pieces, g.Fetches chunk address buffer.length pieces ∧
      Transfer.readChunked g chunk fetch address buffer = (do
        let parts ← pieces.mapM (Transfer.fetchPiece fetch buffer)
        return parts.flatten ++
          List.replicate (buffer.length - g.held address buffer.length) erasedByte) ∧
      ∀ parts : List (List UInt8), parts.map List.length = pieces.map (fun p => p.length) →
        parts.flatten.length = g.held address buffer.length ∧
        ∀ (i : Nat) (p : Piece) (part : List UInt8), pieces[i]? = some p → parts[i]? = some part →
          (parts.flatten.drop p.offset).take p.length = part) ∧
    (∀ p ∈ g.pieces chunk address buffer.length, p.address.toNat + p.length ≤ g.totalSize.toNat) ∧
    ∀ (σ : Type) (T : Transport σ) (who : Actor) (Inv : σ → Prop) (byte : Nat → UInt8) (b : Bus σ),
      Transfer.HandsOver T who Inv byte fetch → Inv b.device →
      ((Transfer.readChunked g chunk fetch address buffer).run T who b).1 =
        .ok (Geometry.shown byte g.totalSize.toNat address.toNat buffer.length) := by
  have fetches := g.fetches_pieces chunk address buffer.length
  have script := Transfer.fillPieces_eq fetch buffer g chunk buffer.length address 0 buffer []
    fun _ => rfl
  refine ⟨⟨_, fetches, script, fun parts fits => Geometry.Fetches.place fetches fits⟩,
    fun p => g.piece_inside, fun σ T who Inv byte b hands good => ?_⟩
  have fits : ∀ p ∈ g.fetchedFrom chunk address 0 buffer.length,
      p.offset + p.length ≤ buffer.length := by
    intro p hp
    obtain ⟨i, hi⟩ := List.getElem?_of_mem hp
    obtain ⟨inside, hl, ho⟩ := Geometry.Fetches.piece fetches hi
    have short := g.held_le address buffer.length
    omega
  obtain ⟨b', read⟩ := Transfer.run_mapM_fetchPiece hands _ b fits good
  rw [Transfer.readChunked, Geometry.pieces, script, Script.run_bind, read, Geometry.shown_eq,
    ← g.flatten_fetchedFrom byte chunk buffer.length address 0]
  rfl

/-- A read of 24 bytes that starts ten bytes before the end of a device of 100 bytes. In chunks of
eight it fetches eight bytes and then two; in chunks of three it reads the same bytes. -/
theorem reads_in_chunks_end :
    let g : Geometry := ⟨100, 4, by decide, by decide⟩
    let fetch (p : Piece) (bytes : List UInt8) : Script (List UInt8) :=
      Script.ask (.readRaw 3 p.address bytes)
    let read (chunk : Nat) :=
      (Transfer.readChunked g chunk fetch 90 (List.replicate 24 0)).run PatternDevice.transport
        .dispatcher ⟨{}, #[]⟩
    Transfer.HandsOver PatternDevice.transport .dispatcher (fun _ => True) UInt8.ofNat fetch ∧
    (∃ pieces, g.Fetches 8 90 24 pieces ∧
      pieces.map (fun p => (p.address.toNat, p.length, p.offset)) = [(90, 8, 0), (98, 2, 8)]) ∧
    (read 8).1 = .ok ((List.range' 90 10).map UInt8.ofNat ++ List.replicate 14 0xFF) ∧
    (read 3).1 = (read 8).1 := by
  intro g fetch read
  have hands : Transfer.HandsOver PatternDevice.transport .dispatcher (fun _ => True) UInt8.ofNat
      fetch := by
    intro p bytes b size _
    have pattern : PatternDevice.readPattern p.address bytes.length =
        (List.range' p.address.toNat p.length).map UInt8.ofNat := by
      rw [size, PatternDevice.readPattern, List.range'_eq_map_range, List.map_map]
      rfl
    exact ⟨_, trivial, by rw [← pattern]; rfl⟩
  obtain ⟨⟨pieces, fetches, -⟩, -, same⟩ := reads_in_chunks g 8 fetch 90 (List.replicate 24 0)
  obtain ⟨-, -, same'⟩ := reads_in_chunks g 3 fetch 90 (List.replicate 24 0)
  have eight := same _ PatternDevice.transport .dispatcher _ _ ⟨{}, #[]⟩ hands trivial
  have three := same' _ PatternDevice.transport .dispatcher _ _ ⟨{}, #[]⟩ hands trivial
  have shown : Geometry.shown UInt8.ofNat 100 90 24 =
      (List.range' 90 10).map UInt8.ofNat ++ List.replicate 14 0xFF := by decide +kernel
  refine ⟨hands, ⟨pieces, fetches, List.ext_getElem? fun i => ?_⟩,
    eight.trans (congrArg Except.ok shown), three.trans eight.symm⟩
  · rw [List.getElem?_map, fetches i]
    rcases i with _ | _ | i
    · rfl
    · rfl
    · have held : g.held 90 (List.replicate 24 (0 : UInt8)).length = 10 := by decide
      have past : ¬ (i + 1 + 1) * max 8 1 < 10 := by
        rw [show max 8 1 = 8 from rfl]
        omega
      rw [held, if_neg past]
      rfl

end FlashGate

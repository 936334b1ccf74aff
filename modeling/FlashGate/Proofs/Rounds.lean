/-
The rounds of a stress run on a flat memory. Main statement: `fulfils_rounds`, that the orders of a
client, carried out one after the other, bring back what is wanted, unless fast reads swap nibbles;
and if they do, no read brings it back.
-/
import FlashGate.Proofs.Gateway.Errand
import FlashGate.Proofs.Gateway.Faultless
import FlashGate.Simulator.Stress

namespace FlashGate

open Simulator Simulator.Stress

/-- The operations that orders ask for. -/
def operationsFor (s : Setup) (orders : List Order) : List Operation :=
  orders.filterMap (·.command.operation? s)

@[simp] theorem operationsFor_append (s : Setup) (a b : List Order) :
    operationsFor s (a ++ b) = operationsFor s a ++ operationsFor s b := List.filterMap_append ..

theorem operationsFor_cons {s : Setup} {o : Order} {operation : Operation}
    (asks : o.command.operation? s = some operation) (rest : List Order) :
    operationsFor s (o :: rest) = operation :: operationsFor s rest := List.filterMap_cons_some asks

namespace Flat

variable {s : Setup} {f : Flat} {bad : Order → Bool}

/-- The flat memory fulfils orders for operations, but for the bad ones: carried out one after the
other, these are those that do not get what is wanted. -/
def Fulfils (s : Setup) (bad : Order → Bool) : Flat → List Order → Prop
  | _, [] => True
  | f, o :: rest => ∃ operation, o.command.operation? s = some operation ∧
    o.isMet (f.reply operation) = !bad o ∧ Fulfils s bad (f.after operation) rest

theorem fulfils_append {a b : List Order} : f.Fulfils s bad (a ++ b) ↔
    f.Fulfils s bad a ∧ (f.perform (operationsFor s a)).Fulfils s bad b := by
  induction a generalizing f with
  | nil => simp [Fulfils, operationsFor, perform]
  | cons o rest ih =>
    constructor
    · rintro ⟨operation, asks, met, later⟩
      rw [operationsFor_cons asks]
      exact ⟨⟨operation, asks, met, (ih.1 later).1⟩, (ih.1 later).2⟩
    · rintro ⟨⟨operation, asks, met, first⟩, later⟩
      rw [operationsFor_cons asks] at later
      exact ⟨operation, asks, met, ih.2 ⟨first, later⟩⟩

theorem size_perform (f : Flat) (operations : List Operation) :
    (f.perform operations).size = f.size := by
  induction operations generalizing f with
  | nil => rfl
  | cons o rest ih => exact (ih (f.after o)).trans (size_after f o)

/-- What is written into an erased sector is read back. -/
theorem read_write_erase (f : Flat) {start offset : Nat} {data : List UInt8}
    (aligned : start % 4096 = 0) (inside : start + 4096 ≤ f.size)
    (fits : offset + data.length ≤ 4096) :
    ((f.erase start 4096).write (start + offset) data).read (start + offset) data.length =
      data := by
  refine List.ext_getElem (by simp [read]) fun k hk hk' => ?_
  have held : start + offset + k < f.size := by omega
  have erased : (f.erase start 4096).byte (start + offset + k) = 0xFF :=
    if_pos ⟨meets_iff.2 (by omega), held⟩
  have written : ((f.erase start 4096).write (start + offset) data).byte (start + offset + k) =
      data[k] := by
    refine (dif_pos ⟨Nat.le_add_right .., by omega, held⟩).trans ?_
    simp only [Nat.add_sub_cancel_left, erased]
    exact UInt8.neg_one_and
  simp only [read, List.getElem_map, List.getElem_range]
  rw [written]
  exact if_pos held

end Flat

/-! ## Sectors of the clients -/

namespace Geometry

theorem sectorCount_eq (g : Geometry) : g.sectorCount.toNat = g.totalSize.toNat / 4096 := by
  show (g.totalSize >>> (12 : UInt32)).toNat = _
  rw [UInt32.toNat_shiftRight]
  simp [Nat.shiftRight_eq_div_pow]

end Geometry

namespace Simulator.Stress

/-- So many clients have as many sectors each, all inside of the device. -/
structure Shares (g : Geometry) (clients perClient : Nat) : Prop where
  some : 0 < perClient
  held : clients * perClient ≤ g.sectorCount.toNat

/-- Whether a sector is one of those of a client, told by the thread of the client. -/
def Owns (perClient : Nat) (id : ClientId) (sector : Nat) : Prop := id = thread (sector / perClient)

theorem length_pattern (client n : Nat) : (pattern client n).length = patternLength := by
  rw [pattern, List.length_map, List.length_range]

variable {s : Setup} {clients perClient client n : Nat}

/-- The sector of a round is one of the client's, and lies inside of the device. -/
theorem Shares.start {g : Geometry} (shares : Shares g clients perClient)
    (one : client < clients) :
    (sectorStart perClient client n).toNat % 4096 = 0 ∧
      (sectorStart perClient client n).toNat + 4096 ≤ g.totalSize.toNat / 4096 * 4096 ∧
      Owns perClient (thread client) ((sectorStart perClient client n).toNat / 4096) := by
  have last := Nat.mod_lt n shares.some
  have next : client * perClient + perClient ≤ clients * perClient := by
    rw [← Nat.succ_mul]
    exact Nat.mul_le_mul_right _ one
  have held := shares.held
  rw [g.sectorCount_eq] at held
  have := g.totalSize.toNat_lt
  have index : (sectorStart perClient client n).toNat =
      (client * perClient + n % perClient) * 4096 := by
    rw [sectorStart, UInt32.toNat_mul, UInt32.toNat_ofNat']
    show _ % 2 ^ 32 * 4096 % 2 ^ 32 = _
    rw [Nat.mod_eq_of_lt (by omega), Nat.mod_eq_of_lt (by omega)]
  refine ⟨by omega, by omega, ?_⟩
  rw [index, Nat.mul_div_cancel _ (by omega), Owns, Nat.mul_comm, Nat.mul_add_div shares.some,
    Nat.div_eq_of_lt last, Nat.add_zero]

theorem Shares.written {g : Geometry} (shares : Shares g clients perClient)
    (one : client < clients) : (sectorStart perClient client n + patternOffset).toNat =
      (sectorStart perClient client n).toNat + 0xF0 := by
  obtain ⟨-, inside, -⟩ := shares.start (n := n) one
  have := g.totalSize.toNat_lt
  rw [UInt32.toNat_add]
  show (_ + 0xF0) % 2 ^ 32 = _
  exact Nat.mod_eq_of_lt (by omega)

/-- The read of a round. -/
def readBack (s : Setup) (perClient client n : Nat) : Operation :=
  .ofReadKind (sectorStart perClient client n + patternOffset) patternLength s.strategy.readKind

theorem operationsFor_round (s : Setup) (perClient client n : Nat) :
    operationsFor s (round perClient client n) =
      [.erase (sectorStart perClient client n) 4096,
        .write (sectorStart perClient client n + patternOffset) (pattern client n),
        readBack s perClient client n] := by
  simp only [operationsFor, round, List.filterMap_cons, List.filterMap_nil, Command.operation?,
    readBack, List.length_replicate]
  rfl

/-- A read hands over the stored bytes, with their nibbles swapped if fast reads do that. -/
theorem reply_readBack (f : Flat) (s : Setup) (perClient client n : Nat) :
    f.reply (readBack s perClient client n) =
      (f.read (sectorStart perClient client n + patternOffset).toNat patternLength).map
        (if s.strategy = .fast .nibbleSwap then Submode.swapNibbles else id) := by
  unfold readBack
  cases h : s.strategy with
  | standard => exact (List.map_id _).symm
  | fast m =>
    cases m with
    | raw => exact (List.map_id _).symm
    | nibbleSwap => rfl

theorem not_both_symmetric (x : UInt8) :
    ¬ (Submode.swapNibbles x = x ∧ Submode.swapNibbles (1 ^^^ x) = 1 ^^^ x) := by
  have all : ∀ v : BitVec 8, ¬ (Submode.swapNibbles (.ofBitVec v) = .ofBitVec v ∧
      Submode.swapNibbles (1 ^^^ .ofBitVec v) = 1 ^^^ .ofBitVec v) := by decide
  exact all x.toBitVec

/-- No pattern is what it is with its nibbles swapped. -/
theorem swapped_pattern_ne (client n : Nat) :
    (pattern client n).map Submode.swapNibbles ≠ pattern client n := by
  intro same
  have symmetric (i : Nat) (hi : i < patternLength) :
      Submode.swapNibbles (UInt8.ofNat i ^^^ UInt8.ofNat client <<< 4 ^^^ UInt8.ofNat n) =
        UInt8.ofNat i ^^^ UInt8.ofNat client <<< 4 ^^^ UInt8.ofNat n := by
    have := congrArg (·[i]?) same
    simpa [pattern, hi] using this
  have first := symmetric 0 (by decide)
  have second := symmetric 1 (by decide)
  rw [UInt8.xor_assoc] at first second
  rw [show UInt8.ofNat 0 = 0 from rfl, UInt8.zero_xor] at first
  exact not_both_symmetric _ ⟨first, second⟩

/-- Whether an order does not get what it wants: it wants bytes, and fast reads swap nibbles. -/
def spoilt (st : Strategy) (o : Order) : Bool := o.wanted.isSome && decide (st = .fast .nibbleSwap)

/-- A flat memory as large as the device fulfils a round, but for what fast reads spoil. -/
theorem fulfils_round (shares : Shares s.geometry clients perClient) (one : client < clients)
    {f : Flat} (size : f.size = s.geometry.totalSize.toNat) :
    f.Fulfils s (spoilt s.strategy) (round perClient client n) := by
  obtain ⟨aligned, inside, -⟩ := shares.start (n := n) one
  have place := shares.written (n := n) one
  refine ⟨_, rfl, rfl, _, rfl, rfl, readBack s perClient client n, ?_, ?_, trivial⟩
  · simp [Command.operation?, readBack]
  · have written : Flat.read ((f.erase (sectorStart perClient client n).toNat 4096).write
        (sectorStart perClient client n + patternOffset).toNat (pattern client n))
        (sectorStart perClient client n + patternOffset).toNat patternLength =
        pattern client n := by
      rw [place, ← length_pattern client n]
      exact f.read_write_erase aligned (by omega) (by rw [length_pattern]; decide)
    show (Flat.reply _ _ == pattern client n) = !decide (s.strategy = .fast .nibbleSwap)
    rw [reply_readBack]
    show (List.map _ (Flat.read ((f.erase _ 4096).write _ _) _ _) == _) = _
    rw [written]
    split
    next swaps => simpa [swaps] using swapped_pattern_ne client n
    next straight => simp [straight]

/-- So it fulfils all rounds of a client. -/
theorem fulfils_rounds (shares : Shares s.geometry clients perClient) (one : client < clients)
    {f : Flat} (size : f.size = s.geometry.totalSize.toNat) (ns : List Nat) :
    f.Fulfils s (spoilt s.strategy) (ns.flatMap (round perClient client)) := by
  induction ns generalizing f with
  | nil => trivial
  | cons n ns ih =>
    rw [List.flatMap_cons]
    exact Flat.fulfils_append.2 ⟨fulfils_round shares one size, ih ((f.size_perform _).trans size)⟩

theorem countP_spoilt_round (st : Strategy) (perClient client n : Nat) :
    (round perClient client n).countP (spoilt st) = if st = .fast .nibbleSwap then 1 else 0 := by
  split
  next swaps => simp [round, spoilt, swaps]
  next straight => simp [round, spoilt, straight]

theorem within_sector {own : Nat → Prop} {o : Operation} {start : Nat} (offset : Nat)
    (aligned : start % 4096 = 0) (owned : own (start / 4096))
    (place : o.address.toNat = start + offset) (fits : offset + o.length ≤ 4096)
    (short : offset < 4096) : o.Within own := by
  have same {k : Nat} (hk : offset + k < 4096) : (start + offset + k) / 4096 = start / 4096 := by
    omega
  refine ⟨?_, fun k hk => ?_⟩
  · rw [place, ← Nat.add_zero (start + offset), same short]
    exact owned
  · rw [place, same (by omega)]
    exact owned

theorem readBack_range (s : Setup) (perClient client n : Nat) :
    (readBack s perClient client n).address = sectorStart perClient client n + patternOffset ∧
      (readBack s perClient client n).length = patternLength ∧
      (readBack s perClient client n).StaysInside s.geometry := by
  unfold readBack
  cases s.strategy <;> exact ⟨rfl, rfl, trivial⟩

/-- The operations of a round stay inside of the device, and keep to the sectors of the client. -/
theorem round_within (shares : Shares s.geometry clients perClient) (one : client < clients)
    {o : Operation} (ho : o ∈ operationsFor s (round perClient client n)) :
    o.StaysInside s.geometry ∧ o.Within (Owns perClient (thread client)) := by
  obtain ⟨aligned, inside, own⟩ := shares.start (n := n) one
  have place := shares.written (n := n) one
  have bytes : (pattern client n).length = 600 := length_pattern client n
  rw [operationsFor_round] at ho
  simp only [List.mem_cons, List.not_mem_nil, or_false] at ho
  rcases ho with rfl | rfl | rfl
  · exact ⟨(Operation.staysInside_of_range inside).1,
      within_sector 0 aligned own rfl (Nat.le_refl 4096) (by decide)⟩
  · have range : (sectorStart perClient client n + patternOffset).toNat + 600 ≤
        s.geometry.totalSize.toNat / 4096 * 4096 := by
      rw [place]
      omega
    refine ⟨(Operation.staysInside_of_range range).2 _ bytes,
      within_sector 0xF0 aligned own place ?_ (by decide)⟩
    show 0xF0 + (pattern client n).length ≤ 4096
    rw [bytes]
    decide
  · obtain ⟨address, length, stays⟩ := readBack_range s perClient client n
    exact ⟨stays, within_sector 0xF0 aligned own (by rw [address, place]) (by rw [length]; decide)
      (by decide)⟩

/-- So do those of all rounds of the client. -/
theorem rounds_within (shares : Shares s.geometry clients perClient) (one : client < clients)
    {ns : List Nat} {o : Operation}
    (ho : o ∈ operationsFor s (ns.flatMap (round perClient client))) :
    o.StaysInside s.geometry ∧ o.Within (Owns perClient (thread client)) := by
  induction ns with
  | nil => cases ho
  | cons n ns ih =>
    rw [List.flatMap_cons, operationsFor_append, List.mem_append] at ho
    exact ho.elim (round_within shares one) ih

end Simulator.Stress

end FlashGate

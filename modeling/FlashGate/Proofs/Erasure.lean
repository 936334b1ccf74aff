/-
What an erase sends to the device. Main statements: `erases_exactly`, the transactions of an erase
and its result, for every geometry, transport and request, and `erases_asked`, that an erase erases
only sectors that hold a byte it was asked for, but for the sector of a request that asks for none.
-/
import FlashGate.Chip
import FlashGate.Proofs.Transcript

namespace FlashGate

/-! ## The transactions -/

/-- What an erase says to the device, and how it ends. -/
inductive Erasure (g : Geometry) (commands : CommandSet) (address : UInt32) (length : Nat) :
    List Exchange → Except Fault Erased → Prop
  /-- A range that covers the device is one chip erase. -/
  | chip {t : List Exchange} (start : address = 0) (covers : g.totalSize.toNat ≤ length)
    (sent : Exchange.Changes commands (.sendCommand commands.chipErase) t) :
    Erasure g commands address length t (.ok .chip)
  /-- Any other range is erased sector by sector, from the one that holds the address on, as long as
  a sector starts before the end of the range and before the end of the device. -/
  | sectors {start : UInt32} {addresses : List UInt32} {blocks : List (List Exchange)}
    (part : ¬ (address = 0 ∧ g.totalSize.toNat ≤ length))
    (floor : start.toNat = address.toNat / 4096 * 4096)
    (order : addresses.map (·.toNat) =
      (List.range addresses.length).map (start.toNat + 4096 * ·))
    (extent : ∀ k, k < addresses.length ↔
      start.toNat + 4096 * k < min (address.toNat + length) g.totalSize.toNat)
    (sent : List.Forall₂ (fun a => Exchange.Changes commands (.eraseSector commands.sectorErase a))
      addresses blocks) :
    Erasure g commands address length blocks.flatten (.ok (.sectors start addresses.length))

namespace Transfer

open Script

variable {g : Geometry} {commands : CommandSet} {address : UInt32} {length : Nat}
  {t : List Exchange} {r : Except Fault Erased}

theorem changes_of_plays_eraseSector (s : SectorErase) (t : List Exchange) (r : Except Fault Unit)
    (h : (eraseSector commands s).Plays t r) :
    Exchange.Changes commands (.eraseSector commands.sectorErase s.address) t ∧ r = .ok () :=
  changes_of_plays t r h

/-- A script that erases is played as an erasure. -/
theorem erasure_of_plays (h : (erase g commands address length).Plays t r) :
    Erasure g commands address length t r := by
  change (if g.isWholeChip address length = true then _ else _ : Script Erased).Plays t r at h
  split at h
  next whole =>
    obtain ⟨rfl, covers⟩ := g.isWholeChip_iff.1 whole
    have alone : (Transfer.change commands (.sendCommand commands.chipErase) >>= fun _ =>
        pure Erased.chip : Script Erased).Plays t r := h
    obtain ⟨t, _, rfl, sent, rfl, rfl⟩ := plays_after changes_of_plays alone
    rw [List.append_nil]
    exact .chip rfl covers sent
  next part =>
    have erased := g.sectors_of_erase address length
    generalize hs : g.sectorsFrom (Geometry.alignErase address length).1
      (Geometry.alignErase address length).2 = plan at erased
    -- the address that is logged is no exchange
    have loop : (each (eraseSector commands) plan >>= fun _ => pure (Erased.sectors
        (Geometry.sectorFloor address) plan.length) : Script Erased).Plays t r := by
      rw [← hs]
      split at h <;> exact h
    obtain ⟨_, _, rfl, ⟨blocks, rfl, sent⟩, rfl, rfl⟩ :=
      plays_after (plays_each (fun s => changes_of_plays_eraseSector s) plan) loop
    have count : plan.length = g.sectorsMet address length := by
      simpa using congrArg List.length erased
    have floor := Geometry.sectorFloor_eq address
    rw [List.append_nil, ← List.length_map (fun s : SectorErase => s.address)]
    refine .sectors (fun whole => part (g.isWholeChip_iff.2 whole)) floor ?_ (fun k => ?_)
      (List.forall₂_map_left_iff.2 sent)
    · rw [List.map_map, List.length_map, count, floor]
      exact erased
    · rw [List.length_map, count, floor]
      exact g.lt_sectorsMet_iff

end Transfer

/-- Each byte of the request that the device holds lies in a sector that is erased, unless the whole
chip is. -/
theorem Erasure.covers {g : Geometry} {commands : CommandSet} {address : UInt32} {length i : Nat}
    {t : List Exchange} {r : Except Fault Erased} (h : Erasure g commands address length t r)
    (low : address.toNat ≤ i) (high : i < address.toNat + length) (held : i < g.totalSize.toNat) :
    r = .ok .chip ∨ ∃ x ∈ t, ∃ a : UInt32, x.call = .eraseSector commands.sectorErase a ∧
      a.toNat ≤ i ∧ i < a.toNat + 4096 := by
  cases h with
  | chip => exact .inl rfl
  | @sectors start addresses blocks part floor order extent sent =>
    obtain ⟨k, hk⟩ : ∃ k, k = i / 4096 - address.toNat / 4096 := ⟨_, rfl⟩
    have inside : k < addresses.length := (extent k).2 (by omega)
    have place : addresses[k].toNat = start.toNat + 4096 * k := by
      have := congrArg (·[k]?) order
      simpa [inside] using this
    have inside' : k < blocks.length := sent.length_eq ▸ inside
    have erased : Exchange.Changes commands (.eraseSector commands.sectorErase addresses[k])
        blocks[k] := sent.get inside inside'
    obtain ⟨x, hx, hc⟩ := erased.mem
    exact .inr ⟨x, List.mem_flatten_of_mem (List.getElem_mem inside') hx, _, hc, by omega, by omega⟩

/-- An erase comes to its end, and does just this: one chip erase where the range covers the device,
and otherwise one transaction for each sector that starts before the end of the range and of the
device, from the one that holds the address on, in order, with nothing in between. So each byte it
was asked for is erased. -/
theorem erases_exactly {σ : Type} (T : Transport σ) (g : Geometry) (commands : CommandSet)
    (who : Actor) (b : Bus σ) (address : UInt32) (length : Nat) :
    let script := Transfer.erase g commands address length
    script.Halts T who b ∧
    ∃ added, (script.run T who b).2.journal.toList = b.journal.toList ++ added ∧
      (added.all Entry.isAnswered = true →
        Erasure g commands address length (exchangesIn added) (script.run T who b).1 ∧
        ∀ i, address.toNat ≤ i → i < address.toNat + length → i < g.totalSize.toNat →
          (script.run T who b).1 = .ok .chip ∨ ∃ x ∈ exchangesIn added, ∃ a : UInt32,
            x.call = .eraseSector commands.sectorErase a ∧ a.toNat ≤ i ∧ i < a.toNat + 4096) := by
  intro script
  obtain ⟨added, journal, plays⟩ := script.plays_run T who b
  refine ⟨script.halts T who b, added, journal, fun answered => ?_⟩
  have erasure := Transfer.erasure_of_plays (plays answered)
  exact ⟨erasure, fun i low high held => erasure.covers low high held⟩

/-- An erase of 4096 bytes that starts in the middle of a sector takes two sectors. -/
theorem erases_exactly_two :
    let g : Geometry := ⟨0x100000, 256, by decide, by decide⟩
    let script := Transfer.erase g .standard 0x1800 4096
    let run := script.run PatternDevice.transport .dispatcher ⟨{}, #[]⟩
    run.2.journal.toList.all Entry.isAnswered = true ∧
    (run.1 matches .ok (.sectors 0x1000 2)) = true ∧
    Erasure g .standard 0x1800 4096 (exchangesIn run.2.journal.toList) run.1 := by
  intro g script run
  obtain ⟨-, added, journal, exact⟩ := erases_exactly PatternDevice.transport g .standard
    .dispatcher ⟨{}, #[]⟩ 0x1800 4096
  obtain rfl : run.2.journal.toList = added := journal
  have answered : run.2.journal.toList.all Entry.isAnswered = true := by decide +kernel
  exact ⟨answered, by decide +kernel, (exact answered).1⟩

/-! ## What an erase is asked for -/

namespace Geometry

variable (g : Geometry)

/-- Whether a sector holds a byte of the device that a request asks for. -/
def Asks (address : UInt32) (length : Nat) (sector : UInt32) : Prop :=
  ∃ i, sector.toNat ≤ i ∧ i < sector.toNat + 4096 ∧
    address.toNat ≤ i ∧ i < address.toNat + length ∧ i < g.totalSize.toNat

/-- Whether a request asks for no byte of the device. -/
def AsksNone (address : UInt32) (length : Nat) : Prop :=
  length = 0 ∨ g.totalSize.toNat ≤ address.toNat

/-- Whether a request asks for no byte of the device, though the sector that holds its address
starts before its end and before the end of the device. -/
def Strays (address : UInt32) (length : Nat) : Prop :=
  g.AsksNone address length ∧
    address.toNat / 4096 * 4096 < min (address.toNat + length) g.totalSize.toNat

variable {g} {address : UInt32} {length : Nat}

theorem totalSize_pos : 0 < g.totalSize.toNat :=
  Nat.pos_of_ne_zero fun none => g.totalSize_ne_zero (UInt32.toNat_inj.1 none)

theorem asks_of_isWholeChip (whole : g.isWholeChip address length = true) {i : Nat}
    (held : i < g.totalSize.toNat) : address.toNat ≤ i ∧ i < address.toNat + length := by
  obtain ⟨rfl, covers⟩ := g.isWholeChip_iff.1 whole
  have : (0 : UInt32).toNat = 0 := rfl
  omega

theorem AsksNone.part (none : g.AsksNone address length) :
    g.isWholeChip address length = false := by
  refine eq_false_of_ne_true fun whole => ?_
  have held := g.totalSize_pos
  have := asks_of_isWholeChip whole held
  unfold AsksNone at none
  omega

/-- A sector of an erase holds a byte that it was asked for, or is the one of a request that
strays. -/
theorem asks_of_sectorsFrom {s : SectorErase} (hs : s ∈ g.sectorsFrom
    (alignErase address length).1 (alignErase address length).2) :
    g.Asks address length s.address ∨
      g.Strays address length ∧ s.address = sectorFloor address := by
  have member := List.mem_map_of_mem (f := fun s : SectorErase => s.address.toNat) hs
  rw [g.sectors_of_erase, List.mem_map] at member
  obtain ⟨k, hk, place⟩ := member
  rw [List.mem_range, lt_sectorsMet_iff] at hk
  by_cases none : g.AsksNone address length
  · refine .inr ⟨⟨none, Nat.lt_of_le_of_lt (Nat.le_add_right ..) hk⟩, UInt32.toNat_inj.1 ?_⟩
    rw [sectorFloor_eq, ← place]
    unfold AsksNone at none
    omega
  · unfold AsksNone at none
    exact .inl ⟨max address.toNat s.address.toNat, by omega, by omega, by omega, by omega, by omega⟩

theorem Strays.sectorErases (strays : g.Strays address length) :
    g.sectorErases address length = 1 := by
  obtain ⟨none, starts⟩ := strays
  rw [Geometry.sectorErases, none.part, if_neg Bool.false_ne_true, sectorsMet]
  unfold AsksNone at none
  omega

end Geometry

/-- The calls that an erase has reason for: those of a transaction, the erase of a sector that holds
a byte it was asked for, the erase of the chip if it was asked for all of its bytes, and the erase
of the sector where the request strays. -/
inductive Warranted (g : Geometry) (commands : CommandSet) (address : UInt32) (length : Nat) :
    Call → Prop
  | poll {c : Call} (h : c.isPoll = true) : Warranted g commands address length c
  | enable : Warranted g commands address length (.sendCommand commands.writeEnable)
  | disable : Warranted g commands address length (.sendCommand commands.writeDisable)
  | sector {a : UInt32} (asked : g.Asks address length a) :
    Warranted g commands address length (.eraseSector commands.sectorErase a)
  | chip (asked : ∀ i < g.totalSize.toNat, address.toNat ≤ i ∧ i < address.toNat + length) :
    Warranted g commands address length (.sendCommand commands.chipErase)
  | stray (strays : g.Strays address length) : Warranted g commands address length
    (.eraseSector commands.sectorErase (Geometry.sectorFloor address))

namespace Transfer

open Script

variable {g : Geometry} {commands : CommandSet} {address : UInt32} {length : Nat}

theorem only_erase_warranted :
    (erase g commands address length).Only (Warranted g commands address length) := by
  have transaction {c : Call} (h : Warranted g commands address length c) :
      (Transfer.change commands c).Only (Warranted g commands address length) :=
    only_change_of (fun _ => .poll) .enable .disable h
  refine only_erase_of (fun whole => ?_) fun _ s hs => ?_
  · exact transaction (.chip fun i => Geometry.asks_of_isWholeChip whole)
  · rcases Geometry.asks_of_sectorsFrom hs with asked | ⟨strays, floor⟩
    · exact transaction (.sector asked)
    · rw [floor]
      exact transaction (.stray strays)

theorem only_erase_none (none : g.AsksNone address length) (stays : ¬ g.Strays address length) :
    (erase g commands address length).Only fun _ => False := by
  refine only_erase_of (fun whole => ?_) fun part s hs => ?_
  · rw [none.part] at whole
    cases whole
  · rcases Geometry.asks_of_sectorsFrom hs with ⟨i, asked⟩ | ⟨strays, -⟩
    · unfold Geometry.AsksNone at none
      omega
    · exact absurd strays stays

end Transfer

/-- An erase erases only sectors that hold a byte of the device it was asked for, and the chip only
if it was asked for all bytes, whatever the device answers; and where it was asked for no byte, it
makes no call and leaves the device as it is. It is not so just for a request that strays: this one
erases the sector that holds its address. -/
theorem erases_asked {σ : Type} (T : Transport σ) (g : Geometry) (commands : CommandSet)
    (who : Actor) (b : Bus σ) (address : UInt32) (length : Nat) :
    let run := (Transfer.erase g commands address length).run T who b
    ∃ added, run.2.journal.toList = b.journal.toList ++ added ∧
      CallsIn (Warranted g commands address length) added ∧
      (g.AsksNone address length → ¬ g.Strays address length →
        CallsIn (fun _ => False) added ∧ run.2.device = b.device) ∧
      (g.Strays address length → added.all Entry.isAnswered = true →
        toldIn Call.sector? added = [Geometry.sectorFloor address]) := by
  intro run
  obtain ⟨added, journal, erased⟩ := erased_of_run (g := g) T commands who b address length
  refine ⟨added, journal, Transfer.only_erase_warranted.run journal, fun none stays => ?_,
    fun strays answered => ?_⟩
  · have silent : (Transfer.erase g commands address length).Only fun _ => False :=
      Transfer.only_erase_none none stays
    exact ⟨silent.run journal, silent.device_run T who b⟩
  · have count := (erased.ended answered).1
    have order := erased.order
    rw [strays.sectorErases] at count order
    obtain ⟨a, ha⟩ := List.length_eq_one_iff.1 count
    rw [ha] at order ⊢
    have place : a.toNat = address.toNat / 4096 * 4096 := by simpa using order.eq_of_length rfl
    rw [UInt32.toNat_inj.1 (place.trans (Geometry.sectorFloor_eq address).symm)]

/-- On a device of 4196 bytes an erase of no byte at address 1 erases the first sector, and an erase
of one byte past the end sends the erase of the last one. -/
theorem erases_unasked :
    let g : Geometry := ⟨4196, 256, by decide, by decide⟩
    let chip : Chip := { Chip.make { size := 4196 } [0, 0, 0, 0] with connected := true }
    let erase (address : UInt32) (length : Nat) :=
      (Transfer.erase g .standard address length).run Chip.transport .dispatcher ⟨chip, #[]⟩
    ((∀ a, ¬ g.Asks 1 0 a) ∧ toldIn Call.sector? (erase 1 0).2.journal.toList = [0] ∧
      chip.memory.slice 0 4 = [0, 0, 0, 0] ∧
      (erase 1 0).2.device.memory.slice 0 4 = [0xFF, 0xFF, 0xFF, 0xFF]) ∧
    (∀ a, ¬ g.Asks 4196 1 a) ∧ toldIn Call.sector? (erase 4196 1).2.journal.toList = [4096] := by
  intro g chip erase
  have none (a : UInt32) : ¬ g.Asks 1 0 a := by
    rintro ⟨i, -, -, low, high, -⟩
    omega
  have past (a : UInt32) : ¬ g.Asks 4196 1 a := by
    rintro ⟨i, -, -, low, -, held⟩
    change i < (4196 : UInt32).toNat at held
    omega
  exact ⟨⟨none, by decide +kernel, by decide +kernel, by decide +kernel⟩, past, by decide +kernel⟩

end FlashGate

/-
The storage law of the emulated chip, under any calls in any order: those that break the protocol,
those that are rejected and those that fault. Main statements: `ends_of_change`, how a program or an
erase ends, and `stores_as_flash`, that bits are cleared by programs and set by erases that are
carried out, each of which takes a write enable of its own, and by nothing else.
-/
import FlashGate.Proofs.Device.Latch

namespace FlashGate

/-! ## Accepted calls -/

/-- Whether a breach reports that a program or an erase was not carried out. -/
def Breach.rejects : Breach → Bool
  | .notWriteEnabled _ => true
  | .programPastEnd _ => true
  | .erasePastEnd _ => true
  | _ => false

/-- Whether a call was answered and not rejected. -/
def Outcome.isAccepted {σ : Type} {c : Call} (o : Outcome σ c) : Bool :=
  o.reply.isOk && o.breaches.all (!·.rejects)

/-- The stored bytes after a program or an erase that is carried out, where sectors have the given
size. -/
def Call.stored (sector : Nat) (m : Memory) : Call → Memory
  | .programPage _ address data => m.program address.toNat data
  | .eraseSector _ address => m.erase (address.toNat / sector * sector) sector
  | .sendCommand _ => m.eraseAll
  | _ => m

/-- Whether the call programs the byte at an address. -/
def Call.Programs (i : Nat) : Call → Prop
  | .programPage _ address data => address.toNat ≤ i ∧ i < address.toNat + data.length
  | _ => False

/-- Whether the call erases the byte at an address: its sector, or the whole chip. -/
def Call.Erases (sector i : Nat) : Call → Prop
  | .eraseSector _ address =>
    address.toNat / sector * sector ≤ i ∧ i < (address.toNat / sector + 1) * sector
  | .sendCommand command => (Call.sendCommand command).isChange = true
  | _ => False

/-- A bit of a stored byte. -/
def Memory.bit (m : Memory) (i k : Nat) : Bool := (m.byte i).toNat.testBit k

/-! ## Bits -/

namespace Call

variable {sector : Nat} {m : Memory} {c : Call} {i k : Nat}

theorem erased_of_bit (h : m.bit i k = true) : erasedByte.toNat.testBit k = true := by
  have byte := (m.byte i).toNat_lt
  have small : k < 8 := by
    refine (Nat.pow_lt_pow_iff_right (a := 2) (by omega)).1 (Nat.lt_of_le_of_lt ?_ byte)
    exact Nat.ge_two_pow_of_testBit h
  show (2 ^ 8 - 1).testBit k = true
  rw [Nat.testBit_two_pow_sub_one]
  simpa using small

/-- A bit that a call clears lies in a byte that it programs. -/
theorem programs_of_cleared (set : m.bit i k = true)
    (cleared : (c.stored sector m).bit i k = false) : c.Programs i := by
  cases c with
  | programPage command address data =>
    by_cases inside : address.toNat ≤ i ∧ i - address.toNat < data.length
    · exact ⟨inside.1, by omega⟩
    · simp only [stored, Memory.bit, Memory.byte_program, dif_neg inside] at set cleared
      cases set.symm.trans cleared
  | eraseSector command address =>
    simp only [stored, Memory.bit, Memory.byte_erase] at cleared
    split at cleared
    · cases (erased_of_bit set).symm.trans cleared
    · cases set.symm.trans cleared
  | sendCommand command =>
    simp only [stored, Memory.bit, Memory.byte_eraseAll] at cleared
    cases (erased_of_bit set).symm.trans cleared
  | _ => cases set.symm.trans cleared

/-- A bit that a program or an erase sets lies in a byte that it erases. -/
theorem erases_of_set (hc : c.isChange = true) (clear : m.bit i k = false)
    (set : (c.stored sector m).bit i k = true) : c.Erases sector i := by
  cases c with
  | programPage command address data =>
    simp only [stored, Memory.bit, Memory.byte_program] at set
    split at set
    · rw [UInt8.toNat_and, Nat.testBit_and, Bool.and_eq_true] at set
      cases set.1.symm.trans clear
    · cases set.symm.trans clear
  | eraseSector command address =>
    by_cases inside : address.toNat / sector * sector ≤ i ∧
        i < address.toNat / sector * sector + sector
    · exact ⟨inside.1, by rw [Nat.succ_mul]; exact inside.2⟩
    · simp only [stored, Memory.bit, Memory.byte_erase, if_neg inside] at set
      cases set.symm.trans clear
  | sendCommand command => exact hc
  | _ => cases hc

theorem byte_stored_of_not (hc : c.isChange = true) (programs : ¬ c.Programs i)
    (erases : ¬ c.Erases sector i) : (c.stored sector m).byte i = m.byte i := by
  cases c with
  | programPage command address data =>
    rw [stored, Memory.byte_program, dif_neg]
    exact fun inside => programs ⟨inside.1, by omega⟩
  | eraseSector command address =>
    rw [stored, Memory.byte_erase, if_neg]
    exact fun inside => erases ⟨inside.1, by rw [Nat.succ_mul]; exact inside.2⟩
  | sendCommand command => exact absurd hc erases
  | _ => cases hc

@[simp] theorem size_stored : (c.stored sector m).size = m.size := by
  cases c <;> rfl

end Call

namespace Chip

variable (chip : Chip)

/-- Whether a call is a program or an erase that the chip carries out. -/
def carriesOut (c : Call) : Bool := c.isChange && (chip.perform c).isAccepted

/-- The chip after a sequence of calls. -/
def after (calls : List Call) : Chip := calls.foldl (fun chip c => (chip.perform c).device) chip

@[simp] theorem after_nil : chip.after [] = chip := rfl

@[simp] theorem after_cons (c : Call) (calls : List Call) :
    chip.after (c :: calls) = (chip.perform c).device.after calls := rfl

theorem after_append (calls more : List Call) :
    chip.after (calls ++ more) = (chip.after calls).after more := List.foldl_append ..

@[simp] theorem profile_after (calls : List Call) : (chip.after calls).profile = chip.profile := by
  induction calls generalizing chip with
  | nil => rfl
  | cons c calls ih => rw [after_cons, ih, profile_perform]

/-! ## Single calls -/

theorem wire_accepted (a : Activity) : (chip.wireBreaches a).all (!·.rejects) = true := by
  unfold wireBreaches
  cases chip.connected <;> cases chip.fastReadActive <;> rfl

theorem ite_accepted {p : Prop} [Decidable p] {x : Breach} (hx : x.rejects = false) :
    (if p then [] else [x]).all (!·.rejects) = true := by
  split
  · rfl
  · simp [hx]

theorem accepted_append {a b : List Breach} (ha : a.all (!·.rejects) = true)
    (hb : b.all (!·.rejects) = true) : (a ++ b).all (!·.rejects) = true := by
  rw [List.all_append, ha, hb, Bool.and_self]

theorem toNat_and_not_add (w m : UInt64) : (w &&& ~~~m).toNat + (w &&& m).toNat = w.toNat := by
  have apart : w.toBitVec &&& ~~~m.toBitVec &&& (w.toBitVec &&& m.toBitVec) = 0#64 := by
    rw [BitVec.and_comm w.toBitVec m.toBitVec, BitVec.and_assoc, ← BitVec.and_assoc (~~~m.toBitVec),
      BitVec.and_comm (~~~m.toBitVec), BitVec.and_not_self]
    exact (congrArg _ BitVec.zero_and).trans BitVec.and_zero
  have whole : w.toBitVec &&& ~~~m.toBitVec ||| w.toBitVec &&& m.toBitVec = w.toBitVec := by
    rw [← BitVec.and_or_distrib_left, BitVec.not_or_self, BitVec.and_allOnes]
  calc (w &&& ~~~m).toNat + (w &&& m).toNat
      = ((w.toBitVec &&& ~~~m.toBitVec) + (w.toBitVec &&& m.toBitVec)).toNat :=
        (BitVec.toNat_add_of_and_eq_zero apart).symm
    _ = w.toNat := by rw [BitVec.add_eq_or_of_and_eq_zero _ _ apart, whole]; rfl

/-- Where the chip finds the start of the sector that holds an address. -/
def sectorStart (sector address : UInt32) : Nat :=
  (address.toUInt64 &&& ~~~(sector.toUInt64 - 1)).toNat

theorem sectorStart_add {sector : UInt32} (some : sector ≠ 0) (address : UInt32) :
    sectorStart sector address + (address.toNat &&& (sector.toNat - 1)) = address.toNat := by
  have pos : 0 < sector.toNat := Nat.pos_of_ne_zero fun h => some (UInt32.toNat_inj.1 h)
  have less : (sector.toUInt64 - 1).toNat = sector.toNat - 1 := by
    rw [UInt64.toNat_sub_of_le _ _ (by
      rw [UInt64.le_iff_toNat_le, UInt32.toNat_toUInt64]; exact pos), UInt32.toNat_toUInt64]
    rfl
  have parts := toNat_and_not_add address.toUInt64 (sector.toUInt64 - 1)
  rwa [UInt64.toNat_and address.toUInt64 (sector.toUInt64 - 1), less,
    UInt32.toNat_toUInt64] at parts

theorem sector_start {sector : UInt32} (h : isPowerOfTwo sector = true) (address : UInt32) :
    (address.toUInt64 &&& ~~~(sector.toUInt64 - 1)).toNat =
      address.toNat / sector.toNat * sector.toNat := by
  obtain ⟨k, hk⟩ := Geometry.isPowerOfTwo_iff.1 h
  have some : sector ≠ 0 := by
    rintro rfl
    cases h
  have parts := sectorStart_add some address
  rw [hk, Nat.and_two_pow_sub_one_eq_mod, ← hk] at parts
  have whole := Nat.div_add_mod' address.toNat sector.toNat
  exact Nat.add_right_cancel (parts.trans whole.symm)

/-- How a program or an erase ends: not accepted, with the stored bytes as they were, or carried
out, which needs the write enable and consumes it. -/
theorem ends_of_change (sector : isPowerOfTwo chip.profile.sectorSize = true) {c : Call}
    (hc : c.isChange = true) :
    ((chip.perform c).isAccepted = false ∧ (chip.perform c).device.memory = chip.memory) ∨
      ((chip.perform c).isAccepted = true ∧ chip.writeEnabled = true ∧ (chip.perform c).device =
        { chip.begin with memory := c.stored chip.profile.sectorSize.toNat chip.memory }) := by
  cases c with
  | programPage command address data =>
    simp only [perform, programPage]
    split
    · exact .inl ⟨rfl, rfl⟩
    split
    · exact .inl ⟨rfl, rfl⟩
    split
    · split
      · exact .inr ⟨accepted_append (chip.wire_accepted _) (ite_accepted rfl), ‹_›, rfl⟩
      · exact .inl ⟨by simp [Outcome.isAccepted, Breach.rejects], rfl⟩
    · exact .inl ⟨by simp [Outcome.isAccepted, Breach.rejects], rfl⟩
  | eraseSector command address =>
    simp only [perform, eraseSector, sector_start sector]
    split
    · exact .inl ⟨rfl, rfl⟩
    split
    · split
      · exact .inr ⟨accepted_append (chip.wire_accepted _) (ite_accepted rfl), ‹_›, rfl⟩
      · exact .inl ⟨by simp [Outcome.isAccepted, Breach.rejects], rfl⟩
    · exact .inl ⟨by simp [Outcome.isAccepted, Breach.rejects], rfl⟩
  | sendCommand command =>
    simp only [Call.isChange, Bool.or_eq_true, beq_iff_eq] at hc
    have other : command ≠ commands.writeEnable ∧ command ≠ commands.writeDisable := by
      rcases hc with rfl | rfl <;> decide
    simp only [perform, sendCommand, other.1, other.2, if_false, hc, if_true]
    split
    · exact .inr ⟨chip.wire_accepted .command, ‹_›, rfl⟩
    · exact .inl ⟨by simp [Outcome.isAccepted, Breach.rejects], rfl⟩
  | _ => cases hc

/-! ## The law of one call -/

/-- What a call does to the stored bytes: bits are cleared in the bytes that it programs and set in
those that it erases, all other bytes stay, and nothing changes unless it is carried out, which
consumes the write enable. -/
structure StoresBy (c : Call) : Prop where
  size : (chip.perform c).device.memory.size = chip.memory.size
  cleared : ∀ i k, chip.memory.bit i k = true → (chip.perform c).device.memory.bit i k = false →
    chip.carriesOut c = true ∧ c.Programs i
  set : ∀ i k, chip.memory.bit i k = false → (chip.perform c).device.memory.bit i k = true →
    chip.carriesOut c = true ∧ c.Erases chip.profile.sectorSize.toNat i
  others : ∀ i, ¬ c.Programs i → ¬ c.Erases chip.profile.sectorSize.toNat i →
    (chip.perform c).device.memory.byte i = chip.memory.byte i
  /-- A call that faults, that is rejected, or that is no program and no erase. -/
  refused : chip.carriesOut c = false → (chip.perform c).device.memory = chip.memory
  carriedOut : chip.carriesOut c = true →
    (chip.perform c).device.memory = c.stored chip.profile.sectorSize.toNat chip.memory
  consumes : chip.carriesOut c = true →
    chip.writeEnabled = true ∧ (chip.perform c).device.writeEnabled = false

theorem storesBy (sector : isPowerOfTwo chip.profile.sectorSize = true) (c : Call) :
    chip.StoresBy c := by
  have ends : (chip.carriesOut c = false ∧ (chip.perform c).device.memory = chip.memory) ∨
      (c.isChange = true ∧ chip.carriesOut c = true ∧ chip.writeEnabled = true ∧
        (chip.perform c).device =
          { chip.begin with memory := c.stored chip.profile.sectorSize.toNat chip.memory }) := by
    unfold carriesOut
    cases hc : c.isChange with
    | false => exact .inl ⟨rfl, (chip.kept_perform hc).1⟩
    | true =>
      rcases chip.ends_of_change sector hc with ⟨no, kept⟩ | ⟨yes, enabled, device⟩
      · exact .inl ⟨no, kept⟩
      · exact .inr ⟨rfl, yes, enabled, device⟩
  rcases ends with ⟨no, kept⟩ | ⟨change, yes, enabled, device⟩
  · refine ⟨by rw [kept], fun i k set cleared => ?_, fun i k clear set => ?_,
      fun i _ _ => by rw [kept], fun _ => kept, fun yes => ?_, fun yes => ?_⟩
    · rw [kept] at cleared
      cases set.symm.trans cleared
    · rw [kept] at set
      cases set.symm.trans clear
    all_goals cases no.symm.trans yes
  · have memory := congrArg Chip.memory device
    refine ⟨by rw [memory, Call.size_stored], fun i k set cleared => ?_, fun i k clear set => ?_,
      fun i programs erases => ?_, fun no => ?_, fun _ => memory,
      fun _ => ⟨enabled, by rw [device]; rfl⟩⟩
    · rw [memory] at cleared
      exact ⟨yes, Call.programs_of_cleared set cleared⟩
    · rw [memory] at set
      exact ⟨yes, Call.erases_of_set change clear set⟩
    · rw [memory]
      exact Call.byte_stored_of_not change programs erases
    · cases no.symm.trans yes

/-! ## The write enable -/

/-- Nothing but a write-enable command turns the latch on. -/
theorem off_perform (off : chip.writeEnabled = false) {c : Call}
    (other : c ≠ .sendCommand commands.writeEnable) :
    (chip.perform c).device.writeEnabled = false := by
  cases hp : c.isPassive with
  | true => exact (chip.passive_perform hp).2.trans off
  | false =>
    cases c with
    | programPage command address data =>
      simp only [perform, programPage, off, Bool.false_eq_true, if_false]
      split
      · exact off
      · split <;> exact off
    | eraseSector command address =>
      simp only [perform, eraseSector, off, Bool.false_eq_true, if_false]
      split <;> exact off
    | sendCommand command =>
      have some : command ≠ commands.writeEnable := fun same => other (by rw [same])
      simp only [perform, sendCommand, some, off, Bool.false_eq_true, if_false]
      split
      · rfl
      · split <;> exact off
    | isBusy =>
      simp only [perform, poll]
      split <;> exact off
    | _ => cases hp

theorem enable_of_after {calls : List Call} (off : chip.writeEnabled = false)
    (on : (chip.after calls).writeEnabled = true) : .sendCommand commands.writeEnable ∈ calls := by
  induction calls generalizing chip with
  | nil => cases off.symm.trans on
  | cons c calls ih =>
    by_cases here : c = .sendCommand commands.writeEnable
    · exact here ▸ List.mem_cons_self ..
    · exact List.mem_cons_of_mem _ (ih _ (chip.off_perform off here) on)

/-! ## Sequences of calls -/

theorem size_after (sector : isPowerOfTwo chip.profile.sectorSize = true) (calls : List Call) :
    (chip.after calls).memory.size = chip.memory.size := by
  induction calls generalizing chip with
  | nil => rfl
  | cons c calls ih =>
    rw [after_cons, ih _ (by rwa [profile_perform]), (chip.storesBy sector c).size]

/-- A bit that a sequence of calls turns over is turned over by one of them. -/
theorem turned_by {v : Bool} {i k : Nat} {calls : List Call} (before : chip.memory.bit i k = v)
    (after : (chip.after calls).memory.bit i k = !v) :
    ∃ first c rest, calls = first ++ c :: rest ∧ (chip.after first).memory.bit i k = v ∧
      ((chip.after first).perform c).device.memory.bit i k = !v := by
  induction calls generalizing chip with
  | nil => simp [before] at after
  | cons c calls ih =>
    by_cases here : (chip.perform c).device.memory.bit i k = v
    · obtain ⟨first, d, rest, rfl, old, new⟩ := ih _ here after
      exact ⟨c :: first, d, rest, rfl, old, new⟩
    · exact ⟨[], c, calls, rfl, before, Bool.eq_not_of_ne here⟩

/-- The storage law of the chip, whatever calls are made of it. The size stays. A bit is cleared by
a program of its byte only, and set by an erase of its sector or of the chip only. Each call on the
way does to the bytes what `StoresBy` says, so that one that is rejected or that faults leaves them
as they are. Between two programs or erases that are carried out, a write enable is sent. -/
theorem stores_as_flash (sector : isPowerOfTwo chip.profile.sectorSize = true) (calls : List Call) :
    (chip.after calls).memory.size = chip.memory.size ∧
    (∀ i k, chip.memory.bit i k = true → (chip.after calls).memory.bit i k = false →
      ∃ first c rest, calls = first ++ c :: rest ∧ (chip.after first).carriesOut c = true ∧
        c.Programs i) ∧
    (∀ i k, chip.memory.bit i k = false → (chip.after calls).memory.bit i k = true →
      ∃ first c rest, calls = first ++ c :: rest ∧ (chip.after first).carriesOut c = true ∧
        c.Erases chip.profile.sectorSize.toNat i) ∧
    (∀ first c rest, calls = first ++ c :: rest → (chip.after first).StoresBy c) ∧
    ∀ first c between d rest, calls = first ++ c :: (between ++ d :: rest) →
      (chip.after first).carriesOut c = true →
      (chip.after (first ++ c :: between)).carriesOut d = true →
      .sendCommand commands.writeEnable ∈ between := by
  have law (first : List Call) (c : Call) : (chip.after first).StoresBy c :=
    storesBy _ (by rwa [profile_after]) c
  refine ⟨chip.size_after sector calls, fun i k set cleared => ?_, fun i k clear set => ?_,
    fun first c _ _ => law first c, fun first c between d rest _ carried again => ?_⟩
  · obtain ⟨first, c, rest, split, old, new⟩ := chip.turned_by set cleared
    obtain ⟨carried, programs⟩ := (law first c).cleared i k old new
    exact ⟨first, c, rest, split, carried, programs⟩
  · obtain ⟨first, c, rest, split, old, new⟩ := chip.turned_by clear set
    obtain ⟨carried, erases⟩ := (law first c).set i k old new
    rw [profile_after] at erases
    exact ⟨first, c, rest, split, carried, erases⟩
  · have off := ((law first c).consumes carried).2
    have on := ((law (first ++ c :: between) d).consumes again).1
    rw [after_append, after_cons] at on
    exact enable_of_after _ off on

/-- A chip of two sectors, on which a program without write enable is rejected, one with write
enable is carried out, and one past the end of the address space faults. -/
theorem stores_as_flash_small :
    let profile : Profile := { size := 16, pageSize := 4, sectorSize := 8 }
    let enable : Call := .sendCommand commands.writeEnable
    let erase : Call := .eraseSector commands.sectorErase 11
    let program : Call := .programPage commands.programPage 9 [0x0F]
    let beyond : Call := .programPage commands.programPage 0xFFFFFFFF [0, 0]
    let chip := make profile (List.replicate 16 0)
    let calls := [program, enable, erase, enable, program, enable, beyond]
    isPowerOfTwo profile.sectorSize = true ∧
    (chip.after calls).memory.slice 7 4 = [0, 0xFF, 0x0F, 0xFF] ∧
    ((chip.after [program, enable, erase, enable, program, enable]).perform beyond).reply.isOk =
      false ∧
    chip.StoresBy program ∧
    enable ∈ [enable] := by
  intro profile enable erase program beyond chip calls
  have sector : isPowerOfTwo profile.sectorSize = true := by decide
  obtain ⟨-, -, -, each, between⟩ := stores_as_flash chip sector calls
  refine ⟨sector, by decide +kernel, by decide +kernel, each [] program _ rfl, ?_⟩
  exact between [program, enable] erase [enable] program [enable, beyond] rfl (by decide +kernel)
    (by decide +kernel)

end Chip

end FlashGate

/-
What a list of writes leaves on the emulated chip. Programming only clears bits, so between two
erases a bit stays set just where none of the writes clears it. Main statement: `writes_accumulate`,
that the stored bytes after a list of writes do not depend on the order of the list nor on how often
a write stands in it, whether or not the chip is a whole number of pages and whatever the writes
have in common.
-/
import FlashGate.Proofs.Device.Storage
import FlashGate.Proofs.Programming

namespace FlashGate

open Script

/-! ## Writes on a memory -/

/-- A write as it is asked for. -/
structure Write where
  address : UInt32
  data : List UInt8
  deriving DecidableEq, Repr

namespace Write

variable (g : Geometry)

/-- The stored bytes after the pages of a write. -/
def apply (m : Memory) (w : Write) : Memory :=
  (g.writePlan w.address w.data).pages.foldl Geometry.programHeld m

/-- Whether the write leaves a bit as it is: it does not program the byte, or its data has the bit
set there. -/
def Keeps (w : Write) (i k : Nat) : Prop :=
  ∀ h : g.Programs w.address w.data.length i,
    (w.data.get ⟨i - w.address.toNat, h.high⟩).toNat.testBit k = true

/-- Whether the write ends before it has sent the last byte that a word addresses. -/
def InRange (w : Write) : Prop :=
  w.address.toNat + g.sent w.address w.data.length < 0x100000000

instance (w : Write) : Decidable (w.InRange g) := inferInstanceAs (Decidable (_ < _))

@[simp] theorem size_apply (m : Memory) (w : Write) : (apply g m w).size = m.size :=
  Geometry.size_foldl_programHeld _ _

@[simp] theorem size_foldl_apply (ws : List Write) (m : Memory) :
    (ws.foldl (apply g) m).size = m.size := by
  induction ws generalizing m with
  | nil => rfl
  | cons w ws ih => rw [List.foldl_cons, ih, size_apply]

theorem bit_apply {m : Memory} (hm : m.size = g.totalSize.toNat) (w : Write) (i k : Nat) :
    (apply g m w).bit i k = true ↔ m.bit i k = true ∧ w.Keeps g i k := by
  unfold apply Memory.bit Keeps
  rw [g.byte_foldl_pages m hm]
  by_cases h : g.Programs w.address w.data.length i
  · rw [dif_pos h, UInt8.toNat_and, Nat.testBit_and, Bool.and_eq_true]
    exact and_congr_right fun _ => ⟨fun kept _ => kept, fun keeps => keeps h⟩
  · rw [dif_neg h]
    exact ⟨fun set => ⟨set, fun programs => absurd programs h⟩, fun both => both.1⟩

/-- After a list of writes those bits are set that were set before and that each of them keeps. -/
theorem bit_foldl_apply (ws : List Write) {m : Memory} (hm : m.size = g.totalSize.toNat)
    (i k : Nat) : (ws.foldl (apply g) m).bit i k = true ↔
      m.bit i k = true ∧ ∀ w ∈ ws, w.Keeps g i k := by
  induction ws generalizing m with
  | nil => simp
  | cons w ws ih =>
    rw [List.foldl_cons, ih ((size_apply g m w).trans hm), bit_apply g hm, List.forall_mem_cons,
      and_assoc]

end Write

namespace Memory

theorem byte_eq_of_bits {m n : Memory} {i : Nat} (h : ∀ k, m.bit i k = true ↔ n.bit i k = true) :
    m.byte i = n.byte i :=
  UInt8.toNat_inj.1 (Nat.eq_of_testBit_eq fun k => Bool.eq_iff_iff.2 (h k))

theorem toList_eq_of_bits {m n : Memory} (size : m.size = n.size)
    (h : ∀ i k, m.bit i k = true ↔ n.bit i k = true) : m.toList = n.toList := by
  rw [toList, toList, size]
  exact List.map_congr_left fun i _ => byte_eq_of_bits (h i)

end Memory

/-! ## Writes on a chip -/

namespace Chip

/-- What is seen of a chip by who looks at its stored bytes and its write-enable latch. -/
structure Store where
  memory : Memory
  enabled : Bool

/-- The stored bytes and the latch of a chip. -/
def store (chip : Chip) : Store := ⟨chip.memory, chip.writeEnabled⟩

/-- The world of that observer, for the chips of one profile. Every call may be made. -/
def stores (profile : Profile) : World Store where
  permits _ _ := True
  reacts s c r s' := ∃ chip : Chip, chip.profile = profile ∧ chip.store = s ∧
    (chip.perform c).reply = r ∧ (chip.perform c).device.store = s'

variable {profile : Profile} {s : Store}

theorem stores_shows (profile : Profile) (who : Actor) :
    (stores profile).Shows transport who fun b s => b.device.profile = profile ∧ b.device.store = s
    where
  call := by
    rintro b s c ⟨built, rfl⟩ -
    exact ⟨_, ⟨b.device, built, rfl, rfl, rfl⟩, (profile_perform ..).trans built, rfl⟩
  log _ _ _ h := h

theorem stores_polls {E : Fault → Store → Prop} : (stores profile).Polls E s := by
  refine fun c hc => ⟨trivial, ?_⟩
  rintro r s' ⟨chip, -, rfl, rfl, rfl⟩
  obtain ⟨calm, -, answered⟩ := chip.calm_poll hc
  rcases h : (chip.perform c).reply with f | x
  · rw [h] at answered
    cases answered
  · have seen : (chip.perform c).device.calm.store = chip.calm.store := congrArg store calm
    exact seen

/-- A masked call that the chips with these bytes and this latch answer alike. -/
theorem always_stores {c : Call} {x : c.Reply} {s' : Store}
    (h : ∀ chip : Chip, chip.profile = profile → chip.store = s →
      (chip.perform c).reply = .ok x ∧ (chip.perform c).device.store = s') :
    (masked c).Always (stores profile) (fun r t => r = .ok x ∧ t = s') s := by
  refine always_masked stores_polls trivial ?_
  rintro r t ⟨chip, built, seen, rfl, rfl⟩
  obtain ⟨reply, device⟩ := h chip built seen
  rw [reply]
  exact ⟨stores_polls, rfl, device⟩

/-- A transaction that changes the stored bytes, judged by what the call in it does while the latch
is on. -/
theorem always_change_stores {c : Call} {x : c.Reply} {m : Memory}
    (h : ∀ chip : Chip, chip.profile = profile → chip.store = ⟨s.memory, true⟩ →
      (chip.perform c).reply = .ok x ∧ (chip.perform c).device.store = ⟨m, false⟩) :
    (Transfer.change commands c).Always (stores profile)
      (fun r t => r = .ok () ∧ t = ⟨m, false⟩) s := by
  have enable : (masked (.sendCommand commands.writeEnable)).Always (stores profile)
      (fun r t => r = .ok () ∧ t = ⟨s.memory, true⟩) s := by
    refine always_stores (c := .sendCommand commands.writeEnable) (x := ()) ?_
    rintro chip - rfl
    exact ⟨rfl, rfl⟩
  have disable : (masked (.sendCommand commands.writeDisable)).Always (stores profile)
      (fun r t => r = .ok () ∧ t = ⟨m, false⟩) ⟨m, false⟩ := by
    refine always_stores (c := .sendCommand commands.writeDisable) (x := ()) fun chip _ seen => ?_
    exact ⟨rfl, congrArg (Store.mk · false) (congrArg Store.memory seen)⟩
  refine always_bind.2 (Always.mono ?_ enable)
  rintro r t ⟨rfl, rfl⟩
  refine always_bind.2 (Always.mono ?_ (always_stores h))
  rintro r t ⟨rfl, rfl⟩
  exact ⟨stores_polls, disable⟩

/-- One page of a write. A page past the end of the chip consumes the write enable and changes no
byte. -/
theorem always_page_stores (some : profile.pageSize ≠ 0) {p : Page}
    (fits : p.address.toNat + p.data.length ≤ 2 ^ 32) :
    (Transfer.programPage commands p).Always (stores profile)
      (fun r t => r = .ok () ∧ t = ⟨Geometry.programHeld s.memory p, false⟩) s := by
  refine always_bind.2 (always_log.2 (always_change_stores
    (c := .programPage commands.programPage p.address p.data) (x := ()) ?_))
  rintro chip rfl seen
  have memory : chip.memory = s.memory := congrArg Store.memory seen
  have enabled : chip.writeEnabled = true := congrArg Store.enabled seen
  have last : ¬ 4294967296 ≤ p.address.toNat + (p.data.length % 4294967296 - 1) := by
    have := p.address.toNat_lt
    have := Nat.mod_le p.data.length 4294967296
    omega
  cases held : chip.memory.holds p.address.toNat p.data.length <;>
    simp [perform, programPage, begin, store, last, some, enabled, held, Geometry.programHeld,
      ← memory]

variable {g : Geometry}

/-- A write that does not run out of addresses. -/
theorem always_write_stores (page : g.pageSize = profile.pageSize) {w : Write}
    (range : w.InRange g) :
    (Transfer.write g commands w.address w.data).Always (stores profile)
      (fun r t => r.isOk = true ∧ t.memory = w.apply g s.memory) s := by
  have some : profile.pageSize ≠ 0 := by
    intro zero
    have := g.pageSize_pos
    rw [page, zero] at this
    exact absurd this (by decide)
  have fits : ¬ g.RunsOut w.address w.data.length := fun out => by
    have := (g.runsOut_iff w.address w.data.length).1 out
    unfold Write.InRange at range
    omega
  -- what the pages still to come make of the stored bytes is what the write makes of them
  let I (rest : List Page) (t : Store) : Prop :=
    rest.foldl Geometry.programHeld t.memory = w.apply g s.memory ∧
      ∀ p ∈ rest, p.address.toNat + p.data.length ≤ 2 ^ 32
  have pages : I (g.writePlan w.address w.data).pages s :=
    ⟨rfl, fun p hp => g.page_addresses (g.page_of_writePlan hp).2.2⟩
  refine always_bind.2 (always_log.2 (always_bind.2 (Always.mono ?_
    (always_each (I := I) (E := fun _ _ => False) ?_ pages))))
  · rintro (f | ⟨⟩) t stored
    · exact stored.elim
    · have stored : t.memory = w.apply g s.memory := stored.1
      show Always (stores profile) _ _ _
      dsimp only
      split
      · exact ⟨rfl, stored⟩
      · exact ⟨rfl, stored⟩
      next ending =>
        rw [g.ending_of_writePlan, if_neg fits] at ending
        split at ending <;> cases ending
  · rintro p rest t ⟨stored, space⟩
    refine Always.mono ?_ (always_page_stores some (space p (List.mem_cons_self ..)))
    rintro r t' ⟨rfl, rfl⟩
    exact ⟨stored, fun q hq => space q (List.mem_cons_of_mem _ hq)⟩

end Chip

/-! ## Lists of writes -/

/-- Writes, one after the other. -/
def Transfer.writeAll (g : Geometry) (commands : CommandSet) (ws : List Write) : Script Unit :=
  each (fun w => do let _ ← write g commands w.address w.data) ws

namespace Chip

variable {profile : Profile} {g : Geometry}

theorem always_writeAll_stores (page : g.pageSize = profile.pageSize) {ws : List Write}
    (range : ∀ w ∈ ws, w.InRange g) {s : Store} :
    (Transfer.writeAll g commands ws).Always (stores profile)
      (fun r t => r = .ok () ∧ t.memory = ws.foldl (Write.apply g) s.memory) s := by
  let I (rest : List Write) (t : Store) : Prop :=
    rest.foldl (Write.apply g) t.memory = ws.foldl (Write.apply g) s.memory ∧
      ∀ w ∈ rest, w.InRange g
  have writes : I ws s := ⟨rfl, range⟩
  refine Always.mono ?_ (always_each (I := I) (E := fun _ _ => False) ?_ writes)
  · rintro (f | ⟨⟩) t stored
    · exact stored.elim
    · exact ⟨rfl, stored.1⟩
  · rintro w rest t ⟨stored, range⟩
    refine always_bind.2
      (Always.mono ?_ (always_write_stores page (range w (List.mem_cons_self ..))))
    rintro (f | n) t' ⟨ok, memory⟩
    · cases ok
    · exact ⟨by rw [memory]; exact stored, fun v hv => range v (List.mem_cons_of_mem _ hv)⟩

end Chip

/-- What a list of writes has made of the stored bytes. -/
structure Accumulates (g : Geometry) (ws : List Write) (start final : Memory) : Prop where
  size : final.size = start.size
  /-- The bits that were set before and that each of the writes keeps. -/
  bits : ∀ i k, final.bit i k = true ↔ start.bit i k = true ∧ ∀ w ∈ ws, w.Keeps g i k
  /-- No bit is set that was clear. -/
  below : ∀ i, final.byte i &&& start.byte i = final.byte i

theorem accumulates_foldl (g : Geometry) (ws : List Write) {m : Memory}
    (hm : m.size = g.totalSize.toNat) : Accumulates g ws m (ws.foldl (Write.apply g) m) where
  size := Write.size_foldl_apply g ws m
  bits := Write.bit_foldl_apply g ws hm
  below i := by
    refine UInt8.toNat_inj.1 (Nat.eq_of_testBit_eq fun k => ?_)
    have set := Write.bit_foldl_apply g ws hm i k
    rw [UInt8.toNat_and, Nat.testBit_and]
    exact (Bool.eq_self_and.2 fun final => (set.1 final).1).symm

/-- What a list of writes makes of the stored bytes hangs on the writes in it only. -/
theorem Accumulates.unique {g : Geometry} {ws ws' : List Write} {start final final' : Memory}
    (h : Accumulates g ws start final) (h' : Accumulates g ws' start final')
    (same : ∀ w, w ∈ ws' ↔ w ∈ ws) : final'.toList = final.toList := by
  refine Memory.toList_eq_of_bits (h'.size.trans h.size.symm) fun i k => ?_
  rw [h.bits, h'.bits]
  simp only [same]

/-- Writes on a chip that run in the range of addresses come to their end, whatever the state of its
pins, its latch and its busy time, and leave the bits that were set before and that each of them
keeps. So the stored bytes are the same for every order of the writes, and for every list in which
the same writes stand, each of them as often as it may. -/
theorem writes_accumulate (g : Geometry) (who : Actor) (b : Bus Chip)
    (size : g.totalSize = b.device.profile.size) (page : g.pageSize = b.device.profile.pageSize)
    (stored : b.device.memory.size = b.device.profile.size.toNat) (ws : List Write)
    (range : ∀ w ∈ ws, w.InRange g) :
    let run (ws : List Write) := (Transfer.writeAll g Chip.commands ws).run Chip.transport who b
    let Agrees (ws' : List Write) := (run ws').1 = .ok () ∧
      (run ws').2.device.memory.toList = (run ws).2.device.memory.toList
    (run ws).1 = .ok () ∧ Accumulates g ws b.device.memory (run ws).2.device.memory ∧
    (∀ ws', ws'.Perm ws → Agrees ws') ∧
    ∀ ws', (∀ w, w ∈ ws' ↔ w ∈ ws) → Agrees ws' := by
  intro run Agrees
  have whole : b.device.memory.size = g.totalSize.toNat := by rw [stored, size]
  have ends (ws : List Write) (range : ∀ w ∈ ws, w.InRange g) : (run ws).1 = .ok () ∧
      Accumulates g ws b.device.memory (run ws).2.device.memory := by
    obtain ⟨s, ⟨-, rfl⟩, ok, memory⟩ := Always.run (Chip.stores_shows b.device.profile who)
      (Chip.always_writeAll_stores page range (s := b.device.store)) ⟨rfl, rfl⟩
    refine ⟨ok, ?_⟩
    have memory : (run ws).2.device.memory = ws.foldl (Write.apply g) b.device.memory := memory
    rw [memory]
    exact accumulates_foldl g ws whole
  have agree (ws' : List Write) (same : ∀ w, w ∈ ws' ↔ w ∈ ws) : Agrees ws' := by
    obtain ⟨ok, final⟩ := ends ws' fun w hw => range w ((same w).1 hw)
    exact ⟨ok, (ends ws range).2.unique final same⟩
  exact ⟨(ends ws range).1, (ends ws range).2, fun ws' order => agree ws' fun _ => order.mem_iff,
    agree⟩

/-- Three writes that overlap on a chip of two and a half pages, the last one past its end, and
their list in another order with one of them twice. -/
theorem writes_accumulate_three :
    let g : Geometry := ⟨10, 4, by decide, by decide⟩
    let chip := Chip.make { size := 10, pageSize := 4 } (List.replicate 9 0x7F)
    let first : Write := ⟨1, [0xF3, 0xF3, 0xF3, 0xF3]⟩
    let second : Write := ⟨3, [0x3F, 0x3F, 0x3F]⟩
    let third : Write := ⟨6, [0xFE, 0xFE, 0, 0, 0]⟩
    let run (ws : List Write) :=
      (Transfer.writeAll g Chip.commands ws).run Chip.transport .dispatcher ⟨chip, #[]⟩
    (g.totalSize = chip.profile.size ∧ g.pageSize = chip.profile.pageSize ∧
      chip.memory.size = chip.profile.size.toNat ∧
      ∀ w ∈ [first, second, third], w.InRange g) ∧
    (run [first, second, third]).2.device.memory.toList =
      [0x7F, 0x73, 0x73, 0x33, 0x33, 0x3F, 0x7E, 0x7E, 0x7F, 0xFF] ∧
    (run [third, first, second]).2.device.memory.toList =
      (run [first, second, third]).2.device.memory.toList ∧
    (run [third, second, first, third]).2.device.memory.toList =
      (run [first, second, third]).2.device.memory.toList := by
  intro g chip first second third run
  have range : ∀ w ∈ [first, second, third], w.InRange g := by decide +kernel
  obtain ⟨-, -, orders, repeats⟩ := writes_accumulate g .dispatcher ⟨chip, #[]⟩ rfl rfl rfl
    [first, second, third] range
  refine ⟨⟨rfl, rfl, rfl, range⟩, by decide +kernel, (orders _ ?_).2, (repeats _ ?_).2⟩
  · decide
  · intro w
    simp only [List.mem_cons, List.not_mem_nil, or_false]
    tauto

end FlashGate

/-
What the transfers do to the emulated chip. A chip that matches the setup of a gate and stands
where the mode says ends a transfer as the cutting of the request tells, with no breach but
tolerated ones. Main statements: `always_perform`, the effect of every operation on chip and
answer, and `moves_holding`, how reconfigurations move its pins.
-/
import FlashGate.Proofs.Device.Calm
import FlashGate.Proofs.Gateway.Stage
import FlashGate.Proofs.Transfer

namespace FlashGate

/-- The stored bytes after an operation. -/
def Operation.effect (g : Geometry) (m : Memory) : Operation → Memory
  | .read .. => m
  | .fastRead .. => m
  | .write address data => (g.writePlan address data).pages.foldl Geometry.programHeld m
  | .erase address length =>
    if g.isWholeChip address length then m.eraseAll
    else
      (g.sectorsFrom (Geometry.alignErase address length).1
        (Geometry.alignErase address length).2).foldl Geometry.eraseHeld m

/-- The bytes that an operation hands over. -/
def Operation.reply (g : Geometry) (m : Memory) : Operation → List UInt8
  | .read address length => Geometry.shown m.byte g.totalSize.toNat address.toNat length
  | .fastRead submode address length =>
    Geometry.shown (fun i => submode.apply (m.byte i)) g.totalSize.toNat address.toNat length
  | _ => []

@[simp] theorem Operation.size_effect (g : Geometry) (m : Memory) (o : Operation) :
    (o.effect g m).size = m.size := by
  cases o with
  | read => rfl
  | fastRead => rfl
  | write => exact Geometry.size_foldl_programHeld _ _
  | erase =>
    simp only [effect]
    split
    · rfl
    · exact Geometry.size_foldl_eraseHeld _ _

namespace Chip

open Script Transfer

/-- The chip is the one that the setup of a gate describes, and its write-enable latch is off. -/
structure Matches (s : Setup) (w : Chip) : Prop where
  calm : w.calm = w
  size : s.geometry.totalSize = w.profile.size
  page : s.geometry.pageSize = w.profile.pageSize
  sector : w.profile.sectorSize = sectorSize
  memory : w.memory.size = w.profile.size.toNat
  commands : s.commands = commands
  calibrated : s.strategy ≠ .standard → w.calibrated = true
  latch : w.writeEnabled = false

/-- The hardware of the chip stands as the stage says. -/
def At (w : Chip) : Stage → Prop
  | .held m => w.connected = m.isDirect ∧ w.fastReadActive = m.isFastRead
  | .window => w.connected = false ∧ w.fastReadActive = true ∧ w.calibrated = true

variable {w : Chip}

/-! ## Single calls -/

theorem always_call {c : Call} {Q : Except Fault c.Reply → Chip → Prop}
    (permitted : world.permits w c) (h : Q (w.perform c).reply (w.perform c).device.calm)
    (hp : c.isPoll = false := by rfl) (hc : c ≠ .connect := by intro h; cases h) :
    (ask c).Always world Q w := by
  refine always_ask.2 ⟨permitted, fun r w' hr => ?_⟩
  obtain ⟨rfl, rfl⟩ := world_reacts hr hp hc
  exact h

theorem always_masked_call {c : Call} {Q : Except Fault c.Reply → Chip → Prop}
    (permitted : world.permits w c) (h : Q (w.perform c).reply (w.perform c).device.calm)
    (hp : c.isPoll = false := by rfl) (hc : c ≠ .connect := by intro h; cases h) :
    (masked c).Always world Q w := by
  refine always_masked world_polls permitted fun r w' hr => ?_
  obtain ⟨rfl, rfl⟩ := world_reacts hr hp hc
  rcases hx : (w.perform c).reply with f | x <;> rw [hx] at h
  · exact h
  · exact ⟨world_polls, h⟩

/-! ## Connecting -/

/-- How a connect ends: connected, failed for good, or out of the numbers for its attempts. -/
def Connected (policy : RetryPolicy) (w : Chip) :
    Except Fault (Except DeviceError Unit) → Chip → Prop
  | .ok (.ok ()), w' => w' = { w with connected := true }
  | .ok (.error _), w' => w' = w
  | .error f, _ => f = .overflow ∧ policy.retries.toNat = 2 ^ 32 - 1

theorem always_connected {policy : RetryPolicy} (attempts : Nat) :
    (Transfer.connectFrom.connected attempts).Always world (Connected policy w)
      { w with connected := true } := by
  unfold Transfer.connectFrom.connected
  split <;> exact rfl

theorem always_connectFrom {policy : RetryPolicy} (calm : w.calm = w)
    (free : w.fastReadActive = false) {left attempts : Nat}
    (hn : attempts + left = policy.retries.toNat + 1) :
    (Transfer.connectFrom policy.delay left attempts).Always world (Connected policy w) w := by
  have permitted : world.permits w .connect := by
    intro x hx
    simp only [perform, connect, free] at hx
    split at hx <;> cases hx
  -- one attempt, whatever comes after it
  have attempt {f : Except DeviceError Unit → Script (Except DeviceError Unit)}
      (ok : (f (.ok ())).Always world (Connected policy w) { w with connected := true })
      (error : ∀ e, (f (.error e)).Always world (Connected policy w) w) :
      (ask .connect >>= f).Always world (Connected policy w) w := by
    refine always_bind.2 (always_ask.2 ⟨permitted, ?_⟩)
    rintro r w' ⟨chip, rfl, rfl, rfl⟩
    rcases chip.calm_connect.1 with ⟨reply, device⟩ | ⟨⟨e, reply⟩, device⟩
    · rw [reply, device]
      exact ok
    · rw [reply, device]
      exact error e
  induction left generalizing attempts with
  | zero => exact attempt (always_connected attempts) fun e => rfl
  | succ left ih =>
    refine attempt (always_connected attempts) fun e => ?_
    have pause : world.permits w (.delay policy.delay) := fun x hx => by cases hx
    refine always_bind.2 (always_log.2 (always_bind.2 (always_call pause ?_)))
    show Always world _ (if attempts + 1 < 0x100000000 then
      Transfer.connectFrom policy.delay left (attempts + 1) else .fault .overflow) w.calm
    rw [calm]
    split
    · exact ih (by omega)
    · have := policy.retries.toNat_lt
      exact ⟨rfl, by omega⟩

theorem always_connect {policy : RetryPolicy} (calm : w.calm = w)
    (free : w.fastReadActive = false) :
    (Transfer.connect policy).Always world (Connected policy w) w :=
  always_connectFrom calm free (by omega)

/-! ## Reconfigurations -/

/-- The chip with other hardware held. -/
def holding (w : Chip) (connected fast : Bool) : Chip :=
  { w with connected, fastReadActive := fast }

theorem holding_of {connected fast : Bool} (hc : w.connected = connected)
    (hf : w.fastReadActive = fast) : w.holding connected fast = w := by
  subst hc hf
  rfl

theorem calm_holding (calm : w.calm = w) (connected fast : Bool) :
    (w.holding connected fast).calm = w.holding connected fast :=
  congrArg (Chip.holding · connected fast) calm

/-- The calls of a reconfiguration move the pins of the chip, and none of them faults. -/
theorem moves_holding (calm : w.calm = w) :
    Transfer.Moves world (fun p w' => w' = w.holding p.connected p.fast) fun _ _ => False where
  disconnect := by
    rintro p w' rfl
    have permitted : world.permits (w.holding p.connected p.fast) .disconnect :=
      fun x hx => by cases hx
    exact always_call permitted (congrArg (Chip.holding · false p.fast) calm)
  shutdown := by
    rintro p w' rfl
    have permitted : world.permits (w.holding p.connected p.fast) .fastReadShutdown :=
      fun x hx => by cases hx
    exact always_call permitted (congrArg (Chip.holding · p.connected false) calm)
  claim := by
    rintro p w' free rfl
    have setup : world.permits (w.holding p.connected p.fast) .fastReadSetup := by
      intro x hx
      simp only [perform, holding, free] at hx
      cases hx
    have claimed : ((w.holding p.connected p.fast).perform .fastReadSetup).device.calm =
        w.holding false true := by
      rw [free]
      exact congrArg (Chip.holding · false true) calm
    have apply : world.permits (w.holding false true) .fastReadApplyCalibration := by
      intro x hx
      simp only [perform, fastBreaches, holding] at hx
      cases hx
    refine always_bind.2 (always_call setup ?_)
    have answered : ((w.holding p.connected p.fast).perform .fastReadSetup).reply = .ok () := rfl
    rw [claimed, answered]
    have applied : (ask .fastReadApplyCalibration).Always world
        (fun r w' => r = .ok () ∧ w' = w.holding false true) (w.holding false true) :=
      always_call apply ⟨rfl, calm_holding calm false true⟩
    refine Always.mono ?_ applied
    rintro r w' ⟨rfl, rfl⟩
    exact rfl

theorem connects_holding {policy : RetryPolicy} (calm : w.calm = w) {p : Pins} {w' : Chip}
    (free : p.fast = false) (h : w' = w.holding p.connected p.fast) :
    (Transfer.connect policy).Always world (Transfer.Arrives
      (fun p w' => w' = w.holding p.connected p.fast)
      (fun f _ => f = .overflow ∧ policy.retries.toNat = 2 ^ 32 - 1) ⟨true, false⟩) w' := by
  subst h
  rw [free]
  refine Always.mono ?_ (always_connect (calm_holding calm p.connected false) rfl)
  rintro (f | ⟨e | ⟨⟩⟩) w' hr
  · exact hr
  · trivial
  · exact hr

theorem At.holding {m : Mode} (stands : w.At (.held m)) :
    w = w.holding (Pins.ofMode m).connected (Pins.ofMode m).fast :=
  (holding_of stands.1 stands.2).symm

/-! ## Changes of the stored bytes -/

/-- The chip with other bytes stored. -/
def storing (w : Chip) (m : Memory) : Chip := { w with memory := m }

theorem Matches.storing {s : Setup} (h : Matches s w) {m : Memory}
    (hm : m.size = w.profile.size.toNat) : Matches s (w.storing m) :=
  ⟨congrArg (Chip.storing · m) h.calm, h.size, h.page, h.sector, hm, h.commands, h.calibrated,
    h.latch⟩

theorem Matches.calm_begun {s : Setup} (h : Matches s w) (m : Memory) (polls : UInt32) :
    ({ w with writeEnabled := false, busy := polls, memory := m } : Chip).calm = w.storing m := by
  have off := h.latch
  have : ({ w with writeEnabled := false, busy := polls, memory := m } : Chip).calm =
      { w.calm.storing m with writeEnabled := false } := rfl
  rw [this, h.calm, ← off]
  rfl

/-- One transaction that changes the stored bytes, judged by what the call in it does while the
latch is on. -/
theorem always_change {c : Call} {m : Memory} {s : Setup} (h : Matches s w)
    (wired : w.At (.held (.serving .write)))
    (permitted : world.permits { w with writeEnabled := true } c)
    (answered : ∃ x, ({ w with writeEnabled := true }.perform c).reply = .ok x)
    (stored : ({ w with writeEnabled := true }.perform c).device.calm = w.storing m)
    (hp : c.isPoll = false := by rfl) (hc : c ≠ .connect := by intro h; cases h) :
    (Transfer.change s.commands c).Always world
      (fun r w' => r = .ok () ∧ w' = w.storing m) w := by
  obtain ⟨connected, fast⟩ := wired
  have connected : w.connected = true := connected
  have fast : w.fastReadActive = false := fast
  obtain ⟨x, reply⟩ := answered
  -- the latch is turned on and off by single commands on the connected wire
  have command {w : Chip} (hw : w.connected = true) (hf : w.fastReadActive = false) :
      world.permits w (.sendCommand commands.writeEnable) ∧
        world.permits w (.sendCommand commands.writeDisable) := by
    have on : (w.perform (.sendCommand commands.writeEnable)).breaches = w.wireBreaches .command :=
      rfl
    have off : (w.perform (.sendCommand commands.writeDisable)).breaches =
        w.wireBreaches .command := rfl
    have none : w.wireBreaches .command = [] := by simp [wireBreaches, hw, hf]
    refine ⟨fun x hx => ?_, fun x hx => ?_⟩
    · rw [on, none] at hx; cases hx
    · rw [off, none] at hx; cases hx
  have enabled : (w.perform (.sendCommand commands.writeEnable)).device.calm =
      { w with writeEnabled := true } :=
      congrArg (fun w : Chip => { w with writeEnabled := true }) h.calm
  have disabled : ((w.storing m).perform (.sendCommand commands.writeDisable)).device.calm =
      w.storing m := h.calm_begun m 0
  rw [h.commands]
  refine always_bind.2 (always_masked_call (command connected fast).1 ?_)
  rw [enabled]
  refine always_bind.2 (always_masked_call permitted ?_ hp hc)
  rw [stored, reply]
  refine And.intro world_polls ?_
  exact always_masked_call (command (w := w.storing m) connected fast).2 ⟨rfl, disabled⟩

theorem always_programPage {s : Setup} (h : Matches s w) (wired : w.At (.held (.serving .write)))
    {p : Page} (nonempty : p.data ≠ []) (inside : p.address.toNat < s.geometry.totalSize.toNat)
    (fits : p.address.toNat % s.geometry.pageSize.toNat + p.data.length ≤
      s.geometry.pageSize.toNat) :
    (Transfer.programPage s.commands p).Always world
      (fun r w' => r = .ok () ∧ w' = w.storing (Geometry.programHeld w.memory p)) w := by
  have pos := s.geometry.pageSize_pos
  have bound := s.geometry.pageSize.toNat_lt
  have length : 0 < p.data.length := List.length_pos_iff.2 nonempty
  have space := s.geometry.page_addresses fits
  have size : (UInt32.ofNat p.data.length).toNat = p.data.length :=
    UInt32.toNat_ofNat_of_lt' (by show _ < 2 ^ 32; omega)
  rw [h.page] at pos fits
  have last : ¬ 4294967296 ≤ p.address.toNat + (p.data.length - 1) := by omega
  have some : w.profile.pageSize ≠ 0 := fun h => by rw [h] at pos; cases pos
  have same : p.address.toNat / w.profile.pageSize.toNat =
      (p.address.toNat + (p.data.length - 1)) / w.profile.pageSize.toNat := by
    have hd := Nat.div_add_mod p.address.toNat w.profile.pageSize.toNat
    refine (Nat.div_eq_of_lt_le ?_ ?_).symm
    · rw [Nat.mul_comm]; omega
    · rw [Nat.succ_mul, Nat.mul_comm]; omega
  obtain ⟨connected, fast⟩ := wired
  have connected : w.connected = true := connected
  have fast : w.fastReadActive = false := fast
  have past : w.memory.holds p.address.toNat p.data.length = false →
      ¬ w.profile.IsWhole := by
    intro held whole
    simp only [Memory.holds, decide_eq_false_iff_not, h.memory] at held
    rw [h.size] at inside
    exact held (Geometry.page_inside whole.1 inside fits)
  refine always_bind.2 (always_log.2 (always_change h ⟨connected, fast⟩ ?_ ?_ ?_))
  · intro x hx
    cases held : w.memory.holds p.address.toNat p.data.length <;>
      simp [perform, programPage, wireBreaches, begin, size, last, some, same, connected, fast,
        held] at hx
    subst hx
    exact past held
  · refine ⟨(), ?_⟩
    cases held : w.memory.holds p.address.toNat p.data.length <;>
      simp [perform, programPage, begin, size, last, some, held]
  · cases held : w.memory.holds p.address.toNat p.data.length <;>
      simp [perform, programPage, begin, size, last, some, held, Geometry.programHeld]
    all_goals exact h.calm_begun _ _

theorem always_eraseSector {s : Setup} (h : Matches s w) (wired : w.At (.held (.serving .write)))
    {e : SectorErase} (aligned : e.address.toNat % 4096 = 0)
    (inside : e.address.toNat < s.geometry.totalSize.toNat) :
    (Transfer.eraseSector s.commands e).Always world
      (fun r w' => r = .ok () ∧ w' = w.storing (Geometry.eraseHeld w.memory e)) w := by
  have start : (e.address.toUInt64 &&& ~~~(sectorSize.toUInt64 - 1)).toNat = e.address.toNat := by
    have mask : (~~~(sectorSize.toUInt64 - 1)).toNat = 2 ^ 64 - 2 ^ 12 := by decide
    have := e.address.toNat_lt
    rw [UInt64.toNat_and, mask, UInt32.toNat_toUInt64, Geometry.and_high_mask (by omega) (by omega)]
    omega
  have onSector : e.address % sectorSize = 0 := by
    refine UInt32.toNat_inj.1 ?_
    rw [UInt32.toNat_mod]
    exact aligned
  have some : sectorSize ≠ 0 := by decide
  obtain ⟨connected, fast⟩ := wired
  have connected : w.connected = true := connected
  have fast : w.fastReadActive = false := fast
  have past : w.memory.holds e.address.toNat sectorSize.toNat = false → ¬ w.profile.IsWhole := by
    intro held whole
    simp only [Memory.holds, decide_eq_false_iff_not, h.memory] at held
    rw [h.size] at inside
    have whole := whole.2
    exact held (Geometry.page_inside whole inside (by show _ + 4096 ≤ 4096; omega))
  refine always_bind.2 (always_log.2 (always_change h ⟨connected, fast⟩ ?_ ?_ ?_))
  · intro x hx
    cases held : w.memory.holds e.address.toNat sectorSize.toNat <;>
      simp [perform, eraseSector, wireBreaches, begin, h.sector, start, onSector, some, connected,
        fast, held] at hx
    subst hx
    exact past held
  · refine ⟨(), ?_⟩
    cases held : w.memory.holds e.address.toNat sectorSize.toNat <;>
      simp [perform, eraseSector, begin, h.sector, start, some, held]
  · cases held : w.memory.holds e.address.toNat sectorSize.toNat <;>
      simp [perform, eraseSector, begin, h.sector, start, some, held, Geometry.eraseHeld]
    all_goals exact h.calm_begun _ _

theorem always_eraseAll {s : Setup} (h : Matches s w) (wired : w.At (.held (.serving .write))) :
    (Transfer.change s.commands (.sendCommand s.commands.chipErase)).Always world
      (fun r w' => r = .ok () ∧ w' = w.storing w.memory.eraseAll) w := by
  obtain ⟨connected, fast⟩ := wired
  have connected : w.connected = true := connected
  have fast : w.fastReadActive = false := fast
  have command : commands.chipErase ≠ commands.writeEnable ∧
      commands.chipErase ≠ commands.writeDisable := by decide
  refine always_change h ⟨connected, fast⟩ ?_ ⟨(), ?_⟩ ?_
  · intro x hx
    simp [h.commands, perform, sendCommand, wireBreaches, command, connected, fast] at hx
  · simp [h.commands, perform, sendCommand, command]
  · simp [h.commands, perform, sendCommand, begin, command]
    exact h.calm_begun _ _

/-- One change after the other, each as `f` tells. -/
theorem always_each_storing {α : Type} {s : Setup} {act : α → Script Unit}
    {f : Memory → α → Memory} (size : ∀ m x, (f m x).size = m.size) {P : α → Prop}
    (hf : ∀ {w : Chip} {x : α}, Matches s w → w.At (.held (.serving .write)) → P x →
      (act x).Always world (fun r w' => r = .ok () ∧ w' = w.storing (f w.memory x)) w)
    (h : Matches s w) (wired : w.At (.held (.serving .write))) {l : List α} (hl : ∀ x ∈ l, P x) :
    (each act l).Always world
      (fun r w' => r = .ok () ∧ w' = w.storing (l.foldl f w.memory)) w := by
  induction l generalizing w with
  | nil => exact ⟨rfl, rfl⟩
  | cons x l ih =>
    refine always_bind.2 (Always.mono ?_ (hf h wired (hl x (by simp))))
    rintro r w' ⟨rfl, rfl⟩
    have next := h.storing (m := f w.memory x) (by rw [size, h.memory])
    exact ih next wired fun y hy => hl y (by simp [hy])

theorem always_write {s : Setup} (h : Matches s w) (wired : w.At (.held (.serving .write)))
    (address : UInt32) (data : List UInt8) :
    (Transfer.write s.geometry s.commands address data).Always world (fun r w' => match r with
      | .ok _ => w' = w.storing ((Operation.write address data).effect s.geometry w.memory)
      | .error f => f = .overflow ∧ ¬ w.profile.IsWhole) w := by
  refine always_bind.2 (always_log.2 (always_bind.2 (Always.mono ?_
    (always_each_storing (P := fun p : Page => p ∈ (s.geometry.writePlan address data).pages)
      Geometry.size_programHeld (fun {w' p} h' wired' hp => ?_) h wired fun _ hp => hp))))
  · rintro r w' ⟨rfl, rfl⟩
    show Always world _ _ _
    dsimp only
    split
    · exact rfl
    · exact rfl
    next ending =>
      refine ⟨rfl, fun whole => ?_⟩
      rw [Profile.IsWhole, ← h.size, ← h.page] at whole
      exact s.geometry.ending_ne_overflow (fun p => s.geometry.pages_inside whole.1) ending
  · obtain ⟨nonempty, inside, fits⟩ := s.geometry.page_of_writePlan hp
    exact always_programPage h' wired' nonempty inside fits

theorem always_erase {s : Setup} (h : Matches s w) (wired : w.At (.held (.serving .write)))
    (address : UInt32) (length : Nat) :
    (Transfer.erase s.geometry s.commands address length).Always world (fun r w' =>
      r.isOk = true ∧ w' = w.storing ((Operation.erase address length).effect s.geometry w.memory))
      w := by
  have aligned : (Geometry.alignErase address length).1.toNat % 4096 = 0 := by
    rw [(Geometry.alignErase_eq address length).1]
    omega
  simp only [Operation.effect]
  refine always_bind.2 (always_log.2 ?_)
  split
  · refine always_bind.2 (always_log.2 (always_bind.2 (Always.mono ?_ (always_eraseAll h wired))))
    rintro r w' ⟨rfl, rfl⟩
    exact ⟨rfl, rfl⟩
  · have sectors : (each (Transfer.eraseSector s.commands)
        (s.geometry.sectorsFrom (Geometry.alignErase address length).1
          (Geometry.alignErase address length).2)).Always world _ w :=
      always_each_storing (P := fun e : SectorErase => e.address.toNat % 4096 = 0 ∧
          e.address.toNat < s.geometry.totalSize.toNat) Geometry.size_eraseHeld
        (fun h' wired' he => always_eraseSector h' wired' he.1 he.2) h wired
        fun e he => s.geometry.sector_of_sectorsFrom aligned he
    simp only
    split
    · refine always_bind.2 (always_log.2 (always_bind.2 (Always.mono ?_ sectors)))
      rintro r w' ⟨rfl, rfl⟩
      exact ⟨rfl, rfl⟩
    · refine always_bind.2 (Always.mono ?_ sectors)
      rintro r w' ⟨rfl, rfl⟩
      exact ⟨rfl, rfl⟩

/-! ## Reads -/

/-- A read in chunks whose fetches hand over the bytes of their pieces. -/
theorem always_readChunked {g : Geometry} {chunk : Nat} {address : UInt32} {buffer : List UInt8}
    {fetch : Piece → List UInt8 → Script (List UInt8)} {byte : Nat → UInt8} {P : Chip → Prop}
    (fetched : ∀ (p : Piece) (part : List UInt8) (w : Chip), P w → part.length = p.length →
      p.address.toNat + p.length ≤ g.totalSize.toNat → (fetch p part).Always world (fun r w =>
        r = .ok ((List.range' p.address.toNat p.length).map byte) ∧ P w) w) (h : P w) :
    (Transfer.readChunked g chunk fetch address buffer).Always world (fun r w =>
      r = .ok (Geometry.shown byte g.totalSize.toNat address.toNat buffer.length) ∧ P w) w := by
  -- what is filled, with what the pieces to come hand over, is the answer
  let I (rest : List Piece) (bytes : List UInt8) (w : Chip) : Prop :=
    P w ∧ (∀ p ∈ rest, p.address.toNat + p.length ≤ g.totalSize.toNat) ∧
      bytes ++ rest.flatMap (fun p => (List.range' p.address.toNat p.length).map byte ++
        List.replicate p.fill erasedByte) =
        Geometry.shown byte g.totalSize.toNat address.toNat buffer.length
  refine Always.mono ?_ (Transfer.always_readChunked (I := I) (E := fun _ _ => False) ?_ ?_ ?_)
  · rintro (f | bytes) w hr
    · exact hr.elim
    · obtain ⟨hw, -, total⟩ := hr
      rw [List.flatMap_nil, List.append_nil] at total
      exact ⟨congrArg Except.ok total, hw⟩
  · rintro p rest bytes w ⟨hw, inside, total⟩ hl
    refine ⟨hw, fun q hq => inside q (List.mem_cons_of_mem _ hq), ?_⟩
    rw [List.flatMap_cons, hl] at total
    simpa using total
  · rintro p rest bytes w part ⟨hw, inside, total⟩ - hp
    refine Always.mono ?_ (fetched p part w hw hp (inside p (by simp)))
    rintro r w' ⟨rfl, hw'⟩
    refine ⟨hw', fun q hq => inside q (List.mem_cons_of_mem _ hq), ?_⟩
    rw [List.flatMap_cons] at total
    simpa using total
  · exact ⟨h, fun p hp => g.piece_inside hp, by
      rw [List.nil_append, Geometry.pieces, g.flatMap_piecesFrom]⟩

/-- A held range is handed over by the normal transport as it is stored. -/
theorem always_readRaw {s : Setup} (h : Matches s w) (wired : w.At (.held (.serving .read)))
    {p : Piece} {part : List UInt8} (hp : part.length = p.length)
    (inside : p.address.toNat + p.length ≤ s.geometry.totalSize.toNat) :
    (masked (.readRaw s.commands.read p.address part)).Always world (fun r w' =>
      r = .ok ((List.range' p.address.toNat p.length).map w.memory.byte) ∧ w' = w) w := by
  obtain ⟨connected, fast⟩ := wired
  have connected : w.connected = true := connected
  have fast : w.fastReadActive = false := fast
  have held : w.memory.holds p.address.toNat part.length = true := by
    rw [h.size] at inside
    simpa [Memory.holds, h.memory, hp] using inside
  have known : (commands.read == Opcode.read || commands.read == Opcode.fastRead ||
      commands.read == Opcode.qior) = true := by decide
  have permitted : world.permits w (.readRaw commands.read p.address part) := by
    intro x hx
    simp [perform, readRaw, wireBreaches, connected, fast, held, known] at hx
  rw [h.commands]
  refine always_masked_call permitted ?_
  simp only [perform, readRaw, held, if_true]
  exact ⟨by rw [Memory.slice, hp]; rfl, h.calm⟩

theorem always_read {s : Setup} (h : Matches s w) (wired : w.At (.held (.serving .read)))
    (address : UInt32) (buffer : List UInt8) :
    (Transfer.read s.geometry s.commands s.readChunk address buffer).Always world (fun r w' =>
      r = .ok (Geometry.shown w.memory.byte s.geometry.totalSize.toNat address.toNat
        buffer.length) ∧ w' = w) w := by
  refine always_bind.2 (always_log.2 (always_readChunked (P := (· = w)) ?_ rfl))
  rintro p part w' rfl hp inside
  exact always_readRaw h wired hp inside

/-- The chip in another submode of the fast-read hardware. -/
def selecting (w : Chip) (m : Submode) : Chip := { w with submode := m }

theorem Matches.selecting {s : Setup} (h : Matches s w) (m : Submode) :
    Matches s (w.selecting m) :=
  ⟨congrArg (Chip.selecting · m) h.calm, h.size, h.page, h.sector, h.memory, h.commands,
    h.calibrated, h.latch⟩

theorem always_select {α : Type} {Q : Except Fault α → Chip → Prop} {rest : Script α}
    (calm : w.calm = w) (m : Submode) (h : rest.Always world Q (w.selecting m)) :
    Always world Q (do ask (.fastReadSetMode m); rest) w := by
  have permitted : world.permits w (.fastReadSetMode m) := fun x hx => by cases hx
  have selected : (w.perform (.fastReadSetMode m)).device.calm = w.selecting m :=
    congrArg (Chip.selecting · m) calm
  refine always_bind.2 (always_call permitted ?_)
  rw [selected]
  exact h

/-- A held range is handed over by the fast-read hardware in its submode. -/
theorem always_fastReadCall {s : Setup} (h : Matches s w) (connected : w.connected = false)
    (fast : w.fastReadActive = true) (calibrated : w.calibrated = true) {p : Piece}
    {part : List UInt8} (hp : part.length = p.length)
    (inside : p.address.toNat + p.length ≤ s.geometry.totalSize.toNat) :
    (masked (.fastRead p.address part)).Always world (fun r w' =>
      r = .ok ((List.range' p.address.toNat p.length).map fun i =>
        w.submode.apply (w.memory.byte i)) ∧ w' = w) w := by
  have held : w.memory.holds p.address.toNat part.length = true := by
    rw [h.size] at inside
    simpa [Memory.holds, h.memory, hp] using inside
  have permitted : world.permits w (.fastRead p.address part) := by
    intro x hx
    simp [perform, Chip.fastRead, fastBreaches, connected, fast, calibrated, held] at hx
  refine always_masked_call permitted ?_
  simp only [perform, Chip.fastRead, held, if_true]
  exact ⟨by rw [Memory.slice, hp, List.map_map]; rfl, h.calm⟩

theorem always_fastRead {s : Setup} (h : Matches s w) (connected : w.connected = false)
    (fast : w.fastReadActive = true) (calibrated : w.calibrated = true)
    (address : UInt32) (buffer : List UInt8) :
    (Transfer.fastRead s.geometry s.readChunk address buffer none).Always world (fun r w' =>
      r = .ok (Geometry.shown (fun i => w.submode.apply (w.memory.byte i))
        s.geometry.totalSize.toNat address.toNat buffer.length) ∧ w' = w) w := by
  refine always_bind.2 (always_log.2 (always_readChunked (P := (· = w)) ?_ rfl))
  rintro p part w' rfl hp inside
  exact always_fastReadCall h connected fast calibrated hp inside

/-- A read through the fast-read hardware that selects the submode before every chunk. -/
theorem always_fastRead_in {s : Setup} (h : Matches s w) (connected : w.connected = false)
    (fast : w.fastReadActive = true) (calibrated : w.calibrated = true)
    (address : UInt32) (buffer : List UInt8) (m : Submode) :
    (Transfer.fastRead s.geometry s.readChunk address buffer (some m)).Always world (fun r w' =>
      r = .ok (Geometry.shown (fun i => m.apply (w.memory.byte i))
        s.geometry.totalSize.toNat address.toNat buffer.length) ∧ ∃ m, w' = w.selecting m) w := by
  refine always_bind.2 (always_log.2
    (always_readChunked (P := fun w' => ∃ m, w' = w.selecting m) ?_ ⟨w.submode, rfl⟩))
  rintro p part w' ⟨m', rfl⟩ hp inside
  refine always_select (h.selecting m').calm m (Always.mono ?_
    (always_fastReadCall (h.selecting m) connected fast calibrated hp inside))
  rintro r w' ⟨rfl, rfl⟩
  exact ⟨rfl, m, rfl⟩

/-! ## Operations -/

/-- How an operation ends: with its answer and its effect, or in a write that runs out of
addresses. -/
def Performed (s : Setup) (o : Operation) (w : Chip) :
    Except Fault (List UInt8) → Chip → Prop
  | .ok bytes, w' => bytes = o.reply s.geometry w.memory ∧
    ∃ m, w' = (w.storing (o.effect s.geometry w.memory)).selecting m
  | .error f, _ => f = .overflow ∧ ¬ w.profile.IsWhole

/-- An operation on hardware that is set up for it. -/
theorem always_perform {s : Setup} (h : Matches s w) {o : Operation}
    (stands : w.At (.held (.serving o.kind))) (fits : o.Fits s) :
    (Control.perform s o).Always world (Performed s o w) w := by
  cases o with
  | read address length =>
    refine Always.mono ?_ (always_read h stands address (Control.zeros length))
    rintro r w' ⟨rfl, rfl⟩
    exact ⟨by rw [Control.zeros, List.length_replicate]; rfl, w'.submode, rfl⟩
  | fastRead m address length =>
    have calibrated := h.calibrated (fits rfl)
    refine always_select h.calm m (Always.mono ?_
      (always_fastRead (h.selecting m) stands.1 stands.2 calibrated address (Control.zeros length)))
    rintro r w' ⟨rfl, rfl⟩
    exact ⟨by rw [Control.zeros, List.length_replicate]; rfl, m, rfl⟩
  | write address data =>
    refine always_bind.2 (Always.mono ?_ (always_write h stands address data))
    rintro (f | n) w' hr
    · exact hr
    · obtain rfl : w' = _ := hr
      exact ⟨rfl, w.submode, rfl⟩
  | erase address length =>
    refine always_bind.2 (Always.mono ?_ (always_erase h stands address length))
    rintro (f | n) w' ⟨ok, rfl⟩
    · cases ok
    · exact ⟨rfl, w.submode, rfl⟩

end Chip

end FlashGate

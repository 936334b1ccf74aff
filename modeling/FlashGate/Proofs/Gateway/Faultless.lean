/-
A gate whose jobs stay inside of the chip, while no connect fails. Main statement:
`faultless_of_reach`, that no fault hits its dispatcher and that the chip reports nothing, also
where the chip ends inside of a page or of a sector.
-/
import FlashGate.Proofs.Conformance
import FlashGate.Proofs.Faults

namespace FlashGate

/-- The operations whose pages and sectors lie inside of the device, told by their range. -/
theorem Operation.staysInside_of_range {g : Geometry} {address : UInt32} {length : Nat}
    (h : address.toNat + length ≤ g.totalSize.toNat / 4096 * 4096) :
    (Operation.erase address length).StaysInside g ∧
      ∀ data : List UInt8, data.length = length → (Operation.write address data).StaysInside g := by
  constructor
  · have inside := (g.sectors_inside_iff address length).2 (.inr (.inr h))
    have sectors := g.sectors_of_erase address length
    intro s hs
    have hs : s.address.toNat ∈ (g.sectorsFrom (Geometry.alignErase address length).1
        (Geometry.alignErase address length).2).map (·.address.toNat) := List.mem_map_of_mem hs
    rw [sectors] at hs
    obtain ⟨i, hi, place⟩ := List.mem_map.1 hs
    have := inside i (List.mem_range.1 hi)
    omega
  · rintro data rfl
    exact (g.pages_inside_iff address data).2 (.inr (.inr (by omega)))

namespace Chip

open Script

/-! ## The world of a chip that is not overrun -/

/-- Whether a call that changes bytes at an address keeps to so many bytes. -/
def KeepsTo (size : Nat) : Call → Prop
  | .programPage _ address data => address.toNat + data.length ≤ size
  | .eraseSector _ address => address.toNat + 4096 ≤ size
  | _ => True

/-- Whether a call is answered, and a connect succeeds. -/
def Succeeds : (c : Call) → Except Fault c.Reply → Prop
  | .connect, r => r = .ok (.ok ())
  | _, r => r.isOk = true

/-- The world of an observer who knows that the calls which keep to so many bytes succeed. -/
def faultless (size : Nat) : World Unit where
  permits _ := KeepsTo size
  reacts _ c r _ := Succeeds c r

theorem obliging_faultless (size : Nat) : (faultless size).Obliging where
  passes c hc := by cases c <;> trivial
  answers c r h := by
    cases c
    case connect =>
      rw [show r = .ok (.ok ()) from h]
      rfl
    all_goals exact h

/-- Whether the breach is a change of bytes past the end. -/
def pastEnd : Breach → Bool
  | .programPastEnd _ => true
  | .erasePastEnd _ => true
  | _ => false

/-- A chip of so many bytes whose next connect succeeds. -/
structure Unharmed (size : Nat) (chip : Chip) : Prop where
  ready : chip.connectFailuresLeft = 0
  page : chip.profile.pageSize ≠ 0
  sector : chip.profile.sectorSize = 4096
  memory : chip.memory.size = size
  bound : size < 2 ^ 32

/-- What comes of a call that keeps to the bytes of an unharmed chip: it succeeds, the chip is
unharmed as before, and reports nothing changed past its end. -/
structure GoesWell (size : Nat) {c : Call} (o : Outcome Chip c) : Prop where
  succeeds : Succeeds c o.reply
  unharmed : Unharmed size o.device
  inside : ∀ x ∈ o.breaches, pastEnd x = false

variable {chip : Chip} {size : Nat}

theorem inside_wire (chip : Chip) (a : Activity) :
    ∀ x ∈ chip.wireBreaches a, pastEnd x = false := by
  unfold wireBreaches
  split <;> split <;> simp [pastEnd]

theorem inside_fast (chip : Chip) (a : Activity) :
    ∀ x ∈ chip.fastBreaches a, pastEnd x = false := by
  unfold fastBreaches
  split <;> split <;> simp [pastEnd]

theorem inside_ite {p : Prop} [Decidable p] {x : Breach} (hx : pastEnd x = false) :
    ∀ y ∈ if p then [] else [x], pastEnd y = false := by
  split <;> simp [hx]

theorem goesWell_ite {c : Call} {p : Prop} [Decidable p] {o o' : Outcome Chip c}
    (ho : GoesWell size o) (ho' : GoesWell size o') : GoesWell size (if p then o else o') := by
  split
  · exact ho
  · exact ho'

theorem Unharmed.storing (h : Unharmed size chip) {m : Memory} (hm : m.size = size) :
    Unharmed size { chip.begin with memory := m } :=
  ⟨h.ready, h.page, h.sector, hm, h.bound⟩

theorem Unharmed.programPage (h : Unharmed size chip) (command : UInt8) {address : UInt32}
    {data : List UInt8} (keeps : address.toNat + data.length ≤ size) :
    GoesWell size (chip.programPage command address data) := by
  have bound := h.bound
  have small : ¬ 0x100000000 ≤ address.toNat + ((UInt32.ofNat data.length).toNat - 1) := by
    rw [UInt32.toNat_ofNat']
    have := Nat.mod_le data.length (2 ^ 32)
    omega
  have holds : chip.begin.memory.holds address.toNat data.length = true := by
    have : chip.begin.memory.size = size := h.memory
    simpa [Memory.holds, this] using keeps
  have known := List.forall_mem_append.2 ⟨inside_wire chip .pageProgram,
    inside_ite (p := address.toNat / chip.profile.pageSize.toNat = (address.toNat +
      ((UInt32.ofNat data.length).toNat - 1)) / chip.profile.pageSize.toNat)
      (x := .crossesPage address) rfl⟩
  unfold Chip.programPage
  simp only [small, h.page, holds, if_true, if_false]
  split
  · exact ⟨rfl, h.storing (by rw [Memory.size_program]; exact h.memory), known⟩
  · exact ⟨rfl, h, List.forall_mem_append.2 ⟨known, by simp [pastEnd]⟩⟩

theorem Unharmed.eraseSector (h : Unharmed size chip) (command : UInt8) {address : UInt32}
    (keeps : address.toNat + 4096 ≤ size) :
    GoesWell size (chip.eraseSector command address) := by
  have holds : chip.begin.memory.holds
      (address.toUInt64 &&& ~~~(chip.profile.sectorSize.toUInt64 - 1)).toNat
      chip.profile.sectorSize.toNat = true := by
    have : chip.begin.memory.size = size := h.memory
    have low : (address.toUInt64 &&& ~~~(chip.profile.sectorSize.toUInt64 - 1)).toNat ≤
        address.toNat := by
      rw [UInt64.toNat_and]
      exact Nat.and_le_left
    have sector : chip.profile.sectorSize.toNat = 4096 := by rw [h.sector]; rfl
    simp only [Memory.holds, this, sector, decide_eq_true_eq]
    omega
  have known := List.forall_mem_append.2 ⟨inside_wire chip .sectorErase,
    inside_ite (p := address % chip.profile.sectorSize = 0) (x := .unalignedErase address) rfl⟩
  have some : chip.profile.sectorSize ≠ 0 := by rw [h.sector]; decide
  unfold Chip.eraseSector
  simp only [some, holds, if_true, if_false]
  split
  · exact ⟨rfl, h.storing (by rw [Memory.size_erase]; exact h.memory), known⟩
  · exact ⟨rfl, h, List.forall_mem_append.2 ⟨known, by simp [pastEnd]⟩⟩

theorem Unharmed.same (h : Unharmed size chip) {chip' : Chip}
    (profile : chip'.profile = chip.profile)
    (memory : chip'.memory = chip.memory)
    (ready : chip'.connectFailuresLeft = chip.connectFailuresLeft) : Unharmed size chip' :=
  ⟨ready.trans h.ready, by rw [profile]; exact h.page, by rw [profile]; exact h.sector,
    by rw [memory]; exact h.memory, h.bound⟩

theorem Unharmed.sendCommand (h : Unharmed size chip) (command : UInt8) :
    GoesWell size (chip.sendCommand command) := by
  have wire := inside_wire chip .command
  have known (w : Bool) : GoesWell (c := .sendCommand command) size
      ⟨.ok (), { chip with writeEnabled := w }, chip.wireBreaches .command⟩ :=
    ⟨rfl, h.same rfl rfl rfl, wire⟩
  have unknown {x : Breach} (hx : pastEnd x = false) : GoesWell (c := .sendCommand command) size
      ⟨.ok (), chip, chip.wireBreaches .command ++ [x]⟩ :=
    ⟨rfl, h, List.forall_mem_append.2 ⟨wire, by simp [hx]⟩⟩
  exact goesWell_ite (known true) (goesWell_ite (known false) (goesWell_ite (goesWell_ite
    ⟨rfl, h.storing (by rw [Memory.size_eraseAll]; exact h.memory), wire⟩ (unknown rfl))
      (unknown rfl)))

theorem Unharmed.readRaw (h : Unharmed size chip) (command : UInt8) (address : UInt32)
    (buffer : List UInt8) : GoesWell size (chip.readRaw command address buffer) := by
  have known := List.forall_mem_append.2 ⟨inside_wire chip .read,
    inside_ite (p := (command == Opcode.read || command == Opcode.fastRead ||
      command == Opcode.qior) = true) (x := .unsupportedReadCommand command) rfl⟩
  exact goesWell_ite ⟨rfl, h, known⟩
    ⟨rfl, h, List.forall_mem_append.2 ⟨known, by simp [pastEnd]⟩⟩

theorem Unharmed.fastRead (h : Unharmed size chip) (address : UInt32) (buffer : List UInt8) :
    GoesWell size (chip.fastRead address buffer) := by
  have known := List.forall_mem_append.2 ⟨inside_fast chip .fastRead,
    inside_ite (p := chip.calibrated = true) (x := .uncalibrated) rfl⟩
  exact goesWell_ite ⟨rfl, h, known⟩
    ⟨rfl, h, List.forall_mem_append.2 ⟨known, by simp [pastEnd]⟩⟩

theorem Unharmed.connect (h : Unharmed size chip) : GoesWell size chip.connect := by
  unfold Chip.connect
  rw [if_neg (by rw [h.ready]; decide)]
  refine ⟨rfl, h.same rfl rfl rfl, ?_⟩
  split <;> simp [pastEnd]

/-- A call that keeps to the bytes of an unharmed chip goes well. -/
theorem Unharmed.perform (h : Unharmed size chip) {c : Call} (keeps : KeepsTo size c) :
    GoesWell size (chip.perform c) := by
  cases c with
  | connect => exact h.connect
  | readRaw command address buffer => exact h.readRaw command address buffer
  | sendCommand command => exact h.sendCommand command
  | programPage command address data => exact h.programPage command keeps
  | eraseSector command address => exact h.eraseSector command keeps
  | fastRead address buffer => exact h.fastRead address buffer
  | quadEnable => exact ⟨rfl, h, inside_wire _ .quadEnable⟩
  | fastReadCalibrate address => exact ⟨rfl, h.same rfl rfl rfl, inside_fast _ .calibration⟩
  | fastReadApplyCalibration => exact ⟨rfl, h, inside_fast _ .applyCalibration⟩
  | fastReadSetup =>
    refine ⟨rfl, h.same rfl rfl rfl, ?_⟩
    show ∀ x ∈ if chip.connected = true then [Breach.setupWhileConnected] else [], _
    split <;> simp [pastEnd]
  | isBusy => exact goesWell_ite ⟨rfl, h.same rfl rfl rfl, by simp⟩ ⟨rfl, h, by simp⟩
  | _ => exact ⟨rfl, h.same rfl rfl rfl, by simp [Chip.perform]⟩

/-! ## The judgement -/

/-- What is seen of an unharmed chip: nothing was changed past its end. -/
def SeenInside (size : Nat) (b : Bus Chip) : Prop :=
  Unharmed size b.device ∧ ∀ x ∈ breachesIn b.journal.toList, pastEnd x = false

theorem faultless_shows (size : Nat) (who : Actor) :
    (faultless size).Shows transport who fun b _ => SeenInside size b where
  call := by
    rintro b w c ⟨unharmed, inside⟩ keeps
    obtain ⟨succeeds, unharmed', more⟩ := unharmed.perform keeps
    refine ⟨(), succeeds, unharmed', ?_⟩
    rw [Bus.toList_journal_call, breachesIn_append]
    refine List.forall_mem_append.2 ⟨inside, fun x hx => ?_⟩
    have reported : x ∈ (transport.perform b.device c).breaches := by
      simpa [breachesIn, Event.breach?, List.filterMap_map, Function.comp_def] using hx
    exact more x reported
  log := by
    rintro b w l ⟨unharmed, inside⟩
    refine ⟨unharmed, fun x hx => inside x ?_⟩
    simpa [Bus.log, Bus.toList_journal_record, breachesIn, Event.breach?] using hx

variable {s : Setup}

/-- In the world of a faultless chip a connect succeeds. -/
theorem always_connect_faultless (policy : RetryPolicy) :
    (Transfer.connect policy).Always (faultless size) (fun r _ => r = .ok (.ok ())) () := by
  have connected (attempts : Nat) : (Transfer.connectFrom.connected attempts).Always
      (faultless size) (fun r _ => r = .ok (.ok ())) () := by
    unfold Transfer.connectFrom.connected
    exact always_ite (always_bind.2 (always_log.2 rfl)) rfl
  unfold Transfer.connect
  cases policy.retries.toNat with
  | zero =>
    refine always_bind.2 (always_ask.2 ⟨trivial, ?_⟩)
    rintro _ _ rfl
    exact connected _
  | succ left =>
    refine always_bind.2 (always_ask.2 ⟨trivial, ?_⟩)
    rintro _ _ rfl
    exact connected _

theorem always_reconfigure_faultless (steps : Reconfiguration) (policy : RetryPolicy) :
    (Transfer.reconfigure steps policy).Always (faultless size) (fun r _ => r = .ok (.ok ())) () :=
  Transfer.always_reconfigure_obliging (obliging_faultless size) rfl
    (always_connect_faultless policy)

/-- A job that stays inside of the device never faults. -/
theorem faultsIn_serve_faultless {m : Mode} {o : Operation} (inside : o.StaysInside s.geometry) :
    (Control.serve s m o).FaultsIn (faultless s.geometry.totalSize.toNat) fun _ => False := by
  have obliging := obliging_faultless s.geometry.totalSize.toNat
  refine always_bind.2 (Always.mono ?_ (always_reconfigure_faultless _ _))
  rintro _ _ rfl
  refine Transfer.faultsIn_perform obliging ?_ ?_
  · rintro address data rfl
    refine (Transfer.faultsIn_write obliging fun p hp => inside p hp).mono fun f ⟨_, out⟩ => ?_
    have ending := s.geometry.ending_of_writePlan address data
    rw [if_pos out] at ending
    exact s.geometry.ending_ne_overflow inside ending
  · rintro address length rfl
    exact Transfer.faultsIn_erase obliging fun sector hs => inside sector hs

/-- The judgement of a gate over an unharmed chip, whose jobs stay inside of the chip. -/
def faultlessJudgement (s : Setup) : Judgement transport Gate.undisturbed s Unit where
  W _ := faultless s.geometry.totalSize.toNat
  Seen _ b _ := SeenInside s.geometry.totalSize.toNat b
  shows _ := faultless_shows _
  aside := fun aside ⟨unharmed, inside⟩ => ⟨unharmed, by rwa [breachesIn_aside aside]⟩
  outside h := h.elim
  sentinel _ h := h
  Rest _ _ _ := True
  Served _ _ _ _ := True
  May _ := False
  Admits j := j.operation.StaysInside s.geometry
  serve _ _ inside := by
    refine Always.mono (fun r w h => ?_) (faultsIn_serve_faultless inside)
    cases r with
    | ok bytes => trivial
    | error f => exact h f rfl
  served := fun _ ⟨unharmed, inside⟩ => ⟨⟨unharmed, by rwa [breachesIn_answer]⟩, trivial⟩
  release _ := by
    refine always_bind.2 (Always.mono ?_ (always_reconfigure_faultless _ _))
    rintro _ _ rfl
    exact fun _ _ => trivial
  setUp _ _ := Always.mono (fun _ _ _ => trivial)
    (always_asked (obliging_faultless _) (Q := fun _ _ => True) rfl fun _ =>
      always_asked (obliging_faultless _) rfl fun _ => always_bind.2 (always_log.2 trivial))
  read _ := Always.mono (fun _ _ _ => trivial)
    (Transfer.faultsIn_fastRead (F := fun _ => False) (obliging_faultless _) _ _)
  shutDown _ := Always.mono (fun r _ _ => by cases r <;> trivial)
    (always_asked (obliging_faultless _) (Q := fun _ _ => True) rfl fun _ => trivial)

end Chip

/-! ## Runs -/

open Chip Script

/-- Bring-up changes no bytes at an address. -/
theorem always_bringUp_faultless (config : Config) (size : Nat) :
    (BringUp.script config).Always (faultless size) (fun _ _ => True) () := by
  have obliging := obliging_faultless size
  have shutdown (st : Strategy) : Always (α := Strategy) (faultless size) (fun _ _ => True) (do
      ask .fastReadShutdown; return st) () :=
    always_asked obliging (c := .fastReadShutdown) rfl fun _ => trivial
  have calibrates (fast : FastReadConfig) :
      (BringUp.calibrate fast).Always (faultless size) (fun _ _ => True) () := by
    refine always_asked obliging (c := .fastReadSetup) rfl fun _ =>
      always_asked obliging (c := .fastReadCalibrate _) rfl ?_
    rintro (e | ⟨⟩)
    · exact always_bind.2 (always_log.2 (shutdown _))
    · exact shutdown _
  refine always_bind.2 (Always.mono ?_ (always_connect_faultless _))
  rintro _ _ rfl
  show Always (faultless size) _ _ ()
  refine always_asked obliging (c := .flashSize) rfl fun total =>
    always_asked obliging (c := .pageSize) rfl fun page =>
      always_asked obliging (c := .sectorSize) rfl fun sector => ?_
  split
  · trivial
  · refine always_asked obliging (c := .quadEnable) rfl ?_
    rintro (e | ⟨⟩)
    · trivial
    · refine always_asked obliging (c := .disconnect) rfl fun _ => always_bind.2 ?_
      unfold BringUp.strategy
      split
      · refine Always.mono (fun r _ _ => ?_) (calibrates _)
        cases r <;> trivial
      · trivial

/-- A gate over a chip whose connects succeed opens with nothing changed past the end of the chip.
-/
theorem seenInside_of_start {profile : Profile} {data : List UInt8} {config : Config}
    {id : ClientId}
    {c : Control} {b : Bus Chip} (ready : profile.connectFailures = 0)
    (start : Gate.start transport config id ⟨make profile data, #[]⟩ = (.ok (.ok c), b)) :
    SeenInside profile.size.toNat b := by
  have fresh : (make profile data).IsFresh := isFresh_make profile data profile.connectFailures
  obtain ⟨g, sizes⟩ := ofSizes_of_start fresh start
  obtain ⟨-, page, sector⟩ := Geometry.ofSizes_eq_ok sizes
  have unharmed : Unharmed profile.size.toNat (make profile data) := by
    refine ⟨ready, fun none => ?_, sector, fresh.memory, profile.size.toNat_lt⟩
    have := g.pageSize_pos
    rw [page, show (make profile data).profile.pageSize = 0 from none] at this
    exact absurd this (by decide)
  obtain ⟨-, seen, -⟩ := Always.run (faultless_shows profile.size.toNat (.client id))
    (always_bringUp_faultless config profile.size.toNat) (b := ⟨make profile data, #[]⟩)
    ⟨unharmed, fun x hx => by cases hx⟩
  unfold Gate.start at start
  rcases hr : (BringUp.script config).run transport (.client id) ⟨make profile data, #[]⟩ with
    ⟨f | ⟨e | ⟨g, st⟩⟩, b'⟩ <;> rw [hr] at start seen <;> cases start
  exact (faultless_shows _ (.client id)).log _ () _ seen

/-- All along a run of a gate over a chip whose connects succeed, no fault hits the dispatcher and
the chip reports nothing, as long as the jobs stay inside of it. -/
theorem faultless_of_start {profile : Profile} {data : List UInt8} {config : Config} {id : ClientId}
    {c : Control} {b : Bus Chip} {g : Gate Chip} (ready : profile.connectFailures = 0)
    (start : Gate.start transport config id ⟨make profile data, #[]⟩ = (.ok (.ok c), b))
    (reach : Gate.Reach transport Gate.undisturbed ⟨c, b⟩ g)
    (inside : ∀ j, .job j ∈ takenIn g.bus.journal.toList →
      j.operation.StaysInside c.setup.geometry) :
    g.control.dispatcher.isFaulted = false ∧ breachesIn g.bus.journal.toList = [] := by
  have fresh : (make profile data).IsFresh := isFresh_make profile data profile.connectFailures
  obtain ⟨s, rfl, -, -, -, nothing, rest⟩ := start_opened fresh start
  have size : s.geometry.totalSize = profile.size := (setup_of_start fresh ready start).1
  have seen : SeenInside s.geometry.totalSize.toNat b := by
    rw [size]
    exact seenInside_of_start ready start
  -- of the breaches that the chip may report none is tolerated and inside as well
  obtain ⟨-, done, stands⟩ := Contract.reach (Contract.Stands.opened rest nothing)
    (Control.sound_opened s) (reach.mono fun _ _ h => h.elim)
  obtain ⟨-, done', stands'⟩ := Contract.reach (K := (faultlessJudgement s).contract)
    (.opened ⟨(), seen, trivial⟩ nothing) (Control.sound_opened s) reach inside
  constructor
  · cases hit : g.control.dispatcher.isFaulted with
    | false => rfl
    | true =>
      obtain ⟨f, -, may⟩ := stands'.hit hit
      exact may.elim
  · obtain ⟨-, inside⟩ : SeenInside _ g.bus := stands'.holds.choose_spec
    obtain ⟨w, ⟨-, -, tolerated⟩, -⟩ := stands.holds
    refine List.eq_nil_iff_forall_not_mem.2 fun x hx => ?_
    obtain ⟨⟨a, rfl | rfl⟩, -⟩ := Profile.tolerates_iff.1 (tolerated x hx)
    · cases inside _ hx
    · cases inside _ hx

end FlashGate

/-
Reads through the fast-read hardware and past the queue. Main statements: `fetches_of_watch`, that
whatever was selected before, a thread fetches in the submode that the read it carries out asks for,
and `brings_of_watch`, that the bytes which a read brings are those that it shows of the stored
ones.
-/
import FlashGate.Proofs.Conformance
import FlashGate.Proofs.Device.Alike
import FlashGate.Proofs.Gateway.Watch

namespace FlashGate

/-- What a read past the queue reads. -/
def Bypass.operation (r : Bypass) : Operation := .fastRead r.submode r.address r.buffer.length

/-- The read that a thread on the duty carries out. -/
def Duty.reading? : Duty → Option Operation
  | .serve j => if j.operation.isRead then some j.operation else none
  | .read _ r => some r.operation
  | _ => none

/-- Whether the thread reads past the queue. -/
def Duty.isBypass : Duty → Bool
  | .read .. => true
  | _ => false

/-- The submode that it asks for. -/
def Duty.submode? (d : Duty) : Option Submode := d.reading?.bind (·.kind.submode?)

theorem Duty.submode?_serve (j : Job) : (Duty.serve j).submode? = j.operation.kind.submode? := by
  obtain ⟨t, id, p, o⟩ := j
  cases o <;> rfl

theorem Operation.effect_of_isRead {o : Operation} (h : o.isRead = true) (g : Geometry)
    (m : Memory) : o.effect g m = m := by
  cases o <;> first | rfl | cases h

/-! ## The submode -/

/-- The submode after a call. -/
def Call.selects (m : Submode) : Call → Submode
  | .fastReadSetMode m' => m'
  | _ => m

/-- The world of an observer of the submode, who lets fetches pass in one submode only. -/
def World.fetching (asked : Option Submode) : World Submode where
  permits m c := c.isFetch = true → asked = some m
  reacts m c _ m' := m' = c.selects m

namespace Transfer

open Script

variable {asked : Option Submode} {m : Submode}

theorem fetching_polls : (World.fetching asked).Polls (fun _ _ => True) m := by
  intro c hc
  have plain : c.isFetch = false ∧ c.selects m = m := by
    cases c <;> first | exact ⟨rfl, rfl⟩ | cases hc
  refine ⟨fun h => (by rw [plain.1] at h; cases h), fun r w hr => ?_⟩
  cases r with
  | error f => trivial
  | ok x => exact Eq.trans hr plain.2

theorem fetching_only {α : Type} {s : Script α} (h : s.Only fun c => c.isFetch = false) :
    s.Always (World.fetching asked) (fun _ _ => True) m := by
  refine h.passes (fun _ c hc fetch => ?_) fun _ => fetching_polls
  rw [hc] at fetch
  cases fetch

/-- A fast read that is given a submode selects it before every fetch. -/
theorem fetching_fastRead {g : Geometry} {chunk : Nat} {address : UInt32} {buffer : List UInt8}
    (submode : Submode) : (fastRead g chunk address buffer (some submode)).Always
      (World.fetching (some submode)) (fun _ _ => True) m := by
  refine always_bind.2 (always_log.2 (Always.mono (fun _ _ _ => trivial) (always_readChunked
    (I := fun _ _ _ => True) (E := fun _ _ => True) (fun _ _ _ _ _ _ => trivial)
    (fun p _ _ _ part _ _ _ => ?_) trivial)))
  refine always_bind.2 (always_ask.2 ⟨fun fetch => (by cases fetch), ?_⟩)
  rintro (f | ⟨⟩) m' selected
  · trivial
  obtain rfl : m' = submode := selected
  have fetched : (masked (.fastRead p.address part)).Always (World.fetching (some m'))
      (fun _ _ => True) m' := by
    refine always_masked fetching_polls (fun _ => rfl) ?_
    rintro (f | bytes) m'' -
    · trivial
    · exact ⟨fetching_polls, trivial⟩
  refine Always.mono ?_ fetched
  rintro (f | bytes) _ _ <;> trivial

/-- A queued operation selects its submode before it fetches, and no other one. -/
theorem fetching_perform (s : Setup) (o : Operation) :
    (Control.perform s o).Always (World.fetching o.kind.submode?) (fun _ _ => True) m := by
  cases ho : o.kind.isFastRead with
  | false =>
    exact fetching_only ((only_perform_direct s ho).weaken (fun c hc => (direct_poll c hc).2)
      fun c hc => hc.2)
  | true =>
    cases o with
    | fastRead submode address length =>
      refine always_bind.2 (always_ask.2 ⟨fun fetch => (by cases fetch), ?_⟩)
      rintro (f | ⟨⟩) m' selected
      · trivial
      obtain rfl : m' = submode := selected
      -- none of the calls that follow selects
      have only : (fastRead s.geometry s.readChunk address (Control.zeros length) none).Only
          fun c => c.isSelect = false :=
        only_fastRead_of (fun c hc => by cases c <;> first | rfl | cases hc) (fun _ _ => rfl)
          (Control.zeros length) none (fun _ h => by cases h)
      have still (c : Call) (hc : c.isSelect = false) : c.selects m' = m' := by
        cases c <;> first | rfl | cases hc
      refine Always.mono (fun _ _ _ => trivial) (only.always (I := fun m => m = m') ?_ ?_ rfl)
      · rintro _ c rfl hc
        exact ⟨fun _ => rfl, fun _ _ reacts => Eq.trans reacts (still c hc)⟩
      · rintro _ rfl c hc
        have hs : c.isSelect = false := by cases c <;> first | rfl | cases hc
        refine ⟨fun _ => rfl, fun r _ reacts => ?_⟩
        cases r <;> exact Eq.trans reacts (still c hs)
    | _ => cases ho

theorem fetching_serve (s : Setup) (mode : Mode) (o : Operation) :
    (Control.serve s mode o).Always (World.fetching o.kind.submode?) (fun _ _ => True) m := by
  refine always_bind.2 (Always.mono ?_ (fetching_only (only_reconfigure (fun c hc => ?_) _ _)))
  · rintro (f | ⟨e | ⟨⟩⟩) m' -
    · trivial
    · exact always_bind.2 (always_log.2 trivial)
    · exact fetching_perform s o
  · cases c <;> first | rfl | cases hc

/-- Every script that a thread of a gate takes up fetches in the submode of the read that it is for,
whatever is selected when it begins. -/
theorem fetching_begins {c : Control} {d : Duty} {script : Script (List UInt8)}
    (h : c.Begins d script) :
    script.Always (World.fetching d.submode?) (fun _ _ => True) m := by
  have none (c : Call) (hc : c.arranges = true) : c.isFetch = false := by
    cases c <;> first | rfl | cases hc
  cases h with
  | serve j =>
    rw [Duty.submode?_serve]
    exact fetching_serve _ _ _
  | release l => exact fetching_only (only_release none _ _)
  | setUp id => exact fetching_only (only_openWindow none)
  | shutDown id w => exact fetching_only (only_shutWindow none)
  | read id r => exact fetching_fastRead r.submode

end Transfer

namespace Chip

open Script

/-- Only a selection changes the submode. -/
theorem submode_perform (chip : Chip) (c : Call) :
    (chip.perform c).device.submode = c.selects chip.submode := by
  cases c
  case programPage command address data =>
    by_cases hh : chip.memory.holds address.toNat data.length = true <;>
      simp only [perform, programPage, begin, hh] <;> (repeat' split) <;> simp_all [Call.selects]
  case eraseSector command address =>
    by_cases hh : chip.memory.holds
        (address.toUInt64 &&& ~~~(chip.profile.sectorSize.toUInt64 - 1)).toNat
        chip.profile.sectorSize.toNat = true <;>
      simp only [perform, eraseSector, begin, hh] <;> (repeat' split) <;> simp_all [Call.selects]
  all_goals simp only [perform, connect, readRaw, sendCommand, calibrate, fastRead, poll, begin]
  all_goals repeat' split
  all_goals rfl

theorem fetching_shows (asked : Option Submode) (who : Actor) :
    (World.fetching asked).Shows transport who fun b m => b.device.submode = m where
  call b _ c seen _ := ⟨_, rfl, (submode_perform b.device c).trans (by rw [seen])⟩
  log _ _ _ seen := seen

/-- What is known of the submode at every moment of a run. -/
def fetchWatch : Watch transport failing fun _ => True where
  Off _ := True
  On d script b := script.Always (World.fetching d.submode?) (fun _ _ => True) b.device.submode
  told_off _ off := off
  told_on _ on := on
  outside_off _ off := off
  outside_on := by
    rintro d script b device ⟨n, rfl⟩ on
    exact on
  begins _ _ begins _ := Transfer.fetching_begins begins
  carries {d script b} on := by
    obtain ⟨m, seen, next⟩ := Always.step (fetching_shows _ d.actor) on rfl
    rcases hs : script.step transport d.actor b with ⟨rest | r, b'⟩ <;> rw [hs] at seen next
    · have seen : b'.device.submode = m := seen
      subst seen
      exact next
    · trivial

variable {g : Gate Chip}

/-- A thread that is about to fetch is on a read, and the hardware is in the submode that this read
asks for. -/
theorem fetches_of_watch (h : fetchWatch.Stands g) {who : Actor} {script : Script (List UInt8)}
    {resume : Script.Progress (List UInt8) → Control × List Event}
    (move : g.control.move? who = some (.drive script resume)) {address : UInt32}
    {buffer : List UInt8} (next : script.next? = some (.fastRead address buffer)) :
    ∃ (d : Duty) (o : Operation), d.actor = who ∧ d.On g.control script ∧ d.reading? = some o ∧
      o.kind.submode? = some g.bus.device.submode := by
  rcases Control.move?_duty move with ⟨_, _, quiet⟩ | ⟨d, s, mine, on, drive⟩
  · cases quiet
  cases drive
  have asked : d.submode? = some g.bus.device.submode := (h.on d script on).permits next rfl
  obtain ⟨o, reading, submode⟩ := Option.bind_eq_some_iff.1 asked
  exact ⟨d, o, mine, on, reading, submode⟩

/-! ## The bytes -/

/-- What a read ends with is what it shows of the stored bytes, and past the queue it is not a
fault. -/
def Brought (s : Setup) (d : Duty) (o : Operation) (m : Memory) :
    Except Fault (List UInt8) → Prop
  | .ok bytes => bytes = o.reply s.geometry m
  | .error _ => d.isBypass = false

/-- The script of a read ends with what the read brings. -/
def Brings (s : Setup) (profile : Profile) (d : Duty) (script : Script (List UInt8))
    (b : Bus Chip) : Prop :=
  ∀ o, d.reading? = some o → ∃ w, Seen profile b w ∧
    script.Always world (fun r w' => Brought s d o w'.memory r) w

variable {s : Setup} {profile : Profile} {m : Memory} {d : Duty} {script : Script (List UInt8)}
  {b : Bus Chip} {w : Chip}

theorem Seen.told (h : Seen profile b w) {who : Actor} {events : List Event}
    (wireless : ∀ e ∈ events, e.isWire = false) : Seen profile (b.record who events) w := by
  refine ⟨h.calm, h.built, fun x hx => h.tolerated x ?_⟩
  have none : breachesIn (events.map (⟨who, ·⟩)) = [] := by
    rw [breachesIn, List.filterMap_eq_nil_iff]
    intro entry told
    obtain ⟨e, he, rfl⟩ := List.mem_map.1 told
    have := wireless e he
    cases e <;> first | rfl | cases this
  rwa [Bus.toList_journal_record, breachesIn_append, none, List.append_nil] at hx

theorem Seen.outside (h : Seen profile b w) {device : Chip} (change : failing b.device device) :
    Seen profile { b with device } w := by
  obtain ⟨n, rfl⟩ := change
  exact ⟨h.calm, h.built, h.tolerated⟩

/-- A script that a thread takes up to read ends with what the read shows. -/
theorem brings_begins {done : List Message}
    (stands : (judgement s profile m).contract.Stands g done)
    (nobody : ∀ (d : Duty) script, ¬ d.On g.control script) (begins : g.control.Begins d script) :
    Brings s profile d script g.bus := by
  have setup := stands.setup
  subst setup
  intro o reading
  cases begins with
  | serve j there fits =>
    obtain ⟨read, ⟨⟩⟩ := Option.ite_none_right_eq_some.1 reading
    obtain ⟨w, ⟨seen, -⟩, rests⟩ := stands.rest nobody _ there
    refine ⟨w, seen, Always.mono ?_ (always_serve rests.matched rests.stands fits)⟩
    rintro (f | bytes) w' served
    · rfl
    · obtain ⟨shown, -, -, stored, -⟩ := served
      exact shown.trans (by rw [stored, Operation.effect_of_isRead read])
  | read id r there =>
    cases reading
    obtain ⟨w, ⟨seen, -⟩, rests⟩ := stands.rest nobody _ there
    obtain ⟨connected, active, calibrated⟩ := rests.stands
    refine ⟨w, seen, Always.mono ?_ (always_fastRead_in rests.matched connected active calibrated
      r.address r.buffer r.submode)⟩
    rintro _ w' ⟨rfl, _, rfl⟩
    rfl
  | _ => cases reading

/-- What is known of the bytes of reads at every moment of a run. -/
def readWatch (s : Setup) (profile : Profile) (m : Memory) : Watch transport failing
    fun g => ∃ done, (judgement s profile m).contract.Stands g done where
  Off _ := True
  On := Brings s profile
  told_off _ off := off
  told_on wireless on o reading := by
    obtain ⟨w, seen, always⟩ := on o reading
    exact ⟨w, seen.told wireless, always⟩
  outside_off _ off := off
  outside_on change on o reading := by
    obtain ⟨w, seen, always⟩ := on o reading
    exact ⟨w, seen.outside change, always⟩
  begins := fun ⟨_, stands⟩ nobody begins _ => brings_begins stands nobody begins
  carries {d script b} on := by
    rcases hs : script.step transport d.actor b with ⟨rest | r, b'⟩
    · intro o reading
      obtain ⟨w, seen, always⟩ := on o reading
      obtain ⟨w', seen', next⟩ := always.step (world_shows profile d.actor) seen
      rw [hs] at seen' next
      exact ⟨w', seen', next⟩
    · trivial

/-- What a read ends with is what it brings of the bytes stored then. -/
theorem brings_of_watch (h : (readWatch s profile m).Stands g) (on : d.On g.control script)
    {o : Operation} (reading : d.reading? = some o) {r : Except Fault (List UInt8)} {b' : Bus Chip}
    (ends : script.step transport d.actor g.bus = (.finished r, b')) :
    Brought s d o b'.device.memory r := by
  obtain ⟨w, seen, always⟩ := h.on d script on o reading
  obtain ⟨w', seen', shown⟩ := always.step (world_shows profile d.actor) seen
  rw [ends] at seen' shown
  have calm : b'.device.calm = w' := seen'.calm
  subst calm
  exact shown

end Chip

end FlashGate

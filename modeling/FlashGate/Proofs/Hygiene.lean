/-
Write enable and busy times over the emulated chip. Main statement: `keeps_latch`, that a chip which
is neither busy nor write-enabled at first is talked to only while it is not busy, by a gate as by
each transfer alone, is neither busy nor write-enabled whenever no write or erase runs, is polled
after every program or erase until its busy time is over and not once more, and that all of this
comes to an end.
-/
import FlashGate.Proofs.Conformance
import FlashGate.Proofs.Device.Hygiene
import FlashGate.Proofs.Gateway.Halting
import FlashGate.Proofs.Gateway.Watch
import Mathlib.Logic.Relation

namespace FlashGate

open Script Chip Transfer

/-! ## Quiet chips and measures -/

namespace Beat

/-- Every program or erase was waited for, with so many polls that found the chip busy and one that
found it ready. -/
def Whole (polls : Nat) (beats : List Beat) : Prop :=
  ∃ n, beats = (List.replicate n (measure polls)).flatten

/-- The same, where the last wait may still go on. -/
def Paced (polls : Nat) (beats : List Beat) : Prop :=
  ∃ whole begun, beats = whole ++ begun ∧ Whole polls whole ∧ begun <+: measure polls

end Beat

namespace Chip

/-- Neither busy nor write-enabled. -/
def IsQuiet (chip : Chip) : Prop := chip.busy = 0 ∧ chip.writeEnabled = false

/-- A change from outside that leaves latch and busy time as they are. -/
def steady (chip chip' : Chip) : Prop :=
  chip'.profile = chip.profile ∧ chip'.busy = chip.busy ∧ chip'.writeEnabled = chip.writeEnabled

theorem calms_steady : transport.Calms steady := by
  rintro d d' ⟨-, busy, -⟩
  exact Nat.le_of_eq (congrArg UInt32.toNat busy)

variable {profile : Profile} {before : List Beat} {b b' : Bus Chip} {l : Latch}

theorem kept_of_quiet (built : b.device.profile = profile) (quiet : b.device.IsQuiet) :
    Kept profile (beatsIn b.journal.toList) b .clean := by
  refine ⟨built, ?_, Nat.zero_le _, fun _ => rfl, 0, by simp [Latch.begun, Latch.clean]⟩
  rw [Chip.latch, quiet.1, quiet.2]
  rfl

theorem Kept.quiet (h : Kept profile before b .clean) : b.device.IsQuiet := by
  have latch := h.latch
  exact ⟨UInt32.toNat_inj.1 (congrArg Latch.busy latch).symm, (congrArg Latch.enabled latch).symm⟩

theorem Kept.outside (h : Kept profile before b l) {device : Chip} (hd : steady b.device device) :
    Kept profile before { b with device } l := by
  refine ⟨hd.1.trans h.built, ?_, h.bound, h.idle, h.beats⟩
  show l = device.latch l.due
  rw [Chip.latch, hd.2.1, hd.2.2]
  exact h.latch

theorem Kept.drifts (h : Kept profile before b l) (drift : b.Drifts steady b') :
    Kept profile before b' l := by
  cases drift with
  | still => exact h
  | changed hd => exact h.outside hd

theorem Kept.whole (h : Kept profile before b .clean) :
    ∃ beats, beatsIn b.journal.toList = before ++ beats ∧
      Beat.Whole profile.busyPolls.toNat beats := by
  obtain ⟨n, hn⟩ := h.beats
  exact ⟨_, hn.trans (List.append_nil _), n, rfl⟩

theorem Latch.begun_prefix (polls : Nat) (l : Latch) : l.begun polls <+: Beat.measure polls := by
  unfold Latch.begun Beat.measure
  split
  · refine List.cons_prefix_cons.2 ⟨rfl, ?_⟩
    have more : polls = (polls - l.busy) + (polls - (polls - l.busy)) := by omega
    rw [more, ← List.replicate_append_replicate, List.append_assoc, ← more]
    exact List.prefix_append ..
  · exact List.nil_prefix

theorem Kept.paced (h : Kept profile before b l) :
    ∃ beats, beatsIn b.journal.toList = before ++ beats ∧
      Beat.Paced profile.busyPolls.toNat beats := by
  obtain ⟨n, hn⟩ := h.beats
  exact ⟨_, hn.trans (List.append_assoc ..), _, _, rfl, ⟨n, rfl⟩, l.begun_prefix _⟩

theorem Kept.ready {α : Type} {s : Script α} {Q : Except Fault α → Latch → Prop}
    (h : Kept profile before b l) (hs : s.Settles (tempo profile) Q l) {c : Call}
    (next : s.next? = some c) (transaction : c.isTransaction = true) : b.device.busy = 0 := by
  obtain ⟨-, free, -⟩ := tempo_permits.1 (hs.permits next)
  have counted : l.busy = b.device.busy.toNat := congrArg Latch.busy h.latch
  exact UInt32.toNat_inj.1 (counted.symm.trans (free transaction).1)

end Chip

/-! ## Transfers alone -/

/-- How a script that is run alone treats a chip of a profile, while the chip may be changed from
outside in what has nothing to do with its latch. -/
structure Script.Tends {α : Type} (profile : Profile) (who : Actor) (Q : Except Fault α → Prop)
    (s : Script α) (b : Bus Chip) : Prop where
  /-- Transactions are made while the chip is not busy. -/
  ready : ∀ s' b', Relation.ReflTransGen (GoesOn transport steady who) (s, b) (s', b') →
    ∀ c, s'.next? = some c → c.isTransaction = true → b'.device.busy = 0
  /-- Every wait takes the busy polls of the profile. -/
  paced : ∀ s' b', Relation.ReflTransGen (GoesOn transport steady who) (s, b) (s', b') →
    ∃ beats, beatsIn b'.journal.toList = beatsIn b.journal.toList ++ beats ∧
      Beat.Paced profile.busyPolls.toNat beats
  /-- The script comes to an end, -/
  halts : Acc (fun q p => GoesOn transport steady who p q) (s, b)
  /-- and then the chip is neither busy nor write-enabled. -/
  ended : Q (s.run transport who b).1 ∧ (s.run transport who b).2.device.IsQuiet ∧
    ∃ beats, beatsIn (s.run transport who b).2.journal.toList =
        beatsIn b.journal.toList ++ beats ∧ Beat.Whole profile.busyPolls.toNat beats

namespace Chip

variable {profile : Profile} {α : Type} {b : Bus Chip}

/-- A script that settles leaves the chip clean on every way. -/
theorem tends_of_settles {s : Script α} {Q : Except Fault α → Prop} (who : Actor)
    (h : s.Settles (tempo profile) (fun r l => Q r ∧ l = .clean) .clean)
    (built : b.device.profile = profile) (quiet : b.device.IsQuiet) : s.Tends profile who Q b := by
  have shows := tempo_shows profile (beatsIn b.journal.toList) who
  have start := kept_of_quiet built quiet
  have keeps (s' : Script α) (b' : Bus Chip)
      (way : Relation.ReflTransGen (GoesOn transport steady who) (s, b) (s', b')) :
      ∃ l, Kept profile (beatsIn b.journal.toList) b' l ∧
        s'.Settles (tempo profile) (fun r l => Q r ∧ l = .clean) l := by
    generalize hp : (s', b') = p at way
    induction way generalizing s' b' with
    | refl =>
      cases hp
      exact ⟨_, start, h⟩
    | @tail p q _ turn ih =>
      subst hp
      obtain ⟨l, kept, settles⟩ := ih p.1 p.2 rfl
      obtain ⟨b₁, drift, turn⟩ := turn
      obtain ⟨l', kept', next⟩ := settles.step shows (kept.drifts drift)
      rw [turn] at kept' next
      exact ⟨l', kept', next⟩
  refine ⟨fun s' b' way c next transaction => ?_, fun s' b' way => ?_,
    acc_goesOn calms_steady s b, ?_⟩
  · obtain ⟨l, kept, settles⟩ := keeps s' b' way
    exact kept.ready settles next transaction
  · obtain ⟨l, kept, -⟩ := keeps s' b' way
    exact kept.paced
  · obtain ⟨l, kept, result, rfl⟩ := h.run shows start
    exact ⟨result, kept.quiet, kept.whole⟩

/-- A transfer that changes no stored bytes ends as it does wherever calls are answered. -/
theorem settles_of_faultsIn {s : Script α} (only : s.Only passive)
    (faults : s.FaultsIn .answering (fun _ => False)) :
    s.Settles (tempo profile) (fun r l => r.isOk = true ∧ l = .clean) .clean := by
  refine settles_passive only (Always.mono ?_ faults)
  rintro (f | a) _ h
  · exact (h f rfl).elim
  · rfl

end Chip

/-! ## Gates -/

/-- Whether a write or an erase runs. -/
def Control.changes (c : Control) : Bool :=
  match c.dispatcher with
  | .serving j _ => !j.operation.isRead
  | _ => false

/-- What is known while a script of a gate runs. -/
inductive Chip.Tending (profile : Profile) (d : Duty) (script : Script (List UInt8))
    (b : Bus Chip) : Prop
  | changing {l : Latch} (changes : d.changes = true) (kept : Kept profile [] b l)
    (settles : script.Settles (tempo profile) (fun _ l => l = .clean) l)
  | passive (kept : Kept profile [] b .clean) (only : script.Only passive)

namespace Chip

variable {profile : Profile} {d : Duty} {script : Script (List UInt8)} {b : Bus Chip}

theorem Tending.map {b' : Bus Chip} (h : Tending profile d script b)
    (same : ∀ l, Kept profile [] b l → Kept profile [] b' l) : Tending profile d script b' := by
  cases h with
  | changing changes kept settles => exact .changing changes (same _ kept) settles
  | passive kept only => exact .passive (same _ kept) only

theorem Tending.settles (h : Tending profile d script b) : ∃ l, Kept profile [] b l ∧
    script.Settles (tempo profile) (fun _ l => l = .clean) l := by
  cases h with
  | changing _ kept settles => exact ⟨_, kept, settles⟩
  | passive kept only =>
    refine ⟨_, kept, Settles.mono (fun _ _ h => h.2) (settles_passive (Q := fun _ => True) only
      (always_unit (fun _ => trivial) _))⟩

theorem Tending.kept (h : Tending profile d script b) (changes : d.changes = false) :
    Kept profile [] b .clean := by
  cases h with
  | changing yes => cases yes.symm.trans changes
  | passive kept => exact kept

/-- A turn of the script keeps what is known, and its end leaves the chip clean. -/
theorem Tending.carries (h : Tending profile d script b) :
    Script.Carries (Tending profile d) (fun _ b => Kept profile [] b .clean)
      (script.step transport d.actor b) := by
  cases h with
  | changing changes kept settles =>
    obtain ⟨l, kept, next⟩ := settles.step (tempo_shows profile [] d.actor) kept
    rcases hs : script.step transport d.actor b with ⟨rest | r, b'⟩ <;> rw [hs] at kept next
    · exact .changing changes kept next
    · exact next ▸ kept
  | passive kept only =>
    obtain ⟨kept, next⟩ := passive_step only kept d.actor
    rcases hs : script.step transport d.actor b with ⟨rest | r, b'⟩ <;> rw [hs] at kept next
    · exact .passive kept next
    · exact kept

/-- What is known of the latch at every moment of a run. -/
def latchWatch (profile : Profile) :
    Watch transport steady fun g : Gate Chip => g.control.setup.Describes profile where
  Off b := Kept profile [] b .clean
  On := Tending profile
  told_off wireless h := h.told fun e he => by
    have := wireless e he
    cases e <;> first | rfl | cases this
  told_on wireless h := h.map fun _ kept => kept.told fun e he => by
    have := wireless e he
    cases e <;> first | rfl | cases this
  outside_off change h := h.outside change
  outside_on change h := h.map fun _ kept => kept.outside change
  begins {g d script} describes _ begins off := by
    cases changes : d.changes with
    | true => exact .changing changes off (settles_begins describes begins changes)
    | false => exact .passive off (passive_begins begins changes)
  carries := Tending.carries

end Chip

/-- How a gate treats its chip at a moment of its run. -/
structure Gate.Tends (profile : Profile) (g : Gate Chip) : Prop where
  /-- Transactions are made while the chip is not busy. -/
  ready : ∀ who script resume, g.control.move? who = some (.drive script resume) →
    ∀ c, script.next? = some c → c.isTransaction = true → g.bus.device.busy = 0
  /-- While no write or erase runs, the chip is neither busy nor write-enabled, and all waits are
  over. -/
  idle : g.control.changes = false → g.bus.device.IsQuiet ∧
    Beat.Whole profile.busyPolls.toNat (beatsIn g.bus.journal.toList)
  /-- Every wait takes the busy polls of the profile. -/
  paced : Beat.Paced profile.busyPolls.toNat (beatsIn g.bus.journal.toList)
  /-- The threads come to an end with what they are at. -/
  halts : Acc (fun g' g => Gate.Moves transport steady g g') g

namespace Chip

variable {profile : Profile} {g : Gate Chip}

/-- What is known of the latch says how the gate treats its chip. -/
theorem tends_of_watch (h : (latchWatch profile).Stands g) (sound : g.control.Sound) :
    g.Tends profile := by
  -- whoever is on a duty, the latch is kept
  have kept : ∃ l, Kept profile [] g.bus l := by
    by_cases somebody : ∃ (d : Duty) (script : _), d.On g.control script
    · obtain ⟨d, script, on⟩ := somebody
      obtain ⟨l, kept, -⟩ := (h.on d script on).settles
      exact ⟨l, kept⟩
    · exact ⟨_, h.off fun d script on => somebody ⟨d, script, on⟩⟩
  refine ⟨fun who script resume move c next transaction => ?_, fun none => ?_, ?_,
    Gate.acc_moves calms_steady sound⟩
  · rcases Control.move?_duty move with ⟨_, _, quiet⟩ | ⟨d, s, rfl, on, drive⟩
    · cases quiet
    · cases drive
      obtain ⟨l, kept, settles⟩ := (h.on d script on).settles
      exact kept.ready settles next transaction
  · have clean : Kept profile [] g.bus .clean := by
      by_cases somebody : ∃ (d : Duty) (script : _), d.On g.control script
      · obtain ⟨d, script, on⟩ := somebody
        refine (h.on d script on).kept ?_
        cases d with
        | serve j =>
          have hd : g.control.dispatcher = .serving j script := on
          rwa [Control.changes, hd] at none
        | _ => rfl
      · exact h.off fun d script on => somebody ⟨d, script, on⟩
    obtain ⟨beats, journal, whole⟩ := clean.whole
    exact ⟨clean.quiet, by rwa [journal, List.nil_append]⟩
  · obtain ⟨l, kept⟩ := kept
    obtain ⟨beats, journal, paced⟩ := kept.paced
    rwa [journal, List.nil_append]

/-! ## Bring-up -/

/-- The world of chips of one profile, of which nothing else is seen. -/
def profiled (profile : Profile) : World Unit where
  permits _ _ := True
  reacts _ c r _ := ∃ chip : Chip, chip.profile = profile ∧ r = (chip.perform c).reply

theorem profiled_shows (profile : Profile) (who : Actor) :
    (profiled profile).Shows transport who fun b _ => b.device.profile = profile where
  call b _ _ built _ := ⟨(), ⟨b.device, built, rfl⟩, (profile_perform ..).trans built⟩
  log _ _ _ built := built

/-- Bring-up describes the chip as it was built. -/
theorem always_sizes (config : Config) : (BringUp.script config).Always (profiled profile)
    (fun r _ => ∀ geometry st, r = .ok (.ok (geometry, st)) →
      Geometry.ofSizes profile.size profile.pageSize profile.sectorSize = .ok geometry) () := by
  refine always_bind.2 (Always.mono ?_ (always_unit (fun _ => trivial) _))
  rintro (f | ⟨e | ⟨⟩⟩) _ -
  · exact nofun
  · exact nofun
  refine always_bind.2 (always_ask.2 ⟨trivial, ?_⟩)
  rintro _ _ ⟨chip₁, total, rfl⟩
  refine always_bind.2 (always_ask.2 ⟨trivial, ?_⟩)
  rintro _ _ ⟨chip₂, page, rfl⟩
  refine always_bind.2 (always_ask.2 ⟨trivial, ?_⟩)
  rintro _ _ ⟨chip₃, sector, rfl⟩
  show Always (profiled profile) _ _ ()
  dsimp only
  rw [total, page, sector]
  cases sizes : Geometry.ofSizes profile.size profile.pageSize profile.sectorSize with
  | error e => exact fun _ _ h => by cases h
  | ok g =>
    refine always_bind.2 (always_ask.2 ⟨trivial, fun r _ _ => ?_⟩)
    rcases r with f | ⟨e | ⟨⟩⟩
    · exact nofun
    · exact nofun
    refine always_bind.2 (always_ask.2 ⟨trivial, fun r _ _ => ?_⟩)
    rcases r with f | ⟨⟩
    · exact nofun
    refine always_bind.2 (Always.mono ?_ (always_unit (fun _ => trivial) _))
    rintro (f | st) _ -
    · exact nofun
    · rintro _ _ ⟨⟩
      rfl

theorem settles_bringUp (config : Config) : (BringUp.script config).Settles (tempo profile)
    (fun _ l => True ∧ l = .clean) .clean :=
  settles_passive (BringUp.passive_script config) (always_unit (fun _ => trivial) _)

/-- Bring-up leaves a quiet chip quiet, and a gate that opens describes it. -/
theorem kept_of_start {chip : Chip} (quiet : chip.IsQuiet) (config : Config) (id : ClientId) :
    Kept chip.profile [] (Gate.start transport config id ⟨chip, #[]⟩).2 .clean ∧
      ∀ c, (Gate.start transport config id ⟨chip, #[]⟩).1 = .ok (.ok c) →
        ∃ s : Setup, c = { setup := s } ∧ s.Describes chip.profile := by
  obtain ⟨l, kept, -, rfl⟩ := (settles_bringUp config).run
    (tempo_shows chip.profile [] (.client id)) (kept_of_quiet (b := ⟨chip, #[]⟩) rfl quiet)
  obtain ⟨-, -, sizes⟩ := Always.run (profiled_shows chip.profile (.client id))
    (always_sizes config) (b := ⟨chip, #[]⟩) (w := ()) rfl
  unfold Gate.start
  rcases run : (BringUp.script config).run transport (.client id) ⟨chip, #[]⟩ with
    ⟨f | ⟨e | ⟨g, st⟩⟩, b⟩ <;> rw [run] at kept sizes
  · exact ⟨kept, fun _ h => by cases h⟩
  · exact ⟨kept, fun _ h => by cases h⟩
  · refine ⟨kept.told (by simp [Event.beat?]), ?_⟩
    rintro _ ⟨⟩
    obtain ⟨-, page, sector⟩ := Geometry.ofSizes_eq_ok (sizes g st rfl)
    exact ⟨_, rfl, page, by rw [sector]; decide, rfl⟩

end Chip

/-! ## Main statement -/

/-- A gate over a quiet chip treats it well at every moment. -/
theorem Gate.tends_of_start {chip : Chip} (quiet : chip.IsQuiet) {config : Config} {id : ClientId}
    {c : Control} {b : Bus Chip}
    (h : Gate.start transport config id ⟨chip, #[]⟩ = (.ok (.ok c), b)) {g : Gate Chip}
    (reach : Gate.Reach transport steady ⟨c, b⟩ g) : g.Tends chip.profile := by
  obtain ⟨kept, opened⟩ := kept_of_start quiet config id
  rw [h] at kept opened
  obtain ⟨s, rfl, describes⟩ := opened c rfl
  have described (g : Gate Chip) (hg : Gate.Reach transport steady ⟨{ setup := s }, b⟩ g) :
      g.control.setup.Describes chip.profile :=
    hg.invariant (P := fun c => c.setup.Describes chip.profile) describes
      fun _ _ _ _ hc goes => goes.setup ▸ hc
  have sound (g : Gate Chip) (hg : Gate.Reach transport steady ⟨{ setup := s }, b⟩ g) :
      g.control.Sound := hg.invariant (Control.sound_opened s) fun _ _ _ _ hc goes => goes.sound hc
  exact tends_of_watch (Watch.reach (Watch.Stands.opened kept) (sound _ .refl) described reach)
    (sound g reach)

/-- Over a chip that is neither busy nor write-enabled at first, whatever its size, its busy polls
and the requests, and with connects failing at any time: a gate, and each transfer alone with the
geometry that the chip is accepted with, make every transaction while the chip is not busy, leave it
neither busy nor write-enabled whenever no write or erase runs, poll it after every program or erase
just until its busy time is over, and come to an end; no transfer fails on the chip, and only a
write can run out of addresses. -/
theorem keeps_latch :
    (∀ (chip : Chip) config id r b, chip.IsQuiet →
      Gate.start transport config id ⟨chip, #[]⟩ = (r, b) →
      (BringUp.script config).Tends chip.profile (.client id) (fun _ => True) ⟨chip, #[]⟩ ∧
      b.device.IsQuiet ∧
      ∀ c g, r = .ok (.ok c) → Gate.Reach transport steady ⟨c, b⟩ g → g.Tends chip.profile) ∧
    ∀ (profile : Profile) (geometry : Geometry) (chunk : Nat) (who : Actor) (b : Bus Chip)
      (address : UInt32),
      Geometry.ofSizes profile.size profile.pageSize profile.sectorSize = .ok geometry →
      b.device.profile = profile → b.device.IsQuiet →
      (∀ buffer, (Transfer.read geometry commands chunk address buffer).Tends profile who
        (·.isOk = true) b) ∧
      (∀ buffer submode, (Transfer.fastRead geometry chunk address buffer submode).Tends profile who
        (·.isOk = true) b) ∧
      (∀ data, (Transfer.write geometry commands address data).Tends profile who
        (fun r => ∀ f, r = .error f → f = .overflow) b) ∧
      ∀ length, (Transfer.erase geometry commands address length).Tends profile who
        (·.isOk = true) b := by
  refine ⟨fun chip config id r b quiet start => ?_, fun profile geometry chunk who b address sizes
    built quiet => ?_⟩
  · obtain ⟨kept, -⟩ := kept_of_start quiet config id
    rw [start] at kept
    refine ⟨tends_of_settles _ (settles_bringUp config) rfl quiet, kept.quiet, ?_⟩
    rintro c g rfl reach
    exact Gate.tends_of_start quiet start reach
  · obtain ⟨-, page, sector⟩ := Geometry.ofSizes_eq_ok sizes
    have sector : profile.sectorSize ≠ 0 := by rw [sector]; decide
    have tends {α : Type} {s : Script α} {Q : Except Fault α → Prop}
        (h : s.Settles (tempo profile) (fun r l => Q r ∧ l = .clean) .clean) :
        s.Tends profile who Q b := tends_of_settles who h built quiet
    exact ⟨fun buffer => tends (settles_of_faultsIn (passive_read buffer)
        (faultsIn_read World.obliging_answering buffer)),
      fun buffer submode => tends (settles_of_faultsIn (passive_fastRead buffer submode)
        (faultsIn_fastRead World.obliging_answering buffer submode)),
      fun data => tends (Settles.mono (fun _ _ h => h.symm) (settles_write page address data)),
      fun length => tends (Settles.mono (fun _ _ h => h.symm)
        (settles_erase sector address length))⟩

/-- The small gate after a write of one byte and an erase of one sector. -/
def Gate.smallWritten (c : Control) : Gate Chip :=
  ((({ gate := ⟨c, Gate.small.2⟩ } : Session Chip).act transport 0 (.write 1 [0x0F])).act
    transport 0 (.erase 0 1)).gate

/-- On the small gate a write and an erase take one busy poll each, and then the chip is neither
busy nor write-enabled; so does a write alone. -/
theorem keeps_latch_small : ∃ c, Gate.small.1 = .ok (.ok c) ∧
    (Gate.smallWritten c).Tends oneSector ∧
    beatsIn (Gate.smallWritten c).bus.journal.toList =
      [.change, .busy, .ready, .change, .busy, .ready] ∧
    (Transfer.write ⟨4096, 256, by decide, by decide⟩ commands 0 [7]).Tends oneSector .dispatcher
      (fun r => ∀ f, r = .error f → f = .overflow) ⟨make oneSector [], #[]⟩ := by
  obtain ⟨c, opened⟩ := Gate.small_opens
  have reach : Gate.Reach transport steady ⟨c, Gate.small.2⟩ (Gate.smallWritten c) :=
    Session.reach_act 0 _ (Session.reach_act 0 _ .refl)
  have played : Gate.ofSmall (fun c => beatsIn (Gate.smallWritten c).bus.journal.toList) =
      some [.change, .busy, .ready, .change, .busy, .ready] := by
    decide +kernel
  simp only [Gate.ofSmall, opened, Option.some.injEq] at played
  have sizes : Geometry.ofSizes oneSector.size oneSector.pageSize oneSector.sectorSize =
      .ok ⟨4096, 256, by decide, by decide⟩ := rfl
  obtain ⟨gates, transfers⟩ := keeps_latch
  exact ⟨c, opened, (gates _ _ 0 _ _ ⟨rfl, rfl⟩ (Gate.start_of_small opened)).2.2 c _ rfl reach,
    played, (transfers oneSector _ 64 .dispatcher ⟨make oneSector [], #[]⟩ 0 sizes rfl
      ⟨rfl, rfl⟩).2.2.1 [7]⟩

end FlashGate

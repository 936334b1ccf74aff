/-
Scripts that leave the emulated chip clean. Whatever the chip answers, a transfer talks to it only
while it is not busy, and at its end the chip is neither busy nor write-enabled, on success and
after a rejected transaction alike. Main statements: `settles_write` and `settles_erase`, for the
loops over pages and sectors, and `settles_begins`, for every script that a gate runs.
-/
import FlashGate.Proofs.Device.Latch
import FlashGate.Proofs.Gateway.Overrun

namespace FlashGate

open Script Chip

/-! ## Scripts that change no stored bytes -/

namespace Transfer

/-- A call that has to do with neither latch nor busy time. -/
def passive (c : Call) : Prop := c.isPassive = true

theorem passive_masked {c : Call} (hc : passive c) : (masked c).Only passive :=
  Only.bind (only_ask (by rfl)) fun _ => (only_ask hc).bind fun _ =>
    Only.bind (only_ask (by rfl)) fun _ => trivial

variable {g : Geometry} {commands : CommandSet} {chunk : Nat} {address : UInt32}

theorem passive_read (buffer : List UInt8) : (read g commands chunk address buffer).Only passive :=
  always_bind.2 (always_log.2 (only_readChunked (fun _ _ => passive_masked (by rfl)) _ _))

theorem passive_fastRead (buffer : List UInt8) (submode : Option Submode) :
    (fastRead g chunk address buffer submode).Only passive := by
  refine always_bind.2 (always_log.2 (only_readChunked (fun q bytes => ?_) _ _))
  cases submode with
  | none => exact passive_masked (by rfl)
  | some m => exact (only_ask (by rfl)).bind fun _ => passive_masked (by rfl)

theorem passive_arranges (c : Call) (h : c.arranges = true) : passive c := by
  cases c <;> first | rfl | cases h

theorem passive_connect (policy : RetryPolicy) : (connect policy).Only passive :=
  only_connect (by rfl) (by exact fun _ => rfl) policy

theorem passive_reconfigure (steps : Reconfiguration) (policy : RetryPolicy) :
    (reconfigure steps policy).Only passive := only_reconfigure passive_arranges steps policy

end Transfer

open Transfer

theorem BringUp.passive_strategy (config : Config) : (BringUp.strategy config).Only passive := by
  unfold BringUp.strategy
  split
  · unfold BringUp.calibrate
    refine Only.bind (only_ask (by rfl)) fun _ => Only.bind (only_ask (by rfl)) ?_
    rintro (e | ⟨⟩)
    · exact always_bind.2 (always_log.2 (Only.bind (only_ask (by rfl)) fun _ => trivial))
    · exact Only.bind (only_ask (by rfl)) fun _ => trivial
  · exact trivial

theorem BringUp.passive_script (config : Config) : (BringUp.script config).Only passive := by
  unfold BringUp.script
  refine Only.bind (passive_connect _) ?_
  rintro (e | ⟨⟩)
  · trivial
  refine Only.bind (only_ask (by rfl)) fun total => Only.bind (only_ask (by rfl)) fun page =>
    Only.bind (only_ask (by rfl)) fun sector => ?_
  split
  · trivial
  refine Only.bind (only_ask (by rfl)) ?_
  rintro (e | ⟨⟩)
  · trivial
  exact Only.bind (only_ask (by rfl)) fun _ => (passive_strategy config).bind fun _ => trivial

/-- What a setup has to agree on with chips of a profile: the page size and the commands; and the
chips have sectors. -/
structure Setup.Describes (s : Setup) (profile : Chip.Profile) : Prop where
  page : s.geometry.pageSize = profile.pageSize
  sector : profile.sectorSize ≠ 0
  commands : s.commands = Chip.commands

namespace Chip

variable {profile : Profile} {α : Type}

/-- Scripts of such calls leave the chip clean, and end as they do wherever calls are answered. -/
theorem settles_passive {s : Script α} {Q : Except Fault α → Prop} (h : s.Only passive)
    (ends : s.Always .answering (fun r _ => Q r) ()) :
    s.Settles (tempo profile) (fun r l => Q r ∧ l = .clean) .clean := by
  refine h.settles (by simp [passive, Call.isPassive]) (fun c hc =>
    ⟨tempo_permits.2 ⟨?_, ?_, ?_, ?_⟩, ?_⟩) (fun _ _ ok => ok) ends
  · exact fun chip _ => (chip.passive_perform hc).1
  · exact fun _ => ⟨rfl, rfl⟩
  · intro change
    cases c <;> first | cases hc; done | cases change
  · intro asks
    cases c <;> first | cases hc; done | cases asks
  · rintro r l ⟨chip, due, -, clean, rfl, rfl⟩
    obtain ⟨answered, enabled⟩ := chip.passive_perform hc
    refine ⟨answered, ?_⟩
    have kind : c.isChange = false ∧ c.asksBusy = false := by
      cases c <;> first | exact ⟨rfl, rfl⟩ | cases hc
    obtain rfl : due = false := (congrArg Latch.due clean).symm
    rw [(owes_of_call kind.2 _ _).1, kind.1, latch, (chip.kept_perform kind.1).2 kind.2, enabled]
    exact clean.symm

/-- At every turn of such a script the chip is as it was. -/
theorem passive_step {s : Script α} (h : s.Only passive) {before : List Beat} {b : Bus Chip}
    {l : Latch} (kept : Kept profile before b l) (who : Actor) :
    Kept profile before (s.step transport who b).2 l ∧ match (s.step transport who b).1 with
      | .unfinished rest => rest.Only passive
      | .finished _ => True := by
  cases s with
  | done a => exact ⟨kept, trivial⟩
  | fault f => exact ⟨kept, trivial⟩
  | note line rest => exact ⟨kept.told (by simp [Event.beat?]), h⟩
  | call c rest =>
    obtain ⟨hc, hs⟩ := h
    have next := kept.passive who hc
    rw [Script.step]
    rcases answer : b.call transport who c with ⟨f | x, b'⟩ <;> rw [answer] at next
    · exact ⟨next, trivial⟩
    · exact ⟨next, hs (.ok x) () trivial⟩
  | untilReady rest => cases (h.1 .isBusy rfl).1

/-! ## Scripts that change stored bytes -/

theorem settles_command (command : UInt8) (enabled : Bool) {l : Latch}
    (free : l.busy = 0 ∧ l.due = false) (kind : (Call.sendCommand command).isChange = false)
    (turns : ∀ chip : Chip, (chip.perform (.sendCommand command)).device =
      { chip with writeEnabled := enabled } ∧
        (chip.perform (.sendCommand command)).reply = .ok ()) :
    (masked (.sendCommand command)).Settles (tempo profile)
      (fun r l' => r = .ok () ∧ l' = ⟨0, enabled, false⟩) l := by
  have permitted : (tempo profile).permits l (.sendCommand command) := by
    refine tempo_permits.2 ⟨fun chip _ => ?_, fun _ => free, fun change => ?_, fun asks => ?_⟩
    · rw [(turns chip).2]
      rfl
    · rw [kind] at change
      cases change
    · cases asks
  refine settles_masked (settles_ask.2 ⟨permitted, ?_⟩)
  rintro r l' ⟨chip, due, -, rfl, rfl, rfl⟩
  obtain ⟨none, rfl⟩ : chip.busy.toNat = 0 ∧ due = false := free
  rw [(owes_of_call rfl _ _).1, kind, (turns chip).1, (turns chip).2]
  exact ⟨rfl, congrArg (Latch.mk · enabled false) none⟩

/-- One transaction that changes stored bytes: the latch is on before the change, which consumes it,
and the wait after it is for the busy time of the change. -/
theorem settles_change {c : Call} (change : c.isChange = true)
    (answers : ∀ chip : Chip, chip.profile = profile → ∃ x, (chip.perform c).reply = .ok x) :
    (Transfer.change commands c).Settles (tempo profile) (fun r l => r = .ok () ∧ l = .clean)
      .clean := by
  refine settles_bind.2 (Settles.mono ?_ (settles_command commands.writeEnable true ⟨rfl, rfl⟩ rfl
    fun chip => ⟨rfl, rfl⟩))
  rintro r l ⟨rfl, rfl⟩
  refine settles_bind.2 (settles_masked (settles_ask.2 ⟨tempo_permits.2 ⟨?_, ?_, ?_, ?_⟩, ?_⟩))
  · intro chip built
    obtain ⟨x, answered⟩ := answers chip built
    rw [answered]
    rfl
  · exact fun _ => ⟨rfl, rfl⟩
  · exact fun _ => rfl
  · intro asks
    rw [(transaction_of_change change).2] at asks
    cases asks
  · rintro r l ⟨chip, due, built, -, rfl, rfl⟩
    obtain ⟨x, answered⟩ := answers chip built
    rw [(owes_of_call (transaction_of_change change).2 _ _).1, change, Bool.or_true, answered]
    refine And.intro rfl ?_
    exact settles_command commands.writeDisable false ⟨rfl, rfl⟩ rfl fun chip => ⟨rfl, rfl⟩

theorem settles_programPage {g : Geometry} (same : g.pageSize = profile.pageSize) {p : Page}
    (nonempty : p.data ≠ []) (fits : p.address.toNat % g.pageSize.toNat + p.data.length ≤
      g.pageSize.toNat) :
    (Transfer.programPage commands p).Settles (tempo profile) (fun r l => r = .ok () ∧ l = .clean)
      .clean := by
  have length : 0 < p.data.length := List.length_pos_iff.2 nonempty
  have space := g.page_addresses fits
  have bound := g.pageSize.toNat_lt
  have size : (UInt32.ofNat p.data.length).toNat = p.data.length :=
    UInt32.toNat_ofNat_of_lt' (by show _ < 2 ^ 32; omega)
  have last : ¬ 0x100000000 ≤ p.address.toNat + (p.data.length - 1) := by omega
  have pos : profile.pageSize ≠ 0 := by
    intro h
    have := g.pageSize_pos
    rw [same, h] at this
    cases this
  refine settles_bind.2 (settles_log.2 (settles_change rfl fun chip built => ⟨(), ?_⟩))
  simp only [perform, programPage, size, last, if_false, built, pos]
  split <;> [split; skip] <;> rfl

theorem settles_eraseSector (sector : profile.sectorSize ≠ 0) (e : SectorErase) :
    (Transfer.eraseSector commands e).Settles (tempo profile) (fun r l => r = .ok () ∧ l = .clean)
      .clean := by
  refine settles_bind.2 (settles_log.2 (settles_change rfl fun chip built => ⟨(), ?_⟩))
  simp only [perform, eraseSector, built, sector, if_false]
  split <;> [split; skip] <;> rfl

theorem settles_eraseAll : (Transfer.change commands (.sendCommand commands.chipErase)).Settles
    (tempo profile) (fun r l => r = .ok () ∧ l = .clean) .clean := by
  refine settles_change rfl fun chip _ => ⟨(), ?_⟩
  have other : commands.chipErase ≠ commands.writeEnable ∧
      commands.chipErase ≠ commands.writeDisable := by decide
  simp only [perform, sendCommand, other, if_false, true_or, if_true]
  split <;> rfl

/-- A write leaves the chip clean, also where it runs out of addresses. -/
theorem settles_write {g : Geometry} (same : g.pageSize = profile.pageSize) (address : UInt32)
    (data : List UInt8) : (Transfer.write g commands address data).Settles (tempo profile)
      (fun r l => l = .clean ∧ ∀ f, r = .error f → f = .overflow) .clean := by
  refine settles_bind.2 (settles_log.2 (settles_bind.2 (Settles.mono ?_
    (settles_each fun p hp => ?_))))
  · rintro r l ⟨rfl, rfl⟩
    show Settles _ _ _ _
    dsimp only
    split
    · exact ⟨rfl, nofun⟩
    · exact ⟨rfl, nofun⟩
    · exact ⟨rfl, fun f hf => (Except.error.inj hf).symm⟩
  · obtain ⟨nonempty, -, fits⟩ := g.page_of_writePlan hp
    exact settles_programPage same nonempty fits

/-- An erase leaves the chip clean. -/
theorem settles_erase {g : Geometry} (sector : profile.sectorSize ≠ 0) (address : UInt32)
    (length : Nat) : (Transfer.erase g commands address length).Settles (tempo profile)
      (fun r l => l = .clean ∧ r.isOk = true) .clean := by
  refine settles_bind.2 (settles_log.2 ?_)
  split
  · refine settles_bind.2 (settles_log.2 (settles_bind.2 (Settles.mono ?_ settles_eraseAll)))
    rintro r l ⟨rfl, rfl⟩
    exact ⟨rfl, rfl⟩
  · have sectors : (each (Transfer.eraseSector commands)
        (g.sectorsFrom (Geometry.alignErase address length).1
          (Geometry.alignErase address length).2)).Settles (tempo profile)
        (fun r l => r = .ok () ∧ l = .clean) .clean :=
      settles_each fun e _ => settles_eraseSector sector e
    simp only
    split
    · refine settles_bind.2 (settles_log.2 (settles_bind.2 (Settles.mono ?_ sectors)))
      rintro r l ⟨rfl, rfl⟩
      exact ⟨rfl, rfl⟩
    · refine settles_bind.2 (Settles.mono ?_ sectors)
      rintro r l ⟨rfl, rfl⟩
      exact ⟨rfl, rfl⟩

/-! ## Scripts of a gate -/

variable {s : Setup}

/-- A write or an erase leaves the chip clean. -/
theorem settles_perform (describes : s.Describes profile) {o : Operation} (ho : o.isRead = false) :
    (Control.perform s o).Settles (tempo profile) (fun _ l => l = .clean) .clean := by
  cases o with
  | read => cases ho
  | fastRead => cases ho
  | write address data =>
    refine settles_bind.2 (Settles.mono ?_ (describes.commands ▸
      settles_write describes.page address data))
    rintro (f | n) l ⟨rfl, -⟩ <;> rfl
  | erase address length =>
    refine settles_bind.2 (Settles.mono ?_ (describes.commands ▸
      settles_erase describes.sector address length))
    rintro (f | n) l ⟨rfl, -⟩ <;> rfl

theorem settles_serve (describes : s.Describes profile) (m : Mode) {o : Operation}
    (ho : o.isRead = false) :
    (Control.serve s m o).Settles (tempo profile) (fun _ l => l = .clean) .clean := by
  refine settles_bind.2 (Settles.mono ?_ (settles_passive (Q := fun _ => True)
    (passive_reconfigure _ _) (always_unit (fun _ => trivial) _)))
  rintro (f | ⟨e | ⟨⟩⟩) l ⟨-, rfl⟩
  · rfl
  · rfl
  · exact settles_perform describes ho

theorem passive_serve (m : Mode) {o : Operation} (ho : o.isRead = true) :
    (Control.serve s m o).Only passive := by
  refine (passive_reconfigure _ _).bind ?_
  rintro (e | ⟨⟩)
  · exact always_bind.2 (always_log.2 trivial)
  cases o with
  | read address length => exact passive_read _
  | fastRead submode address length =>
    exact Only.bind (only_ask (by rfl)) fun _ => passive_fastRead _ _
  | write => cases ho
  | erase => cases ho

end Chip

/-- Whether the duty is to change stored bytes. -/
def Duty.changes : Duty → Bool
  | .serve j => !j.operation.isRead
  | _ => false

namespace Chip

variable {profile : Profile} {c : Control} {d : Duty} {script : Script (List UInt8)}

/-- Every script that a thread of a gate takes up to change stored bytes leaves the chip clean. -/
theorem settles_begins (describes : c.setup.Describes profile) (h : c.Begins d script)
    (changes : d.changes = true) :
    script.Settles (tempo profile) (fun _ l => l = .clean) .clean := by
  cases h with
  | serve j => exact settles_serve describes c.mode (by simpa [Duty.changes] using changes)
  | _ => cases changes

theorem passive_begins (h : c.Begins d script) (changes : d.changes = false) :
    script.Only passive := by
  cases h with
  | serve j => exact passive_serve c.mode (by simpa [Duty.changes] using changes)
  | release l => exact only_release passive_arranges _ _
  | setUp id => exact only_openWindow passive_arranges
  | shutDown id w => exact only_shutWindow passive_arranges
  | read id r => exact passive_fastRead _ _

end Chip

end FlashGate

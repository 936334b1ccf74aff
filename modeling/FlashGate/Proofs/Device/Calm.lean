/-
The emulated chip as an observer sees it who looks past busy polls, interrupt masks and connects
that fail: `calm` forgets what these change. Main statements: `perform_calm`, that every other call
does to the calm chip what it does to the chip itself, and `world_shows`, that a script judged in
the chip's world runs on the chip with no breach that the chip's profile does not tolerate.
-/
import FlashGate.Chip
import FlashGate.Proofs.Gateway.Reach

namespace FlashGate

/-- The breaches in a journal. -/
def breachesIn (journal : List Entry) : List Breach := journal.filterMap (·.event.breach?)

@[simp] theorem breachesIn_append (a b : List Entry) :
    breachesIn (a ++ b) = breachesIn a ++ breachesIn b := List.filterMap_append ..

namespace Chip

/-- Whether the device consists of whole pages and whole sectors. -/
def Profile.IsWhole (p : Profile) : Prop :=
  p.size.toNat % p.pageSize.toNat = 0 ∧ p.size.toNat % 4096 = 0

instance (p : Profile) : Decidable p.IsWhole := inferInstanceAs (Decidable (_ ∧ _))

/-- The breaches that may happen on a device: programs and erases past its end, where it ends
inside of a page or of a sector. -/
def Profile.Tolerates (p : Profile) : Breach → Prop
  | .programPastEnd _ => ¬ p.IsWhole
  | .erasePastEnd _ => ¬ p.IsWhole
  | _ => False

/-- The chip without what busy polls, interrupt masks and failing connects change. -/
def calm (chip : Chip) : Chip :=
  { chip with busy := 0, interruptMask := 0, connectFailuresLeft := 0 }

theorem calm_poll (chip : Chip) {c : Call} (hc : c.isPoll = true) :
    (chip.perform c).device.calm = chip.calm ∧ (chip.perform c).breaches = [] ∧
      (chip.perform c).reply.isOk = true := by
  cases c <;> first | exact ⟨rfl, rfl, rfl⟩ | skip
  all_goals first | cases hc; done | skip
  simp only [perform, poll]
  split <;> exact ⟨rfl, rfl, rfl⟩

theorem calm_connect (chip : Chip) :
    ((chip.perform .connect).reply = .ok (.ok ()) ∧
        (chip.perform .connect).device.calm = { chip.calm with connected := true } ∨
      (∃ e, (chip.perform .connect).reply = .ok (.error e)) ∧
        (chip.perform .connect).device.calm = chip.calm) ∧
      (chip.perform .connect).breaches ⊆ (chip.calm.perform .connect).breaches := by
  have calm : (chip.calm.perform .connect).breaches =
      if chip.fastReadActive then [.fastReadActive .connect] else [] := rfl
  simp only [perform, connect] at calm ⊢
  split
  · exact ⟨.inr ⟨⟨_, rfl⟩, rfl⟩, List.nil_subset _⟩
  · exact ⟨.inl ⟨rfl, rfl⟩, by rw [calm]; exact fun _ h => h⟩

/-- Two outcomes of a call that look the same to an observer of the calm chip. -/
def SeenAlike {c : Call} (o' o : Outcome Chip c) : Prop :=
  o'.reply = o.reply ∧ o'.device.calm = o.device.calm ∧ o'.breaches = o.breaches

theorem seenAlike_ite {c : Call} {p : Prop} [Decidable p] {a' a b' b : Outcome Chip c}
    (ha : SeenAlike a' a) (hb : SeenAlike b' b) :
    SeenAlike (if p then a' else b') (if p then a else b) := by
  split
  · exact ha
  · exact hb

/-- A call that is no poll and no connect does to the calm chip what it does to the chip. -/
theorem perform_calm (chip : Chip) {c : Call} (hp : c.isPoll = false) (hc : c ≠ .connect) :
    (chip.calm.perform c).reply = (chip.perform c).reply ∧
      (chip.calm.perform c).device.calm = (chip.perform c).device.calm ∧
      (chip.calm.perform c).breaches = (chip.perform c).breaches := by
  cases c
  case connect => exact absurd rfl hc
  case isBusy => cases hp
  case maskInterrupts => cases hp
  case restoreInterrupts => cases hp
  -- no condition of the other calls looks at what the calm chip forgets
  case readRaw command address buffer => exact seenAlike_ite ⟨rfl, rfl, rfl⟩ ⟨rfl, rfl, rfl⟩
  case fastRead address buffer => exact seenAlike_ite ⟨rfl, rfl, rfl⟩ ⟨rfl, rfl, rfl⟩
  case sendCommand command =>
    exact seenAlike_ite ⟨rfl, rfl, rfl⟩ (seenAlike_ite ⟨rfl, rfl, rfl⟩
      (seenAlike_ite (seenAlike_ite ⟨rfl, rfl, rfl⟩ ⟨rfl, rfl, rfl⟩) ⟨rfl, rfl, rfl⟩))
  case programPage command address data =>
    exact seenAlike_ite ⟨rfl, rfl, rfl⟩ (seenAlike_ite ⟨rfl, rfl, rfl⟩
      (seenAlike_ite (seenAlike_ite ⟨rfl, rfl, rfl⟩ ⟨rfl, rfl, rfl⟩) ⟨rfl, rfl, rfl⟩))
  case eraseSector command address =>
    exact seenAlike_ite ⟨rfl, rfl, rfl⟩
      (seenAlike_ite (seenAlike_ite ⟨rfl, rfl, rfl⟩ ⟨rfl, rfl, rfl⟩) ⟨rfl, rfl, rfl⟩)
  all_goals exact ⟨rfl, rfl, rfl⟩

@[simp] theorem profile_perform (chip : Chip) (c : Call) :
    (chip.perform c).device.profile = chip.profile := by
  cases c
  case programPage command address data =>
    by_cases hh : chip.memory.holds address.toNat data.length = true <;>
      simp only [perform, programPage, begin, hh] <;> (repeat' split) <;> simp_all
  case eraseSector command address =>
    by_cases hh : chip.memory.holds
        (address.toUInt64 &&& ~~~(chip.profile.sectorSize.toUInt64 - 1)).toNat
        chip.profile.sectorSize.toNat = true <;>
      simp only [perform, eraseSector, begin, hh] <;> (repeat' split) <;> simp_all
  all_goals simp only [perform, connect, readRaw, sendCommand, calibrate, fastRead, poll, begin]
  all_goals repeat' split
  all_goals rfl

/-- Every breach that a chip reports is one that the calm chip reports. -/
theorem breaches_subset (chip : Chip) (c : Call) :
    (chip.perform c).breaches ⊆ (chip.calm.perform c).breaches := by
  by_cases hp : c.isPoll = true
  · rw [(chip.calm_poll hp).2.1]
    exact List.nil_subset _
  · by_cases hc : c = .connect
    · subst hc
      exact chip.calm_connect.2
    · rw [(chip.perform_calm (by simpa using hp) hc).2.2]
      exact fun _ h => h

/-! ## The world of a chip -/

/-- The world of a chip: calls may be made that report no breach but tolerated ones, and any connect
may fail. -/
def world : World Chip where
  permits w c := ∀ x ∈ (w.perform c).breaches, w.profile.Tolerates x
  reacts w c r w' := ∃ chip : Chip, chip.calm = w ∧ (chip.perform c).reply = r ∧
    (chip.perform c).device.calm = w'

theorem world_polls {E : Fault → Chip → Prop} {w : Chip} : world.Polls E w := by
  refine fun c hc => ⟨?_, ?_⟩
  · intro x hx
    rw [(w.calm_poll hc).2.1] at hx
    cases hx
  · rintro r w' ⟨chip, rfl, rfl, rfl⟩
    have answered := (chip.calm_poll hc).2.2
    rcases h : (chip.perform c).reply with f | x
    · rw [h] at answered
      cases answered
    · exact (chip.calm_poll hc).1

theorem world_reacts {w w' : Chip} {c : Call} {r : Except Fault c.Reply}
    (h : world.reacts w c r w') (hp : c.isPoll = false := by rfl)
    (hc : c ≠ .connect := by intro h; cases h) :
    r = (w.perform c).reply ∧ w' = (w.perform c).device.calm := by
  obtain ⟨chip, rfl, rfl, rfl⟩ := h
  obtain ⟨reply, device, -⟩ := chip.perform_calm hp hc
  exact ⟨reply.symm, device.symm⟩

/-- What is seen of a chip of the given profile with its journal: the calm chip, and only tolerated
breaches. -/
structure Seen (profile : Profile) (b : Bus Chip) (w : Chip) : Prop where
  calm : b.device.calm = w
  built : w.profile = profile
  tolerated : ∀ x ∈ breachesIn b.journal.toList, profile.Tolerates x

/-- The world of a chip shows what any thread does to it. -/
theorem world_shows (profile : Profile) (who : Actor) :
    world.Shows transport who (Seen profile) where
  call := by
    rintro b w c ⟨rfl, rfl, tolerated⟩ permitted
    refine ⟨_, ⟨b.device, rfl, rfl, rfl⟩, rfl, profile_perform .., ?_⟩
    intro x hx
    rw [Bus.toList_journal_call, breachesIn_append, List.mem_append] at hx
    rcases hx with hx | hx
    · exact tolerated x hx
    · have reported : x ∈ (transport.perform b.device c).breaches := by
        simpa [breachesIn, Event.breach?, List.filterMap_map, Function.comp_def] using hx
      exact permitted x (b.device.breaches_subset c reported)
  log := by
    rintro b w l ⟨rfl, rfl, tolerated⟩
    refine ⟨rfl, rfl, fun x hx => tolerated x ?_⟩
    simpa [Bus.log, Bus.toList_journal_record, breachesIn, Event.breach?] using hx

end Chip

end FlashGate

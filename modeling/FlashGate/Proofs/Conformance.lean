/-
Protocol conformance of the gate over the emulated chip. Main statement: `breaches_past_end`, that
whatever chip, configuration and run of the threads, with connects failing at any time, the chip
reports nothing but programs and erases past its end, and these only if it ends inside of a page or
of a sector.
-/
import FlashGate.Proofs.Device.BringUp

namespace FlashGate

open Chip

theorem Chip.Profile.tolerates_iff {p : Profile} {x : Breach} : p.Tolerates x ↔
    (∃ a, x = .programPastEnd a ∨ x = .erasePastEnd a) ∧ ¬ p.IsWhole := by
  cases x <;> simp [Profile.Tolerates]

/-- A gate opened over a fresh chip is judged at every moment of its run. -/
theorem stands_of_start {chip : Chip} (fresh : chip.IsFresh) {config : Config} {id : ClientId}
    {c : Control} {b : Bus Chip} (h : Gate.start transport config id ⟨chip, #[]⟩ = (.ok (.ok c), b))
    {g : Gate Chip} (reach : Gate.Reach transport failing ⟨c, b⟩ g) :
    ∃ s : Setup, s.geometry.totalSize = chip.profile.size ∧
      s.geometry.pageSize = chip.profile.pageSize ∧ s.retry = config.retry ∧ g.control.Sound ∧
      ∃ done, (judgement s chip.profile chip.memory).contract.Stands g done := by
  obtain ⟨s, rfl, -, -, retry, taken, rest⟩ := start_opened fresh h
  have ⟨w, _, rests⟩ := rest
  have size := rests.matched.size
  have page := rests.matched.page
  rw [rests.profile] at size page
  exact ⟨s, size, page, retry, Contract.reach (Contract.Stands.opened rest taken)
    (Control.sound_opened s) reach⟩

/-- Whatever the chip, the configuration and the run, with connects failing at any time, the chip
reports nothing but programs and erases past its end; and none of these if it consists of whole
pages and sectors. -/
theorem breaches_past_end (profile : Profile) (data : List UInt8) (failures : UInt32)
    (config : Config) (id : ClientId) (r : Except Fault (Except DeviceError Control))
    (b : Bus Chip)
    (start : Gate.start transport config id ⟨(make profile data).failConnects failures, #[]⟩ =
      (r, b)) :
    (∀ x ∈ breachesIn b.journal.toList,
      (∃ a, x = .programPastEnd a ∨ x = .erasePastEnd a) ∧ ¬ profile.IsWhole) ∧
    ∀ c g, r = .ok (.ok c) → Gate.Reach transport failing ⟨c, b⟩ g →
      ∀ x ∈ breachesIn g.bus.journal.toList,
        (∃ a, x = .programPastEnd a ∨ x = .erasePastEnd a) ∧ ¬ profile.IsWhole := by
  have fresh := isFresh_make profile data failures
  constructor
  · obtain ⟨-, w, seen⟩ := start_breaches fresh config id
    rw [start] at seen
    exact fun x hx => Profile.tolerates_iff.1 (seen.tolerated x hx)
  · rintro c g rfl reach x hx
    obtain ⟨s, -, -, -, -, done, stands⟩ := stands_of_start fresh start reach
    obtain ⟨w, seen, -⟩ := stands.holds
    exact Profile.tolerates_iff.1 (seen.tolerated x hx)

/-- A chip of one sector. -/
def oneSector : Profile := { size := 4096 }

/-- A gate that is opened over a chip of one sector, with fast reads that swap nibbles. -/
def Gate.small : Except Fault (Except DeviceError Control) × Bus Chip :=
  Gate.start transport { fastRead := some ⟨.nibbleSwap, 0⟩ } 0 ⟨make oneSector [], #[]⟩

/-- What is read off the control state that the small gate opens with. -/
def Gate.ofSmall {α : Type} (f : Control → α) : Option α :=
  match Gate.small.1 with
  | .ok (.ok c) => some (f c)
  | _ => none

theorem Gate.small_opens : ∃ c, Gate.small.1 = .ok (.ok c) :=
  start_succeeds rfl rfl (by decide) (by decide) _ _

theorem Gate.start_of_small {c : Control} (opened : Gate.small.1 = .ok (.ok c)) :
    Gate.start transport { fastRead := some ⟨.nibbleSwap, 0⟩ } 0 ⟨make oneSector [], #[]⟩ =
      (.ok (.ok c), Gate.small.2) := by
  rw [← opened]
  rfl

/-- On the small gate a write, and a read through a low-level window, report nothing. -/
theorem breaches_past_end_small : ∃ c, Gate.small.1 = .ok (.ok c) ∧
    breachesIn (((({ gate := ⟨c, Gate.small.2⟩ } : Session Chip).act transport 0
      (.write 1 [0x0F])).act transport 0 .openWindow).act transport 0
      (.bypassRead 0 [0, 0])).gate.bus.journal.toList = [] := by
  obtain ⟨c, opened⟩ : ∃ c, Gate.small.1 = .ok (.ok c) :=
    start_succeeds rfl rfl (by decide) (by decide) _ _
  refine ⟨c, opened, ?_⟩
  have reach : Gate.Reach transport failing ⟨c, Gate.small.2⟩
      ({ gate := ⟨c, Gate.small.2⟩ } : Session Chip).gate := .refl
  have none := (breaches_past_end oneSector [] 0 { fastRead := some ⟨.nibbleSwap, 0⟩ } 0
    Gate.small.1 Gate.small.2 rfl).2 c _ opened (Session.reach_act 0 (.bypassRead 0 [0, 0])
      (Session.reach_act 0 .openWindow (Session.reach_act 0 (.write 1 [0x0F]) reach)))
  have whole : oneSector.IsWhole := by decide
  exact List.eq_nil_iff_forall_not_mem.2 fun x hx => (none x hx).2 whole

end FlashGate

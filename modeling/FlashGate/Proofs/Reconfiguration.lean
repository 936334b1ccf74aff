/-
Exact reconfiguration. Main statement: `reconfigures_exactly`, that over any device the dispatcher
claims and gives up hardware exactly as the messages that it is done with ask for, in their order;
and that over the emulated chip the hardware held between the messages is what the mode says.
-/
import FlashGate.Proofs.Gateway.Change
import FlashGate.Proofs.Linearization

namespace FlashGate

open Chip

namespace Gate

variable {σ : Type} {T : Transport σ} {env : σ → σ → Prop}

theorem retry_of_start {config : Config} {id : ClientId} {device : σ} {c : Control} {b : Bus σ}
    (start : Gate.start T config id ⟨device, #[]⟩ = (.ok (.ok c), b)) :
    c.setup.retry = config.retry := by
  unfold Gate.start at start
  rcases hr : (BringUp.script config).run T (.client id) ⟨device, #[]⟩ with
    ⟨f | ⟨e | ⟨g, st⟩⟩, b'⟩ <;> rw [hr] at start <;> cases start
  rfl

/-- The dispatcher has made the changes that the messages it is done with ask for, and its mode is
what the last of them left. -/
def Reconfigured (retries : Nat) (g : Gate σ) : Prop :=
  ∃ done current st, takenIn g.bus.journal.toList = done ++ current ∧
    Control.Pending g.control.dispatcher current ∧ g.control.Stands st ∧
    st.mode.category? = categoryAfter done ∧
    Change.Follows retries (Change.plan none done) (changesIn g.bus.journal.toList)

/-- Between its scripts the dispatcher has made the changes asked for. -/
theorem reconfigured_of_start {config : Config} {id : ClientId} {device : σ} {c : Control}
    {b : Bus σ} (start : Gate.start T config id ⟨device, #[]⟩ = (.ok (.ok c), b)) {g : Gate σ}
    (reach : Reach T env ⟨c, b⟩ g) (free : ∀ who, ¬ g.control.Drives who)
    (sane : g.control.dispatcher.isFaulted = false) :
    g.Reconfigured config.retry.retries.toNat := by
  have retry := retry_of_start start
  obtain ⟨⟨s, rfl⟩, traffic, -, journal⟩ := opened_of_start start
  have nothing := takenIn_start T config id device
  rw [start] at nothing
  have none : changesIn b.journal.toList = [] := by
    rw [journal]
    exact changesIn_eq_nil (.inl (by simp))
  obtain ⟨-, done, stands⟩ := Contract.reach (K := (Change.judgement T env s).contract)
    (.opened ⟨[], none, .nil, rfl⟩ nothing) (Control.sound_opened s) reach
  have alive : g.control.dispatcher ≠ .aborted := fun h => by rw [h] at sane; cases sane
  have off := Control.not_on_of_drives alive free
  obtain ⟨st, there⟩ := Control.exists_stands off sane
  obtain ⟨current, taken, pending⟩ := stands.taken
  obtain ⟨_, rfl, made⟩ := stands.rest off st there
  have retry : s.retry = config.retry := retry
  exact ⟨done, current, st, taken, pending, there, made.category,
    by rw [← retry]; exact made.follows⟩

end Gate

/-- Over the emulated chip the hardware that is held between the scripts is what the stage says. -/
theorem held_of_start {chip : Chip} (fresh : chip.IsFresh) {config : Config} {id : ClientId}
    {c : Control} {b : Bus Chip}
    (start : Gate.start transport config id ⟨chip, #[]⟩ = (.ok (.ok c), b)) {g : Gate Chip}
    (reach : Gate.Reach transport failing ⟨c, b⟩ g) (free : ∀ who, ¬ g.control.Drives who)
    (sane : g.control.dispatcher.isFaulted = false) {st : Stage} (there : g.control.Stands st) :
    g.bus.device.At st := by
  obtain ⟨s, -, -, -, -, done, stands⟩ := stands_of_start fresh start reach
  have alive : g.control.dispatcher ≠ .aborted := fun h => by rw [h] at sane; cases sane
  obtain ⟨w, ⟨seen, -⟩, rests⟩ := stands.rest (Control.not_on_of_drives alive free) st there
  have stands := rests.stands
  rw [← seen.calm] at stands
  cases st <;> exact stands

/-- Exact reconfiguration, for any number of clients, and whatever the order in which the threads
move. Over any device, which may be changed from outside at any time, the connects, disconnects,
set-ups and shut-downs of the dispatcher are those that the messages it is done with ask for: none
for a job of the category of the job before; the claim of its hardware for the first job since the
start or the last park; the release of the old and then the claim of the new for a job of the other
category; the release of what is held at a park and at the end. A connect may have failed as often
as there are retries before it succeeds. Over the emulated chip, with connects made to fail at any
time, the chip is connected where the mode is direct, and its fast-read hardware is set up where the
mode is one of fast reads. -/
theorem reconfigures_exactly :
    (∀ (σ : Type) (T : Transport σ) (env : σ → σ → Prop) (config : Config) (id : ClientId)
      (device : σ) (c : Control) (b : Bus σ) (g : Gate σ),
      Gate.start T config id ⟨device, #[]⟩ = (.ok (.ok c), b) → Gate.Reach T env ⟨c, b⟩ g →
      (∀ who, ¬ g.control.Drives who) → g.control.dispatcher.isFaulted = false →
      g.Reconfigured config.retry.retries.toNat) ∧
    ∀ (profile : Profile) (data : List UInt8) (failures : UInt32) (config : Config)
      (id : ClientId) (c : Control) (b : Bus Chip) (g : Gate Chip) (m : Mode),
      Gate.start transport config id ⟨(make profile data).failConnects failures, #[]⟩ =
        (.ok (.ok c), b) →
      Gate.Reach transport failing ⟨c, b⟩ g → (∀ who, ¬ g.control.Drives who) →
      g.control.dispatcher.isFaulted = false → g.control.Stands (.held m) →
      g.bus.device.connected = m.isDirect ∧ g.bus.device.fastReadActive = m.isFastRead := by
  constructor
  · intro σ T env config id device c b g start reach free sane
    exact Gate.reconfigured_of_start start reach free sane
  · intro profile data failures config id c b g m start reach free sane there
    exact held_of_start (isFresh_make profile data failures) start reach free sane there

theorem Session.reach_mapDevice {σ : Type} {T : Transport σ} {env : σ → σ → Prop} {g₀ : Gate σ}
    {s : Session σ} (f : σ → σ) (change : ∀ d, env d (f d)) (h : Gate.Reach T env g₀ s.gate) :
    Gate.Reach T env g₀ (s.mapDevice f).gate :=
  .outside h (change _)

/-- The small gate whose next two connects fail, after a write and a fast read of one client, a
low-level window, an erase, and its end. -/
def Gate.smallReconfigured (c : Control) : Gate Chip :=
  (((((((({ gate := ⟨c, Gate.small.2⟩ } : Session Chip).mapDevice (failConnects · 2)).act
    transport 0 (.write 1 [0x0F])).act transport 0 (.read 0 [0])).act transport 0 .openWindow).act
      transport 0 .closeWindow).act transport 1 (.erase 0 1)).act transport 0 .drop).gate

/-- On the small gate the first connect takes three attempts, and at the end all hardware is
released. -/
theorem reconfigures_exactly_small : ∃ c, Gate.small.1 = .ok (.ok c) ∧
    (Gate.smallReconfigured c).Reconfigured 5 ∧
    changesIn (Gate.smallReconfigured c).bus.journal.toList =
      [.failedConnect, .failedConnect, .connect, .disconnect, .setUp, .shutDown, .connect,
        .disconnect] ∧
    (Gate.smallReconfigured c).bus.device.connected = false ∧
    (Gate.smallReconfigured c).bus.device.fastReadActive = false := by
  obtain ⟨c, opened⟩ := Gate.small_opens
  have fresh : Gate.Reach transport failing ⟨c, Gate.small.2⟩
      ({ gate := ⟨c, Gate.small.2⟩ } : Session Chip).gate := .refl
  have reach : Gate.Reach transport failing ⟨c, Gate.small.2⟩ (Gate.smallReconfigured c) :=
    Session.reach_act 0 _ (Session.reach_act 1 _ (Session.reach_act 0 _ (Session.reach_act 0 _
      (Session.reach_act 0 _ (Session.reach_act 0 _
        (Session.reach_mapDevice _ (fun _ => ⟨2, rfl⟩) fresh))))))
  have start := Gate.start_of_small opened
  have played : Gate.ofSmall (fun c => (changesIn (Gate.smallReconfigured c).bus.journal.toList,
      (Gate.smallReconfigured c).control.dispatcher.hasStopped)) =
      some ([.failedConnect, .failedConnect, .connect, .disconnect, .setUp, .shutDown, .connect,
        .disconnect], true) := by
    decide +kernel
  simp only [Gate.ofSmall, opened, Option.some.injEq, Prod.mk.injEq] at played
  obtain ⟨changes, stopped⟩ := played
  have halted := Dispatcher.eq_stopped stopped
  have sound := (Gate.balanced_of_start start reach).1
  have free := Control.not_drives_of_off (sound.off_of_stopped halted)
  have sane : (Gate.smallReconfigured c).control.dispatcher.isFaulted = false := by
    rw [halted]
    rfl
  have there : (Gate.smallReconfigured c).control.Stands (.held .released) := by
    simp only [Control.Stands, halted]
  obtain ⟨connected, fast⟩ := reconfigures_exactly.2 oneSector [] 0 _ 0 c _ _ _ start
    reach free sane there
  exact ⟨c, opened, reconfigures_exactly.1 _ _ _ _ 0 _ c _ _ start reach free sane, changes,
    connected, fast⟩

end FlashGate

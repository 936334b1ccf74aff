/-
Exclusion of low-level windows. Main statement: `windows_exclude`, that over any device whose calls
come back, and whatever the interleaving of the threads, at most one of them is at a call, the calls
past the queue form whole windows that start with all hardware released and that no call of the
dispatcher falls into, and reads past the queue that find no window are refused without a call.
-/
import FlashGate.Proofs.Conformance
import FlashGate.Proofs.Gateway.Refusal
import FlashGate.Proofs.Gateway.Trace

namespace FlashGate

variable {σ : Type} {T : Transport σ} {env : σ → σ → Prop}

/-- A thread that is about to go on with a script holds the transport. -/
theorem Control.holder_of_drives {c : Control} (locks : c.Locks) {who : Actor}
    (h : c.Drives who) : c.holder = some who := by
  obtain ⟨script, resume, hm⟩ := h
  rcases Control.move?_duty hm with ⟨_, _, h⟩ | ⟨d, s, rfl, on, -⟩
  · cases h
  · exact (locks.transport _).2 on.onTransport

/-- When the dispatcher is about to make a call, no window is under way. -/
theorem blocks_of_call {start : Trace} {returns : T.Returns} {s : Setup} {g : Gate σ}
    {done : List Message}
    (stands : (Trace.judgement start returns env s).contract.Stands g done)
    {script : Script (List UInt8)}
    {resume : Script.Progress (List UInt8) → Control × List Event} {call : Call}
    (hm : g.control.move? .dispatcher = some (.drive script resume))
    (hc : script.next? = some call) : Trace.Blocks start (tracedIn g.bus.journal.toList) := by
  rcases Control.move?_duty hm with ⟨_, _, h⟩ | ⟨d, s, actor, on, h⟩
  · cases h
  · cases h
    obtain ⟨t, ⟨rfl, -⟩, runs⟩ := stands.runs d script on
    have permitted := runs.permits hc
    rwa [actor] at permitted

/-- Low-level windows exclude all other traffic, over any device whose calls come back and which
may be changed from outside at any time. At most one thread is at a call on the device, and it holds
the transport. The trace consists of calls of the dispatcher and of whole windows that start with
all hardware released, the last one perhaps under way; and none is under way when the dispatcher is
about to make a call. While a window is being opened no client has the spin lock for a read past the
queue, and one that tries is refused. A read past the queue that finds no window readable, from
before it takes its locks to its end, makes no call on the device and is refused. -/
theorem windows_exclude (returns : T.Returns) (config : Config) (id : ClientId) (device : σ)
    (c : Control) (b : Bus σ)
    (start : Gate.start T config id ⟨device, #[]⟩ = (.ok (.ok c), b)) (g : Gate σ)
    (reach : Gate.Reach T env ⟨c, b⟩ g) :
    (∀ who, g.control.Drives who → g.control.holder = some who ∧
      ∀ who', g.control.Drives who' → who' = who) ∧
    Trace.Shaped (tracedIn b.journal.toList) (tracedIn g.bus.journal.toList) ∧
    (∀ script resume call, g.control.move? .dispatcher = some (.drive script resume) →
      script.next? = some call →
      Trace.Blocks (tracedIn b.journal.toList) (tracedIn g.bus.journal.toList)) ∧
    (∀ j, g.control.IsOpening → (g.control.client j).task.spins = 0 ∧
      ∀ r, (g.control.client j).task = .bypassSpinning r → g.control.move? (.client j) =
        some (.quiet (g.control.finish j (.refused .lockUnavailable r.buffer)) [])) ∧
    ∀ j r, (g.control.client j).task = .bypassChecking r ∨
        (g.control.client j).task = .bypassSpinning r →
      ∀ g', Gate.During T env (Gate.Spurned j) g g' → Gate.Silent (.client j) g.bus g'.bus ∧
        ((g'.control.client j).task = .idle →
          ∃ a, (g'.control.client j).answer = some a ∧ Control.Refuses r a) := by
  obtain ⟨sound, s, done, stands⟩ := traced_of_reach returns start reach
  have holds (who : Actor) (h : g.control.Drives who) := Control.holder_of_drives sound.locks h
  refine ⟨fun who h => ⟨holds who h, fun who' h' => ?_⟩, ?_, fun _ _ _ hm hc => ?_,
    fun j opening => ⟨sound.spins_opening opening, fun r h => sound.refused_opening opening h⟩,
    fun j r h g' during => ?_⟩
  · exact Option.some.inj ((holds who' h').symm.trans (holds who h))
  · obtain ⟨t, rfl, shaped⟩ := stands.holds
    exact shaped
  · exact blocks_of_call stands hm hc
  · have tries : Control.Tries r (g.control.client j) := h.elim .checking .spinning
    obtain ⟨-, silent, tries⟩ := during.refused sound tries
    refine ⟨silent, fun idle => ?_⟩
    cases tries with
    | refused a _ answer ha => exact ⟨a, answer, ha⟩
    | detaching a h => rw [h] at idle; cases idle
    | unspinning a h => rw [h] at idle; cases idle
    | _ h => rw [h] at idle; cases idle

theorem Chip.returns : Chip.transport.Returns := by
  intro d c hc
  have ok : ((d.perform c).reply).isOk = true := by
    cases c with
    | isBusy => unfold perform poll; simp only; split <;> rfl
    | fastRead a bytes => unfold perform fastRead; simp only; split <;> rfl
    | _ => first | rfl | cases hc
  exact ok

/-- The small gate after a write, and a read through a low-level window that stays open. -/
def Gate.smallWindow (c : Control) : Gate Chip :=
  (((({ gate := ⟨c, Gate.small.2⟩ } : Session Chip).act Chip.transport 0 (.write 1 [0x0F])).act
    Chip.transport 0 .openWindow).act Chip.transport 0 (.bypassRead 0 [0, 0])).gate

/-- On the small gate the write is the dispatcher's, which then releases its hardware, and the
window is a block of four calls so far. -/
theorem windows_exclude_small : ∃ c, Gate.small.1 = .ok (.ok c) ∧
    Trace.Shaped (tracedIn Gate.small.2.journal.toList)
      (tracedIn (Gate.smallWindow c).bus.journal.toList) ∧
    ((tracedIn (Gate.smallWindow c).bus.journal.toList).map (·.1)).drop
      (tracedIn Gate.small.2.journal.toList).length =
      List.replicate 5 .dispatcher ++ List.replicate 4 (.client 0) := by
  obtain ⟨c, opened⟩ : ∃ c, Gate.small.1 = .ok (.ok c) :=
    Chip.start_succeeds rfl rfl (by decide) (by decide) _ _
  refine ⟨c, opened, ?_, ?_⟩
  · have fresh : Gate.Reach Chip.transport Chip.failing ⟨c, Gate.small.2⟩
        ({ gate := ⟨c, Gate.small.2⟩ } : Session Chip).gate := .refl
    have reach : Gate.Reach Chip.transport Chip.failing ⟨c, Gate.small.2⟩ (Gate.smallWindow c) :=
      Session.reach_act 0 _ (Session.reach_act 0 _ (Session.reach_act 0 _ fresh))
    have start : Gate.start Chip.transport { fastRead := some ⟨.nibbleSwap, 0⟩ } 0
        ⟨Chip.make oneSector [], #[]⟩ = (.ok (.ok c), Gate.small.2) := by
      rw [← opened]
      rfl
    exact (windows_exclude Chip.returns _ 0 _ c _ start _ reach).2.1
  · have played : Gate.ofSmall (fun c =>
        ((tracedIn (Gate.smallWindow c).bus.journal.toList).map (·.1)).drop
          (tracedIn Gate.small.2.journal.toList).length) =
        some (List.replicate 5 .dispatcher ++ List.replicate 4 (.client 0)) := by
      decide +kernel
    simpa only [Gate.ofSmall, opened, Option.some.injEq] using played

end FlashGate

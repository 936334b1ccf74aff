/-
The faults of a dispatcher over a device that answers every call. Main statement:
`overrun_of_reach`, that but for the loss of the flash such a dispatcher faults only where 32-bit
sums run out: in a connect without a bound on its attempts, or in a write on a device whose last
page ends with the last address.
-/
import FlashGate.Proofs.Faults
import FlashGate.Proofs.Gateway.Contract

namespace FlashGate

/-- The device answers every call. -/
def Transport.Answers {σ : Type} (T : Transport σ) : Prop :=
  ∀ d c, (T.perform d c).reply.isOk = true

/-- The world of an observer who knows that every call is answered. -/
def World.answering : World Unit where
  permits _ _ := True
  reacts _ _ r _ := r.isOk = true

theorem World.obliging_answering : World.answering.Obliging := ⟨fun _ _ => trivial, fun _ _ h => h⟩

/-! ## The judgement -/

/-- Whether 32-bit sums can run out in a dispatcher that is set up so: nothing bounds the attempts
of a connect, or the last page ends with the last address. -/
def Setup.CanOverrun (s : Setup) : Prop :=
  s.retry.retries.toNat = 2 ^ 32 - 1 ∨ s.geometry.pagesEnd = 2 ^ 32

namespace Overrun

open Script

/-- The faults that may hit the dispatcher: the flash lost, or sums that run out where they can. -/
def MayFault (s : Setup) (f : Fault) : Prop := f = .flashLost ∨ f = .overflow ∧ s.CanOverrun

variable {s : Setup}

theorem faultsIn_reconfigure (steps : Reconfiguration) :
    (Transfer.reconfigure steps s.retry).FaultsIn .answering (MayFault s) :=
  Transfer.always_reconfigure_obliging World.obliging_answering (by rintro f ⟨⟩)
    ((Transfer.faultsIn_connect World.obliging_answering s.retry).mono fun _ ⟨hf, unbounded⟩ =>
      .inr ⟨hf, .inl unbounded⟩)

theorem faultsIn_perform (o : Operation) :
    (Control.perform s o).FaultsIn .answering (MayFault s) :=
  Transfer.faultsIn_perform World.obliging_answering
    (fun _ _ _ => (Transfer.faultsIn_write World.obliging_answering fun _ _ => trivial).mono
      fun _ ⟨hf, out⟩ => .inr ⟨hf, .inr out.2.1⟩)
    (fun _ _ _ => Transfer.faultsIn_erase World.obliging_answering fun _ _ => trivial)

theorem faultsIn_serve (m : Mode) (o : Operation) :
    (Control.serve s m o).FaultsIn .answering (MayFault s) := by
  refine (faultsIn_reconfigure _).bind ?_
  rintro (e | ⟨⟩)
  · refine FaultsIn.noted ?_
    rintro f ⟨⟩
    exact .inl rfl
  · exact faultsIn_perform o

theorem faultsIn_release (m : Mode) :
    (Control.release s m).FaultsIn .answering (MayFault s) := by
  refine (faultsIn_reconfigure _).bind ?_
  rintro (e | ⟨⟩)
  · exact FaultsIn.noted faultsIn_pure
  · exact faultsIn_pure

variable {σ : Type} {T : Transport σ}

/-- The judgement of the faults of a gate, over a device that answers every call. -/
def judgement (answers : T.Answers) (env : σ → σ → Prop) (s : Setup) : Judgement T env s Unit where
  W _ := .answering
  Seen _ _ _ := True
  shows _ _ := {
    call := fun b _ c _ _ => ⟨(), answers b.device c, trivial⟩
    log := fun _ _ _ _ => trivial }
  aside _ _ := trivial
  outside _ _ := trivial
  sentinel _ _ := trivial
  Rest _ _ _ := True
  Served _ _ _ _ := True
  May := MayFault s
  serve _ _ _ := by
    refine Always.mono (fun r w h => ?_) (faultsIn_serve _ _)
    cases r with
    | ok bytes => trivial
    | error f => exact h f rfl
  served _ _ := ⟨trivial, trivial⟩
  release _ := by
    refine Always.mono (fun r w h => ?_) (faultsIn_release _)
    cases r with
    | ok bytes => exact fun _ _ => trivial
    | error f => exact h f rfl
  setUp _ _ := always_unit (fun _ => trivial) _
  read _ := always_unit (fun _ => trivial) _
  shutDown _ := by
    refine Always.mono (fun r w _ => ?_) (always_unit (fun _ => trivial) _)
    cases r <;> trivial

end Overrun

/-- Over a device that answers every call, a fault ends the dispatcher of a gate only where sums can
run out. -/
theorem overrun_of_reach {σ : Type} {T : Transport σ} (answers : T.Answers) {env : σ → σ → Prop}
    {config : Config} {id : ClientId} {device : σ} {c : Control} {b : Bus σ}
    (start : Gate.start T config id ⟨device, #[]⟩ = (.ok (.ok c), b)) {g : Gate σ}
    (reach : Gate.Reach T env ⟨c, b⟩ g)
    (hit : g.control.dispatcher = .unwinding ∨ g.control.dispatcher = .dead) :
    c.setup.CanOverrun := by
  obtain ⟨⟨s, rfl⟩, -⟩ := Gate.opened_of_start start
  have nothing := takenIn_start T config id device
  rw [start] at nothing
  obtain ⟨-, done, stands⟩ := Contract.reach (K := (Overrun.judgement answers env s).contract)
    (.opened ⟨(), trivial, trivial⟩ nothing) (Control.sound_opened s) reach
  obtain ⟨f, notLost, lost | ⟨-, overruns⟩⟩ := stands.fault hit
  · exact absurd lost notLost
  · exact overruns

end FlashGate

/-
The faults of the transfers over a device that answers every call. Main statements:
`faultsIn_write`, that a write faults only where it runs out of addresses, `faultsIn_connect`, that
a connect faults only where nothing bounds its attempts, and `faultsIn_perform`, that no other
operation faults.
-/
import FlashGate.Proofs.Device.Extent
import FlashGate.Proofs.Transfer

namespace FlashGate

/-- Whether the call changes bytes at an address that it names. -/
def Call.isPlaced : Call → Bool
  | .programPage .. => true
  | .eraseSector .. => true
  | _ => false

/-- A world where every call is answered, and all calls pass but changes of bytes at an address. -/
structure World.Obliging (W : World Unit) : Prop where
  passes : ∀ c : Call, c.isPlaced = false → W.permits () c
  answers : ∀ c r, W.reacts () c r () → r.isOk = true

namespace Script

variable {α β : Type} {W : World Unit} {F G : Fault → Prop}

/-- The script may run in the world, and comes to none but the given faults. -/
def FaultsIn (W : World Unit) (F : Fault → Prop) (s : Script α) : Prop :=
  s.Always W (fun r _ => ∀ f, r = .error f → F f) ()

theorem faultsIn_pure {a : α} : (pure a : Script α).FaultsIn W F := by
  rintro f ⟨⟩

theorem FaultsIn.mono {s : Script α} (h : ∀ f, F f → G f) (hs : s.FaultsIn W F) :
    s.FaultsIn W G :=
  Always.mono (fun _ _ hr f hf => h f (hr f hf)) hs

theorem FaultsIn.bind {s : Script α} {f : α → Script β} (hs : s.FaultsIn W F)
    (hf : ∀ a, (f a).FaultsIn W F) : (s >>= f).FaultsIn W F := by
  refine always_bind.2 (Always.mono (fun r w hr => ?_) hs)
  cases r with
  | ok a => exact hf a
  | error e =>
    rintro _ ⟨⟩
    exact hr e rfl

theorem FaultsIn.noted {s : Script α} {l : Line} (hs : s.FaultsIn W F) :
    (log l >>= fun _ => s).FaultsIn W F :=
  always_bind.2 (always_log.2 hs)

theorem always_ite {p : Prop} [Decidable p] {s t : Script α} {Q : Except Fault α → Unit → Prop}
    (hs : s.Always W Q ()) (ht : t.Always W Q ()) : (if p then s else t).Always W Q () := by
  split
  · exact hs
  · exact ht

theorem faultsIn_each {f : β → Script Unit} {l : List β} (hf : ∀ x ∈ l, (f x).FaultsIn W F) :
    (each f l).FaultsIn W F := by
  induction l with
  | nil => exact faultsIn_pure
  | cons x l ih =>
    exact (hf x (List.mem_cons_self ..)).bind fun _ =>
      ih fun y hy => hf y (List.mem_cons_of_mem _ hy)

section Obliging

variable (obliging : W.Obliging)

include obliging

theorem obliging_polls {E : Fault → Unit → Prop} : W.Polls E () := by
  refine fun c hc => ⟨obliging.passes c ?_, fun r w answered => ?_⟩
  · cases c <;> first | rfl | cases hc
  · cases r with
    | error f => cases obliging.answers c _ answered
    | ok x => rfl

theorem faultsIn_ask {c : Call} (hc : W.permits () c) : (ask c).FaultsIn W F := by
  refine always_ask.2 ⟨hc, fun r w answered f hf => ?_⟩
  rw [hf] at answered
  cases obliging.answers c _ answered

theorem always_asked {c : Call} {rest : c.Reply → Script α} {Q : Except Fault α → Unit → Prop}
    (hc : c.isPlaced = false) (h : ∀ x, (rest x).Always W Q ()) :
    (ask c >>= rest).Always W Q () := by
  refine always_bind.2 (always_ask.2 ⟨obliging.passes c hc, fun r w answered => ?_⟩)
  cases r with
  | ok x => exact h x
  | error f => cases obliging.answers c _ answered

theorem faultsIn_masked {c : Call} (hc : W.permits () c) : (masked c).FaultsIn W F := by
  refine always_masked (obliging_polls obliging) hc fun r w answered => ?_
  cases r with
  | error f => cases obliging.answers c _ answered
  | ok x => exact ⟨obliging_polls obliging, by rintro f ⟨⟩⟩

theorem faultsIn_waitReady : waitReady.FaultsIn W F :=
  ⟨obliging_polls obliging, by rintro f ⟨⟩⟩

end Obliging

end Script

namespace Transfer

open Script

variable {W : World Unit} {F : Fault → Prop} {g : Geometry} {commands : CommandSet} {chunk : Nat}
  {address : UInt32} (obliging : W.Obliging)

/-! ## Transfers -/

theorem faultsIn_readChunked {fetch : Piece → List UInt8 → Script (List UInt8)}
    (hf : ∀ p bytes, (fetch p bytes).FaultsIn W F) (address : UInt32) (buffer : List UInt8) :
    (readChunked g chunk fetch address buffer).FaultsIn W F := by
  refine Always.mono ?_ (always_readChunked (I := fun _ _ _ => True) (E := fun f _ => F f)
    (fun _ _ _ _ _ _ => trivial) (fun p _ _ w bytes _ _ _ => ?_) trivial)
  · rintro (f | bytes) w h e ⟨⟩
    exact h
  · refine Always.mono (fun r w h => ?_) (hf p bytes)
    cases r with
    | ok part => trivial
    | error f => exact h f rfl

include obliging

theorem faultsIn_change {c : Call} (hc : W.permits () c) : (change commands c).FaultsIn W F :=
  (faultsIn_masked obliging (obliging.passes _ rfl)).bind fun _ =>
    (faultsIn_masked obliging hc).bind fun _ => (faultsIn_waitReady obliging).bind fun _ =>
      faultsIn_masked obliging (obliging.passes _ rfl)

theorem faultsIn_read (buffer : List UInt8) :
    (read g commands chunk address buffer).FaultsIn W F :=
  FaultsIn.noted (faultsIn_readChunked
    (fun _ _ => faultsIn_masked obliging (obliging.passes _ rfl)) _ _)

theorem faultsIn_fastRead (buffer : List UInt8) (submode : Option Submode) :
    (fastRead g chunk address buffer submode).FaultsIn W F := by
  refine FaultsIn.noted (faultsIn_readChunked (fun p bytes => ?_) _ _)
  cases submode with
  | none => exact faultsIn_masked obliging (obliging.passes _ rfl)
  | some m =>
    exact (faultsIn_ask obliging (obliging.passes _ rfl)).bind fun _ =>
      faultsIn_masked obliging (obliging.passes _ rfl)

theorem faultsIn_erase {length : Nat}
    (hs : ∀ s ∈ g.sectorsFrom (Geometry.alignErase address length).1
      (Geometry.alignErase address length).2,
        W.permits () (.eraseSector commands.sectorErase s.address)) :
    (erase g commands address length).FaultsIn W F := by
  refine FaultsIn.noted ?_
  split
  · exact FaultsIn.noted ((faultsIn_change obliging (obliging.passes _ rfl)).bind fun _ =>
      faultsIn_pure)
  · have sectors : (each (eraseSector commands) (g.sectorsFrom
        (Geometry.alignErase address length).1 (Geometry.alignErase address length).2)).FaultsIn
        W F :=
      faultsIn_each fun s h => FaultsIn.noted (faultsIn_change obliging (hs s h))
    exact always_ite (FaultsIn.noted (sectors.bind fun _ => faultsIn_pure))
      (sectors.bind fun _ => faultsIn_pure)

/-- A write faults only where it runs out of addresses. -/
theorem faultsIn_write {data : List UInt8} (hp : ∀ p ∈ (g.writePlan address data).pages,
      W.permits () (.programPage commands.programPage p.address p.data)) :
    (write g commands address data).FaultsIn W
      (fun f => f = .overflow ∧ g.RunsOut address data.length) := by
  have ending := g.ending_of_writePlan address data
  refine FaultsIn.noted ((faultsIn_each fun p h =>
    FaultsIn.noted (faultsIn_change obliging (hp p h))).bind fun _ => ?_)
  split
  · exact faultsIn_pure
  · exact FaultsIn.noted faultsIn_pure
  next overflow =>
    rintro f ⟨⟩
    refine ⟨rfl, ?_⟩
    rw [overflow] at ending
    split at ending
    next out => exact out
    · split at ending <;> cases ending

/-- An operation faults only in a write that runs out of addresses. -/
theorem faultsIn_perform {s : Setup} {o : Operation}
    (write : ∀ address data, o = .write address data →
      (Transfer.write s.geometry s.commands address data).FaultsIn W F)
    (erase : ∀ address length, o = .erase address length →
      (Transfer.erase s.geometry s.commands address length).FaultsIn W F) :
    (Control.perform s o).FaultsIn W F := by
  cases o with
  | read => exact faultsIn_read obliging _
  | fastRead =>
    exact (faultsIn_ask obliging (obliging.passes _ rfl)).bind fun _ =>
      faultsIn_fastRead obliging _ none
  | write address data => exact (write address data rfl).bind fun _ => faultsIn_pure
  | erase address length => exact (erase address length rfl).bind fun _ => faultsIn_pure

/-! ## Reconfigurations -/

/-- A connect faults only where nothing bounds its attempts. -/
theorem faultsIn_connect (policy : RetryPolicy) : (connect policy).FaultsIn W
    (fun f => f = .overflow ∧ policy.retries.toNat = 2 ^ 32 - 1) := by
  have bound := policy.retries.toNat_lt
  have connected (attempts : Nat) : (connectFrom.connected attempts).FaultsIn W
      (fun f => f = .overflow ∧ policy.retries.toNat = 2 ^ 32 - 1) := by
    unfold connectFrom.connected
    split
    · exact FaultsIn.noted faultsIn_pure
    · exact faultsIn_pure
  -- the attempts made and those left come to one more than there are retries
  suffices ∀ left attempts : Nat, left + attempts = policy.retries.toNat + 1 →
      (connectFrom policy.delay left attempts).FaultsIn W
        (fun f => f = .overflow ∧ policy.retries.toNat = 2 ^ 32 - 1) from this _ _ rfl
  intro left
  induction left with
  | zero =>
    intro attempts _
    refine (faultsIn_ask obliging (obliging.passes .connect rfl)).bind ?_
    rintro (e | ⟨⟩)
    · exact faultsIn_pure
    · exact connected _
  | succ left ih =>
    intro attempts total
    refine (faultsIn_ask obliging (obliging.passes .connect rfl)).bind ?_
    rintro (e | ⟨⟩)
    · refine FaultsIn.noted ((faultsIn_ask obliging (obliging.passes _ rfl)).bind fun _ => ?_)
      split
      · exact ih _ (by omega)
      · rintro f ⟨⟩
        exact ⟨rfl, by omega⟩
    · exact connected _

theorem always_reconfigure_obliging {steps : Reconfiguration} {policy : RetryPolicy}
    {Q : Except Fault (Except DeviceError Unit) → Unit → Prop} (done : Q (.ok (.ok ())) ())
    (hc : (connect policy).Always W Q ()) : (reconfigure steps policy).Always W Q () := by
  have last : Script.Always W Q
      (if steps.contains .connect then connect policy else return .ok ()) () := always_ite hc done
  have claims := always_ite (p := steps.contains .setupFastRead = true)
    (always_asked obliging (c := .fastReadSetup) rfl fun _ =>
      always_asked obliging (c := .fastReadApplyCalibration) rfl fun _ => last) last
  have drops := always_ite (p := steps.contains .disconnect = true)
    (always_asked obliging (c := .disconnect) rfl fun _ => claims) claims
  exact always_ite done (always_bind.2 (always_log.2 (always_ite
    (always_asked obliging (c := .fastReadShutdown) rfl fun _ => drops) drops)))

end Transfer

end FlashGate

/-
Reads past the queue that come too early or too late. Main statements: `Sound.refused_opening`, that
such a read is refused when it tries the spin lock between the announcement of a park and the end of
the set-up, and `During.refused`, that a read which finds no window readable from its start to its
end makes no call on the device and is refused, however the other threads move meanwhile.
-/
import FlashGate.Proofs.Gateway.Stage

namespace FlashGate

namespace Task

/-- Whether the client waits for a park, or sets up its window. -/
def setsUp : Task → Bool
  | .leaving .park (some _) => true
  | .waitingParked => true
  | .claimingWindow => true
  | .opening _ => true
  | _ => false

/-- Whether the client shuts a window down. -/
def isShutting : Task → Bool
  | .shutting .. => true
  | _ => false

theorem isUnset_of_setsUp {t : Task} (h : t.setsUp = true) :
    t.isUnset = true ∧ t.needsHold = true ∧ t.spins = 0 := by
  cases t with
  | leaving s ticket => cases s <;> cases ticket <;> first | exact ⟨rfl, rfl, rfl⟩ | cases h
  | waitingParked => exact ⟨rfl, rfl, rfl⟩
  | claimingWindow => exact ⟨rfl, rfl, rfl⟩
  | opening s => exact ⟨rfl, rfl, rfl⟩
  | _ => cases h

end Task

namespace Control

/-- The dispatcher has parked for a window whose set-up is not done. -/
def IsOpening (c : Control) : Prop :=
  c.park.state = .parked ∧ ∃ id, (c.client id).task.setsUp = true

/-- A low-level window is open, and nobody shuts it down. -/
def IsReadable (c : Control) : Prop :=
  c.IsOpen ∧ ∀ id, (c.client id).task.isShutting = false

variable {c next : Control} {id : ClientId} {who : Actor} {events : List Event} {r : Bypass}

/-! ## Between the announcement of a park and the end of the set-up -/

/-- While a window is being opened, no client has the spin lock for a read past the queue. -/
theorem Sound.spins_opening (sound : Sound c) (opening : c.IsOpening) :
    (c.client id).task.spins = 0 := by
  obtain ⟨-, o, setsUp⟩ := opening
  obtain ⟨-, needs, none⟩ := Task.isUnset_of_setsUp setsUp
  have holds := sound.locks.holding o needs
  rcases Nat.eq_zero_or_pos (c.client id).task.spins with zero | spins
  · exact zero
  · have same : o = id := sound.locks.spin_unique (by simp only [Client.levels]; omega)
      (by simp only [Client.levels]; omega)
    rwa [same] at none

/-- While a window is being opened, a read past the queue that tries the spin lock is refused. -/
theorem Sound.refused_opening (sound : Sound c) (opening : c.IsOpening)
    (h : (c.client id).task = .bypassSpinning r) : c.move? (.client id) =
      some (.quiet (c.finish id (.refused .lockUnavailable r.buffer)) []) := by
  obtain ⟨parked, o, setsUp⟩ := opening
  have taken := sound.spin_taken (Task.isUnset_of_setsUp setsUp).2.1
  have place := sound.handshake.parked parked
  simp only [move?, place, clientMove?, h, bypassMove?, SpinLock.tryLock?, if_neg taken]

/-! ## While no window is readable -/

/-- A refusal of a read past the queue. -/
def Refuses (r : Bypass) (a : Answer) : Prop :=
  a = .refused .lockUnavailable r.buffer ∨ a = .refused .notParked r.buffer

/-- The client tries a read past the queue and has not read, or the read was refused. -/
inductive Tries (r : Bypass) (d : Client) : Prop
  | checking (h : d.task = .bypassChecking r)
  | spinning (h : d.task = .bypassSpinning r)
  | claiming (h : d.task = .bypassClaiming r)
  | rechecking (h : d.task = .bypassRechecking r)
  | detaching (a : Answer) (h : d.task = .bypassDetaching a) (ha : Refuses r a)
  | unspinning (a : Answer) (h : d.task = .bypassUnspinning a) (ha : Refuses r a)
  | refused (a : Answer) (h : d.task = .idle) (answer : d.answer = some a) (ha : Refuses r a)

theorem Tries.isDuty {d : Client} (h : Tries r d) : d.task.isDuty = false := by
  cases h with
  | refused a h => rw [h]; rfl
  | detaching a h => rw [h]; rfl
  | unspinning a h => rw [h]; rfl
  | _ h => rw [h]; rfl

/-- A client that holds both locks of a read past the queue finds the window readable. -/
theorem Sound.isReadable_of_locks (sound : Sound c) (parked : c.park.state = .parked)
    (h : (c.client id).task = .bypassRechecking r) : c.IsReadable := by
  refine ⟨sound.isOpen_of_locks parked (by rw [h]; rfl) (by rw [h]; rfl), fun j => ?_⟩
  have here : c.onTransport (.client id) = true := by simp [onTransport, h, Task.onTransport]
  cases shutting : (c.client j).task.isShutting with
  | false => rfl
  | true =>
    have there : c.onTransport (.client j) = true := by
      cases ht : (c.client j).task <;>
        simp_all [onTransport, Task.onTransport, Task.isShutting]
    cases sound.locks.transport_unique here there
    rw [h] at shutting
    cases shutting

/-- A turn of a client that tries a read, while no window is readable. -/
theorem Turn.tries {e : Deed} {d : Client} (h : Turn c id e d events) (sound : Sound c)
    (shut : ¬ c.IsReadable) (atWork : (c.client id).task.isIdle = false)
    (tries : Tries r (c.client id)) : Tries r d := by
  cases tries with
  | refused a ht => rw [ht] at atWork; cases atWork
  | checking ht =>
    cases h <;> simp_all
    case bypass => exact .spinning rfl
    case noBypass => exact .refused _ rfl rfl (.inr rfl)
  | spinning ht =>
    cases h <;> simp_all
    case bypassSpin => exact .claiming rfl
    case noBypassSpin => exact .refused _ rfl rfl (.inl rfl)
  | claiming ht =>
    cases h <;> simp_all
    case bypassClaim => exact .rechecking rfl
    case noBypassClaim => exact .unspinning _ rfl (.inl rfl)
  | rechecking ht =>
    have unparked : c.park.state ≠ .parked := fun h => shut (sound.isReadable_of_locks h ht)
    cases h <;> simp_all
    case noBypassRead => exact .detaching _ rfl (.inr rfl)
  | detaching a ht ha =>
    cases h <;> simp_all
    case bypassDetach => exact .unspinning _ rfl ha
  | unspinning a ht ha =>
    cases h <;> simp_all
    case bypassUnspin => exact .refused _ rfl rfl ha

/-- A turn of any thread leaves a client trying, while no window is readable. -/
theorem Goes.tries (h : c.Goes who next events) (sound : Sound c) (shut : ¬ c.IsReadable)
    (atWork : (c.client id).task.isIdle = false) (tries : Tries r (c.client id)) :
    Tries r (next.client id) := by
  cases h with
  | dispatcher h => rwa [h.client]
  | @client j _ _ h =>
    obtain ⟨e, d, turn, -, rfl⟩ := h
    rw [client_turned]
    split
    next same =>
      subst same
      exact turn.tries sound shut atWork tries
    · exact tries

end Control

namespace Gate

variable {σ : Type} {T : Transport σ} {env : σ → σ → Prop} {g g' : Gate σ}

/-- A stretch of a run during which `P` holds, of every gate that it leaves. -/
inductive During (T : Transport σ) (env : σ → σ → Prop) (P : Control → Prop) (g₀ : Gate σ) :
    Gate σ → Prop
  | refl : During T env P g₀ g₀
  | step {g g' : Gate σ} (h : During T env P g₀ g) (holds : P g.control) (move : Step T g g') :
    During T env P g₀ g'
  | outside {g : Gate σ} {device : σ} (h : During T env P g₀ g) (holds : P g.control)
    (change : env g.bus.device device) :
    During T env P g₀ { g with bus := { g.bus with device } }

/-- The thread made no call on the device between the two journals. -/
def Silent (who : Actor) (b b' : Bus σ) : Prop :=
  ∃ later, b'.journal.toList = b.journal.toList ++ later ∧
    ∀ x ∈ later, x.actor = who → ∀ c r, x.event ≠ .call c r

theorem Silent.append {who : Actor} {b b' b'' : Bus σ} (h : Silent who b b')
    {later : List Entry} (journal : b''.journal.toList = b'.journal.toList ++ later)
    (silent : ∀ x ∈ later, x.actor = who → ∀ c r, x.event ≠ .call c r) : Silent who b b'' := by
  obtain ⟨before, hj, hb⟩ := h
  refine ⟨before ++ later, by rw [journal, hj, List.append_assoc], fun x hx => ?_⟩
  rcases List.mem_append.1 hx with hx | hx
  · exact hb x hx
  · exact silent x hx

/-- A step is silent for a client that is on no duty. -/
theorem Step.silent (move : Step T g g') (sound : g.control.Sound) {id : ClientId}
    (off : (g.control.client id).task.isDuty = false) : Silent (.client id) g.bus g'.bus := by
  have still : Silent (.client id) g.bus g.bus := ⟨[], by simp, by simp⟩
  have none := Duty.not_on_of_off off
  cases move with
  | begin h => exact still
  | @move who m h =>
    have goes := Control.move?_goes h
    rcases Control.move?_duty h with ⟨next, events, rfl⟩ | ⟨d, script, rfl, on, rfl⟩
    · refine still.append (Bus.toList_journal_record ..) fun x hx mine c r => ?_
      obtain ⟨e, he, rfl⟩ := List.mem_map.1 hx
      obtain rfl : who = .client id := mine
      rintro rfl
      cases (goes.quiet sound none).1 _ he
    · -- a script that runs is another thread's
      have other : d.actor ≠ .client id := fun mine => none d script mine on
      obtain ⟨traffic, -, journal⟩ := script.addsTraffic_step T d.actor g.bus
      have told := Bus.toList_journal_record (script.step T d.actor g.bus).2 d.actor
        (d.after g.control (script.step T d.actor g.bus).1).2
      rw [journal, List.append_assoc] at told
      refine still.append told fun x hx mine => ?_
      rw [← List.map_append] at hx
      obtain ⟨e, -, rfl⟩ := List.mem_map.1 hx
      exact absurd mine other

/-- A client at work on a read past the queue, while no window is readable. -/
def Spurned (id : ClientId) (c : Control) : Prop :=
  ¬ c.IsReadable ∧ (c.client id).task.isIdle = false

/-- A read past the queue that finds no window readable, from before it takes its locks to its end,
makes no call on the device and is refused. -/
theorem During.refused {id : ClientId} {r : Bypass} (h : During T env (Spurned id) g g')
    (sound : g.control.Sound) (tries : Control.Tries r (g.control.client id)) :
    g'.control.Sound ∧ Silent (.client id) g.bus g'.bus ∧
      Control.Tries r (g'.control.client id) := by
  induction h with
  | refl => exact ⟨sound, ⟨[], by simp, by simp⟩, tries⟩
  | step _ spurned move ih =>
    obtain ⟨sound, silent, tries⟩ := ih
    obtain ⟨later, journal, none⟩ := move.silent sound tries.isDuty
    obtain ⟨who, _, _, _, _, goes⟩ := move.goes
    exact ⟨goes.sound sound, silent.append journal none,
      goes.tries sound spurned.1 spurned.2 tries⟩
  | outside _ _ _ ih => exact ih

end Gate

end FlashGate

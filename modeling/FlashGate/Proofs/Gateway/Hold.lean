/-
Holds on the flash. The guards of the spin lock that a client has are all of one kind: its holds,
one guard from outside, or that of a read past the queue. Main statements: `Goes.pure`, that every
turn keeps the kinds apart, `Sound.spins_held`, that no read past the queue has the spin lock while
a client holds the flash, and `During.barred`, that one which is tried meanwhile is refused.
-/
import FlashGate.Proofs.Gateway.Ledger
import FlashGate.Proofs.Gateway.Refusal

namespace FlashGate

/-- The client that a message comes from; the end of the gate is nobody's. -/
def Message.sender? : Message → Option ClientId
  | .job j => some j.client
  | .park id => some id
  | .stop => none

/-- Whether the client drops a guard of the spin lock next. -/
def Client.releases (d : Client) : Bool :=
  match d.task with
  | .unspinning _ => true
  | .bypassUnspinning _ => true
  | .releasingSpin => 0 < d.outside
  | _ => false

/-- The guards of a client are all of one kind, and only holds come in numbers. -/
def Client.IsPure (d : Client) : Prop :=
  d.outside + d.task.spins ≤ 1 ∧ (0 < d.holds → d.outside + d.task.spins = 0)

namespace Sole

theorem sum_eq_zero {levels : ClientId → Nat} :
    ∀ {ids : List ClientId}, (∀ id ∈ ids, levels id = 0) → (ids.map levels).sum = 0
  | [], _ => rfl
  | id :: ids, h => by
    rw [List.map_cons, List.sum_cons, h id (List.mem_cons_self ..),
      sum_eq_zero fun j hj => h j (List.mem_cons_of_mem _ hj)]

/-- The levels of clients among whom is everyone that has one add up to the count. -/
theorem sum_eq {n : Nat} {levels : ClientId → Nat} (h : Sole n levels) {ids : List ClientId}
    (distinct : ids.Nodup) (all : ∀ id, 0 < levels id → id ∈ ids) :
    (ids.map levels).sum = n := by
  obtain ⟨o, rfl, others⟩ := h
  by_cases has : o ∈ ids
  · -- the one with levels stands in the list once
    obtain ⟨before, after, rfl⟩ := List.append_of_mem has
    have apart := List.nodup_append.1 distinct
    have left : ∀ id ∈ before, levels id = 0 := fun id hid =>
      others id fun same => apart.2.2 id hid o (List.mem_cons_self ..) same
    have right : ∀ id ∈ after, levels id = 0 := fun id hid =>
      others id fun same => (List.nodup_cons.1 apart.2.1).1 (same ▸ hid)
    rw [List.map_append, List.sum_append, List.map_cons, List.sum_cons, sum_eq_zero left,
      sum_eq_zero right]
    omega
  · have zero : levels o = 0 := Nat.eq_zero_of_not_pos fun pos => has (all o pos)
    rw [zero]
    refine sum_eq_zero fun id hid => ?_
    by_cases same : id = o
    · rw [same, zero]
    · exact others id same

end Sole

namespace Control

/-- Each client's guards are of one kind, and a gate that is dropped is held by nobody. -/
structure Pure (c : Control) : Prop where
  kinds : ∀ id, (c.client id).IsPure
  dropped : c.dropped = true → ∀ id, (c.client id).holds = 0

variable {c next : Control} {id : ClientId} {e : Deed} {d : Client} {events : List Event}
  {who : Actor}

/-! ## Every turn keeps the kinds apart -/

/-- A client gets a guard of another kind only while nobody has any. -/
theorem Turn.isPure (h : Turn c id e d events) (allowed : e.Allowed c id) (locks : Locks c)
    (pure : (c.client id).IsPure) : d.IsPure := by
  -- who takes the free spin lock has no guard yet
  have none (free : c.spin.count = 0) : (c.client id).levels = 0 :=
    (free ▸ locks.spin : Sole 0 _).zero_of_free id
  have reentry := locks.reentry id
  obtain ⟨one, apart⟩ := pure
  cases h <;> simp_all [Client.IsPure, Task.spins, Client.goTo, Client.answered, Client.holding,
    Deed.Allowed, Client.levels]
  case opens ht => cases ht <;> simp_all
  case rehold p _ => cases p <;> simp_all
  case hold p _ => cases p <;> simp_all
  all_goals omega

theorem Turn.holds_le (h : Turn c id e d events) :
    d.holds ≤ (c.client id).holds ∨ ∃ p b, (c.client id).task = .spinning p b := by
  cases h
  case rehold p h => exact .inr ⟨p, true, h⟩
  case hold p h => exact .inr ⟨p, false, h⟩
  case unhold => exact .inl (Nat.sub_le _ _)
  all_goals exact .inl (Nat.le_refl _)

/-- A client that drops the gate finds nobody with a hold on the flash. -/
theorem isQuiet_holds (quiet : c.isQuiet id = true) (j : ClientId) : (c.client j).holds = 0 := by
  unfold isQuiet at quiet
  show (Roster.find j c.clients.entries).holds = 0
  generalize c.clients.entries = l at quiet ⊢
  induction l with
  | nil => rfl
  | cons x rest ih =>
    obtain ⟨i, d⟩ := x
    rw [List.all_cons, Bool.and_eq_true] at quiet
    rw [Roster.find]
    split
    · have := quiet.1
      simp_all
    · exact ih quiet.2

theorem Turns.pure (h : Turns c id next events) (sound : Sound c) (pure : Pure c) :
    Pure next := by
  obtain ⟨e, d, turn, allowed, rfl⟩ := h
  refine ⟨fun j => ?_, fun gone j => ?_⟩
  · rw [client_turned]
    split
    · exact turn.isPure allowed sound.locks (pure.kinds id)
    · exact pure.kinds j
  · by_cases retires : e = .retire
    · subst retires
      have none := isQuiet_holds allowed.2
      rw [client_turned]
      split
      · cases turn with
        | retires => exact none id
      · exact none j
    · have before : c.dropped = true := by
        cases e <;> first | exact gone | exact absurd rfl retires
      rw [client_turned]
      split
      · -- nobody takes the flash of a gate that is dropped
        rcases turn.holds_le with fewer | ⟨p, b, there⟩
        · have := pure.dropped before id
          omega
        · have := sound.handshake.gone before id
          simp [role, there, Task.role] at this
      · exact pure.dropped before j

/-- Every turn keeps the kinds of guards apart. -/
theorem Goes.pure (h : c.Goes who next events) (sound : Sound c) (pure : Pure c) : Pure next := by
  cases h with
  | dispatcher h =>
    refine ⟨fun j => ?_, fun gone j => ?_⟩
    · rw [h.client]
      exact pure.kinds j
    · rw [h.client]
      rw [h.dropped] at gone
      exact pure.dropped gone j
  | client h => exact h.pure sound pure

theorem pure_opened (setup : Setup) : Pure { setup } := by
  have client (j : ClientId) : ({ setup } : Control).client j = {} := rfl
  refine ⟨fun j => ?_, fun _ j => ?_⟩
  · rw [client]
    exact ⟨Nat.zero_le _, fun _ => rfl⟩
  · rw [client]

theorem Locks.count_pos_of_releases (locks : Locks c) (h : (c.client id).releases = true) :
    0 < c.spin.count := by
  have holding := locks.holding id
  have level : 0 < (c.client id).holds ∨ 0 < (c.client id).outside ∨
      0 < (c.client id).task.spins := by
    unfold Client.releases at h
    cases ht : (c.client id).task <;> simp_all [Task.needsHold, Task.spins]
  have levels : 0 < (c.client id).levels := by
    unfold Client.levels
    omega
  rwa [← locks.spin.eq_of_pos levels]

/-! ## While the flash is held -/

/-- A client that holds the flash has all guards of the spin lock, and they are its holds. -/
theorem Locks.guards_of_holds (locks : Locks c) (held : 0 < (c.client id).holds) :
    (c.client id).levels = c.spin.count ∧ ∀ j, j ≠ id → (c.client j).levels = 0 := by
  have levels : 0 < (c.client id).levels := by
    unfold Client.levels
    omega
  exact ⟨locks.spin.eq_of_pos levels, fun j hj => locks.spin.others_zero levels hj⟩

theorem Locks.taken_of_holds (locks : Locks c) (held : 0 < (c.client id).holds) :
    c.spin.count ≠ 0 := by
  have := (locks.guards_of_holds held).1
  unfold Client.levels at this
  omega

theorem move?_client (alive : c.dispatcher ≠ .aborted) :
    c.move? (.client id) = c.clientMove? id := by
  cases h : c.dispatcher <;> first | exact absurd h alive | simp only [move?, h]

/-- While a client holds the flash no read past the queue has the spin lock, its own included. -/
theorem Locks.spins_held (locks : Locks c) (pure : Pure c) (held : 0 < (c.client id).holds)
    (j : ClientId) : (c.client j).task.spins = 0 := by
  by_cases same : j = id
  · have := (pure.kinds id).2 held
    rw [same]
    omega
  · have := (locks.guards_of_holds held).2 j same
    unfold Client.levels at this
    omega

/-- While a client holds the flash a read past the queue that tries the spin lock is refused. -/
theorem Locks.refused_held (locks : Locks c) (held : 0 < (c.client id).holds) {j : ClientId}
    {r : Bypass} (h : (c.client j).task = .bypassSpinning r) {m : Move}
    (hm : c.move? (.client j) = some m) :
    m = .quiet (c.finish j (.refused .lockUnavailable r.buffer)) [] := by
  have taken := locks.taken_of_holds held
  rw [move?_client (alive_of_move? hm)] at hm
  simpa only [clientMove?, h, bypassMove?, SpinLock.tryLock?, if_neg taken, Option.some.injEq,
    eq_comm] using hm

/-- The client tries a read past the queue and has no lock for it, or the read was refused. -/
inductive Barred (r : Bypass) (d : Client) : Prop
  | checking (h : d.task = .bypassChecking r)
  | spinning (h : d.task = .bypassSpinning r)
  | refused (a : Answer) (h : d.task = .idle) (answer : d.answer = some a) (ha : Refuses r a)

theorem Barred.isDuty {r : Bypass} {d : Client} (h : Barred r d) : d.task.isDuty = false := by
  cases h with
  | refused a h => rw [h]; rfl
  | _ h => rw [h]; rfl

/-- A turn of a client that tries a read, while a client holds the flash. -/
theorem Turn.barred {r : Bypass} (h : Turn c id e d events) (allowed : e.Allowed c id)
    (taken : c.spin.count ≠ 0) (atWork : (c.client id).task.isIdle = false)
    (barred : Barred r (c.client id)) : Barred r d := by
  cases barred with
  | refused a ht => rw [ht] at atWork; cases atWork
  | checking ht =>
    cases h <;> simp_all
    case bypass => exact .spinning rfl
    case noBypass => exact .refused _ rfl rfl (.inr rfl)
  | spinning ht =>
    cases h <;> simp_all
    case bypassSpin => exact absurd allowed taken
    case noBypassSpin => exact .refused _ rfl rfl (.inl rfl)

/-- A turn of any thread leaves a client barred from its read, while a client holds the flash. -/
theorem Goes.barred {r : Bypass} (h : c.Goes who next events) (taken : c.spin.count ≠ 0)
    (atWork : (c.client id).task.isIdle = false) (barred : Barred r (c.client id)) :
    Barred r (next.client id) := by
  cases h with
  | dispatcher h => rwa [h.client]
  | @client j _ _ h =>
    obtain ⟨e, d, turn, allowed, rfl⟩ := h
    rw [client_turned]
    split
    next same =>
      subst same
      exact turn.barred allowed taken atWork barred
    · exact barred

end Control

namespace Gate

variable {σ : Type} {T : Transport σ} {env : σ → σ → Prop} {g₀ g g' : Gate σ}

/-- The client holds the flash. -/
def Holds (id : ClientId) (c : Control) : Prop := 0 < (c.client id).holds

theorem Reach.pure (reach : Reach T env g₀ g) (sound : g₀.control.Sound)
    (pure : g₀.control.Pure) : g.control.Sound ∧ g.control.Pure :=
  reach.invariant (P := fun c => c.Sound ∧ c.Pure) ⟨sound, pure⟩
    fun _ _ _ _ ih goes => ⟨goes.sound ih.1, goes.pure ih.1 ih.2⟩

theorem During.reach {P : Control → Prop} (h : During T env P g g') : Reach T env g g' := by
  induction h with
  | refl => exact .refl
  | step _ _ move ih => exact .step ih move
  | outside _ _ change ih => exact .outside ih change

/-- A read past the queue that is tried while a client holds the flash makes no call on the device,
and is refused if it ends while the flash is held. -/
theorem During.barred {id j : ClientId} {r : Bypass}
    (h : During T env (fun c => Holds id c ∧ (c.client j).task.isIdle = false) g g')
    (sound : g.control.Sound) (barred : Control.Barred r (g.control.client j)) :
    g'.control.Sound ∧ Silent (.client j) g.bus g'.bus ∧
      Control.Barred r (g'.control.client j) := by
  induction h with
  | refl => exact ⟨sound, ⟨[], by simp, by simp⟩, barred⟩
  | step _ meanwhile move ih =>
    obtain ⟨sound, silent, barred⟩ := ih
    obtain ⟨later, journal, none⟩ := move.silent sound barred.isDuty
    obtain ⟨who, _, _, _, _, goes⟩ := move.goes
    have taken := sound.locks.taken_of_holds meanwhile.1
    exact ⟨goes.sound sound, silent.append journal none, goes.barred taken meanwhile.2 barred⟩
  | outside _ _ _ ih => exact ih

end Gate

end FlashGate

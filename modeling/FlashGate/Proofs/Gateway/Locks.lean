/-
Who holds which lock. The place of a thread in its code tells what it holds: the transport, levels
of admission, levels of the spin lock. Main statements: `Goes.locks`, that every turn keeps the
locks in accord with the places, and `Locks.transport_unique`, that two threads are never both at
places that hold the transport.
-/
import FlashGate.Proofs.Gateway.Reach

namespace FlashGate

/-! ## What a place holds -/

/-- Whether the dispatcher holds the transport. -/
def Dispatcher.onTransport : Dispatcher → Bool
  | .serving .. => true
  | .detaching _ => true
  | .releasing .. => true
  | .detachingRelease _ => true
  -- the process ended while the dispatcher held it
  | .aborted => true
  | _ => false

/-- Whether a submission is the sentinel of a low-level window. -/
def Submission.isPark : Submission → Bool
  | .job .. => false
  | .park => true

namespace Task

/-- Whether the client holds the transport. -/
def onTransport : Task → Bool
  | .opening _ => true
  | .detachingWindow => true
  | .checkingClose _ => true
  | .shutting .. => true
  | .resuming _ => true
  | .detachingClose .. => true
  | .bypassRechecking _ => true
  | .bypassReading .. => true
  | .bypassDetaching _ => true
  | _ => false

/-- The levels of admission that the client holds at the place, apart from those of its holds on
the flash. -/
def entries : Task → Nat
  | .sending _ => 1
  | .leaving .. => 1
  | .spinning .. => 1
  | .unadmitting _ => 1
  | _ => 0

/-- The levels of the spin lock that the client holds at the place. -/
def spins : Task → Nat
  | .bypassClaiming _ => 1
  | .bypassRechecking _ => 1
  | .bypassReading .. => 1
  | .bypassDetaching _ => 1
  | .bypassUnspinning _ => 1
  | _ => 0

/-- Whether the client has a hold on the flash at the place: it opens a window, or gives up a
hold. -/
def needsHold : Task → Bool
  | .requesting => true
  | .admitting s => s.isPark
  | .sending s => s.isPark
  | .leaving s _ => s.isPark
  | .withdrawing => true
  | .waitingParked => true
  | .claimingWindow => true
  | .opening _ => true
  | .detachingWindow => true
  | .unspinning _ => true
  | _ => false

end Task

namespace Client

/-- All levels of admission that the client holds. -/
def entries (d : Client) : Nat := d.holds + d.task.entries

/-- All levels of the spin lock that the client holds. -/
def levels (d : Client) : Nat := d.holds + d.outside + d.task.spins

end Client

/-! ## Counted locks -/

/-- A count is made up by the levels of at most one client. -/
def Sole (count : Nat) (levels : ClientId → Nat) : Prop :=
  ∃ o, levels o = count ∧ ∀ j, j ≠ o → levels j = 0

namespace Sole

variable {n : Nat} {levels levels' : ClientId → Nat} {id : ClientId}

theorem eq_of_pos (h : Sole n levels) (hl : 0 < levels id) : levels id = n := by
  obtain ⟨o, ho, others⟩ := h
  by_cases hi : id = o
  · rwa [hi]
  · have := others id hi
    omega

theorem others_zero (h : Sole n levels) (hl : 0 < levels id) {j : ClientId} (hj : j ≠ id) :
    levels j = 0 := by
  obtain ⟨o, ho, others⟩ := h
  by_cases hi : id = o
  · exact others j (hi ▸ hj)
  · have := others id hi
    omega

theorem zero_of_free (h : Sole 0 levels) (j : ClientId) : levels j = 0 := by
  obtain ⟨o, ho, others⟩ := h
  by_cases hj : j = o
  · rwa [hj]
  · exact others j hj

theorem same (h : Sole n levels) (he : ∀ j, levels' j = levels j) : Sole n levels' := by
  have : levels' = levels := funext he
  rwa [this]

theorem grow (h : Sole n levels) (hn : n = 0 ∨ 0 < levels id) (hid : levels' id = levels id + 1)
    (others : ∀ j, j ≠ id → levels' j = levels j) : Sole (n + 1) levels' := by
  rcases hn with rfl | hl
  · refine ⟨id, by rw [hid, h.zero_of_free], fun j hj => ?_⟩
    rw [others j hj, h.zero_of_free]
  · refine ⟨id, by rw [hid, h.eq_of_pos hl], fun j hj => ?_⟩
    rw [others j hj, h.others_zero hl hj]

theorem shrink (h : Sole n levels) (hl : 0 < levels id) (hid : levels' id = levels id - 1)
    (others : ∀ j, j ≠ id → levels' j = levels j) : Sole (n - 1) levels' := by
  refine ⟨id, by rw [hid, h.eq_of_pos hl], fun j hj => ?_⟩
  rw [others j hj, h.others_zero hl hj]

end Sole

namespace Admission

/-- The client with levels of admission owns the lock, and its levels are the lock's depth. -/
structure Counts (a : Admission) (levels : ClientId → Nat) : Prop where
  sole : Sole a.depth levels
  owner : ∀ id, a.owner = some id ↔ 0 < levels id

namespace Counts

variable {a : Admission} {levels levels' : ClientId → Nat} {id : ClientId}

theorem same (h : a.Counts levels) (he : ∀ j, levels' j = levels j) : a.Counts levels' := by
  have : levels' = levels := funext he
  rwa [this]

theorem free (h : a.Counts levels) (none : a.owner = none) (j : ClientId) : levels j = 0 := by
  have := h.owner j
  rw [none] at this
  simpa using this

theorem depth_of_free (h : a.Counts levels) (none : a.owner = none) : a.depth = 0 := by
  obtain ⟨o, all, -⟩ := h.sole
  exact all.symm.trans (h.free none o)

theorem enter (h : a.Counts levels) (allowed : a.owner = none ∨ a.owner = some id)
    (more : levels' id = levels id + 1) (others : ∀ j, j ≠ id → levels' j = levels j) :
    (Control.Admission.entered a id).Counts levels' where
  sole := by
    have depth : (Control.Admission.entered a id).depth = a.depth + 1 := by
      unfold Control.Admission.entered
      split
      next none => rw [h.depth_of_free none]
      · rfl
    rw [depth]
    exact h.sole.grow (allowed.imp h.depth_of_free (h.owner id).1) more others
  owner j := by
    by_cases hj : j = id
    · subst hj
      simp [Control.Admission.entered, more]
    · rw [others j hj]
      show some id = some j ↔ _
      rcases allowed with none | own
      · simp [Ne.symm hj, h.free none j]
      · rw [← h.owner j, own]

theorem leave (h : a.Counts levels) (some : 0 < levels id) (less : levels' id = levels id - 1)
    (others : ∀ j, j ≠ id → levels' j = levels j) : a.leave.Counts levels' := by
  have all := h.sole.eq_of_pos some
  have shrunk := h.sole.shrink some less others
  have nobody (j : ClientId) (hj : j ≠ id) : levels' j = 0 := by
    rw [others j hj, h.sole.others_zero some hj]
  unfold Admission.leave
  split
  next last =>
    refine ⟨by rwa [show a.depth - 1 = 0 by omega] at shrunk, fun j => ?_⟩
    by_cases hj : j = id
    · subst hj
      simp only [less, reduceCtorEq, false_iff]
      omega
    · simp [nobody j hj]
  next more =>
    refine ⟨shrunk, fun j => ?_⟩
    show a.owner = _ ↔ _
    rw [(h.owner id).2 some]
    by_cases hj : j = id
    · subst hj
      simp only [less, true_iff]
      omega
    · simp [nobody j hj, Ne.symm hj]

end Counts

end Admission

namespace Control

/-- Whether the thread is at a place that holds the transport. -/
def onTransport (c : Control) : Actor → Bool
  | .dispatcher => c.dispatcher.onTransport
  | .client id => (c.client id).task.onTransport

/-- The locks are held as the places of the threads say. -/
structure Locks (c : Control) : Prop where
  transport : ∀ who, c.holder = some who ↔ c.onTransport who = true
  admission : Sole c.admission.depth fun j => (c.client j).entries
  owner : ∀ id, c.admission.owner = some id ↔ 0 < (c.client id).entries
  spin : Sole c.spin.count fun j => (c.client j).levels
  holding : ∀ id, (c.client id).task.needsHold = true → 0 < (c.client id).holds
  reentry : ∀ id p b, (c.client id).task = .spinning p b → (b = true ↔ 0 < (c.client id).holds)

variable {c : Control} {id : ClientId} {e : Deed} {d : Client} {events : List Event}

/-! ## What a turn does to the locks -/

theorem Turn.onTransport (h : Turn c id e d events) :
    match e with
    | .claim => (c.client id).task.onTransport = false ∧ d.task.onTransport = true
    | .free => (c.client id).task.onTransport = true ∧ d.task.onTransport = false
    | _ => d.task.onTransport = (c.client id).task.onTransport := by
  cases h <;> simp_all [Task.onTransport, Client.goTo, Client.answered, Client.holding]
  case opens ht => cases ht <;> rfl
  all_goals rename_i p _; cases p <;> rfl

theorem Turn.entries (h : Turn c id e d events)
    (holding : (c.client id).task.needsHold = true → 0 < (c.client id).holds) :
    match e with
    | .enter => d.entries = (c.client id).entries + 1
    | .leave => 0 < (c.client id).entries ∧ d.entries = (c.client id).entries - 1
    | _ => d.entries = (c.client id).entries := by
  cases h <;> simp_all [Task.entries, Task.needsHold, Client.entries, Client.goTo, Client.answered,
    Client.holding]
  case opens ht => cases ht <;> rfl
  case unhold => omega
  all_goals rename_i p _; cases p <;> rfl

theorem Turn.levels (h : Turn c id e d events)
    (holding : (c.client id).task.needsHold = true → 0 < (c.client id).holds) :
    match e with
    | .spin => d.levels = (c.client id).levels + 1
    | .respin => d.levels = (c.client id).levels + 1
    | .unspin => 0 < (c.client id).levels ∧ d.levels = (c.client id).levels - 1
    | _ => d.levels = (c.client id).levels := by
  cases h <;> simp_all [Task.spins, Task.needsHold, Client.levels, Client.goTo, Client.answered,
    Client.holding]
  case opens ht => cases ht <;> rfl
  case rehold p _ => cases p <;> simp <;> omega
  case hold p _ => cases p <;> simp <;> omega
  all_goals omega

theorem Turn.holding (h : Turn c id e d events)
    (holding : (c.client id).task.needsHold = true → 0 < (c.client id).holds)
    (needs : d.task.needsHold = true) : 0 < d.holds := by
  cases h <;> simp_all [Task.needsHold, Submission.isPark, Client.goTo, Client.answered,
    Client.holding]
  case opens ht => cases ht <;> simp_all
  case rehold p _ => cases p <;> simp_all
  case hold p _ => cases p <;> simp_all

theorem Turn.reentry (h : Turn c id e d events) (locks : Locks c) {p : Purpose} {b : Bool}
    (ht : d.task = .spinning p b) : b = true ↔ 0 < d.holds := by
  cases h <;> simp_all [Client.goTo, Client.answered, Client.holding]
  case opens opens => subst ht; cases opens
  case lock h =>
    have := locks.owner id
    simp only [Client.entries, h, Task.entries] at this
    rw [← ht.2, beq_iff_eq, this]
    simp
  case rehold p _ => cases p <;> simp_all
  case hold p _ => cases p <;> simp_all

theorem Turn.respin (h : Turn c id .respin d events) (locks : Locks c) :
    0 < (c.client id).levels := by
  cases h with
  | rehold p h =>
    have := (locks.reentry id p true h).1 rfl
    simp only [Client.levels]
    omega

/-! ## Every turn keeps the locks in accord -/

theorem client_turned (c : Control) (id : ClientId) (e : Deed) (d : Client) (j : ClientId) :
    ((e.apply c id).put id d).client j = if j = id then d else c.client j := by
  rw [client_put]
  simp [client]

theorem onTransport_turned (c : Control) (id : ClientId) (e : Deed) (d : Client) (who : Actor) :
    ((e.apply c id).put id d).onTransport who =
      if who = .client id then d.task.onTransport else c.onTransport who := by
  cases who with
  | dispatcher => simp [onTransport, put]
  | client j =>
    simp only [onTransport, client_turned, Actor.client.injEq]
    split <;> rfl

theorem Turn.transport (turn : Turn c id e d events) (allowed : e.Allowed c id)
    (locks : Locks c) (who : Actor) :
    ((e.apply c id).put id d).holder = some who ↔
      ((e.apply c id).put id d).onTransport who = true := by
  have here := turn.onTransport
  have there := locks.transport
  have holder : ((e.apply c id).put id d).holder = (e.apply c id).holder := rfl
  rw [onTransport_turned, holder]
  have kept (hh : (e.apply c id).holder = c.holder)
      (hd : d.task.onTransport = (c.client id).task.onTransport) :
      (e.apply c id).holder = some who ↔
        (if who = .client id then d.task.onTransport else c.onTransport who) = true := by
    rw [hh, there who]
    split
    next hw => rw [hw, hd]; rfl
    · rfl
  cases e with
  | claim =>
    -- nobody else is at a place on the transport, as it was free
    have free : c.holder = none := allowed
    have nobody : c.onTransport who = false := by
      have := there who
      rw [free] at this
      simpa using this
    simp [Deed.apply, here.2, nobody, eq_comm]
  | free =>
    have mine : c.holder = some (.client id) := (there _).2 here.1
    have nobody : who ≠ .client id → c.onTransport who = false := by
      intro hw
      have := there who
      rw [mine] at this
      simpa [Ne.symm hw] using this
    by_cases hw : who = .client id
    · simp [Deed.apply, hw, here.2]
    · simp [Deed.apply, hw, nobody hw]
  | _ => exact kept rfl here

theorem Locks.counts (locks : Locks c) : c.admission.Counts fun j => (c.client j).entries :=
  ⟨locks.admission, locks.owner⟩

theorem Turn.admission (turn : Turn c id e d events) (allowed : e.Allowed c id)
    (locks : Locks c) : ((e.apply c id).put id d).admission.Counts
      fun j => (((e.apply c id).put id d).client j).entries := by
  have here := turn.entries (locks.holding id)
  have hid : (((e.apply c id).put id d).client id).entries = d.entries := by
    rw [client_turned, if_pos rfl]
  have others (j : ClientId) (hj : j ≠ id) :
      (((e.apply c id).put id d).client j).entries = (c.client j).entries := by
    rw [client_turned, if_neg hj]
  have kept (ha : ((e.apply c id).put id d).admission = c.admission)
      (hd : d.entries = (c.client id).entries) : ((e.apply c id).put id d).admission.Counts
        fun j => (((e.apply c id).put id d).client j).entries := by
    rw [ha]
    refine locks.counts.same fun j => ?_
    by_cases hj : j = id
    · rw [hj, hid, hd]
    · exact others j hj
  cases e with
  | enter => exact locks.counts.enter allowed (hid.trans here) others
  | leave => exact locks.counts.leave here.1 (hid.trans here.2) others
  | _ => exact kept rfl here

theorem Turn.spin (turn : Turn c id e d events) (allowed : e.Allowed c id) (locks : Locks c) :
    Sole ((e.apply c id).put id d).spin.count
      (fun j => (((e.apply c id).put id d).client j).levels) := by
  have here := turn.levels (locks.holding id)
  have hid : (((e.apply c id).put id d).client id).levels = d.levels := by
    rw [client_turned, if_pos rfl]
  have others (j : ClientId) (hj : j ≠ id) :
      (((e.apply c id).put id d).client j).levels = (c.client j).levels := by
    rw [client_turned, if_neg hj]
  have kept (hs : ((e.apply c id).put id d).spin = c.spin)
      (hd : d.levels = (c.client id).levels) :
      Sole ((e.apply c id).put id d).spin.count
        (fun j => (((e.apply c id).put id d).client j).levels) := by
    rw [hs]
    refine locks.spin.same fun j => ?_
    by_cases hj : j = id
    · rw [hj, hid, hd]
    · exact others j hj
  cases e with
  | spin =>
    have free : c.spin.count = 0 := allowed
    have taken := hid.trans (here : d.levels = (c.client id).levels + 1)
    have grown : Sole (c.spin.count + 1) _ := locks.spin.grow (.inl free) taken others
    rwa [free] at grown
  | respin => exact locks.spin.grow (.inr (turn.respin locks)) (hid.trans here) others
  | unspin => exact locks.spin.shrink here.1 (hid.trans here.2) others
  | _ => exact kept rfl here

theorem Turns.locks {next : Control} (h : Turns c id next events) (locks : Locks c) :
    Locks next := by
  obtain ⟨e, d, turn, allowed, rfl⟩ := h
  obtain ⟨admission, owner⟩ := turn.admission allowed locks
  refine ⟨turn.transport allowed locks, admission, owner, turn.spin allowed locks, ?_, ?_⟩
  · intro j needs
    rw [client_turned] at needs ⊢
    split at needs
    next hj => rw [if_pos hj]; exact turn.holding (locks.holding id) needs
    next hj => rw [if_neg hj]; exact locks.holding j needs
  · intro j p b ht
    rw [client_turned] at ht ⊢
    split at ht
    next hj => rw [if_pos hj]; exact turn.reentry locks ht
    next hj => rw [if_neg hj]; exact locks.reentry j p b ht

theorem DispatcherTurn.client {next : Control} (h : DispatcherTurn c next events) (j : ClientId) :
    next.client j = c.client j := by
  simp only [Control.client, h.clients.1]

/-- The dispatcher takes or gives up the transport, or leaves it as it is. -/
theorem DispatcherTurn.holder {next : Control} (h : DispatcherTurn c next events) :
    (next.holder = c.holder ∧ next.dispatcher.onTransport = c.dispatcher.onTransport) ∨
      (c.holder = none ∧ next.holder = some .dispatcher ∧ next.dispatcher.onTransport = true) ∨
      (c.dispatcher.onTransport = true ∧ next.holder = none ∧
        next.dispatcher.onTransport = false) := by
  cases h
  case served => unfold Control.served; split <;> simp_all [Dispatcher.onTransport]
  case abort h => rcases h with ⟨j, s, h⟩ | ⟨l, s, h⟩ <;> simp_all [Dispatcher.onTransport]
  case unwind h => rcases h with ⟨j, s, h⟩ | ⟨l, s, h⟩ <;> simp_all [Dispatcher.onTransport]
  all_goals simp_all [Dispatcher.onTransport]

/-- A turn of the dispatcher touches no lock but the transport. -/
theorem DispatcherTurn.others {next : Control} (h : DispatcherTurn c next events) :
    next.admission = c.admission ∧ next.spin = c.spin := by
  cases h
  case served => unfold Control.served; split <;> exact ⟨rfl, rfl⟩
  all_goals exact ⟨rfl, rfl⟩

theorem DispatcherTurn.locks {next : Control} (h : DispatcherTurn c next events)
    (locks : Locks c) : Locks next := by
  obtain ⟨admission, spin⟩ := h.others
  have client := h.client
  refine ⟨fun who => ?transport, ?admission, ?owner, ?spin, ?holding, ?reentry⟩
  case transport =>
    have there := locks.transport who
    have mine := locks.transport .dispatcher
    have apart : ∀ id, (Actor.client id) ≠ .dispatcher := by simp
    rcases h.holder with ⟨hh, hd⟩ | ⟨free, hh, hd⟩ | ⟨held, hh, hd⟩
    · cases who <;> simp_all [onTransport]
    · cases who <;> simp_all [onTransport]
    · have holds := mine.2 held
      cases who <;> simp_all [onTransport]
  case admission => rw [admission]; exact locks.admission.same fun j => by rw [client j]
  case owner => intro id; rw [admission, client id]; exact locks.owner id
  case spin => rw [spin]; exact locks.spin.same fun j => by rw [client j]
  case holding => intro id; rw [client id]; exact locks.holding id
  case reentry => intro id; rw [client id]; exact locks.reentry id

/-- Every turn keeps the locks in accord with the places. -/
theorem Goes.locks {who : Actor} {next : Control} (h : c.Goes who next events) (locks : Locks c) :
    Locks next := by
  cases h with
  | dispatcher h => exact h.locks locks
  | client h => exact h.locks locks

theorem locks_opened (setup : Setup) : Locks { setup } := by
  have client (j : ClientId) : ({ setup } : Control).client j = {} := rfl
  refine ⟨fun who => ?_, ⟨0, rfl, fun _ _ => rfl⟩, fun id => ?_, ⟨0, rfl, fun _ _ => rfl⟩, ?_, ?_⟩
  · cases who <;> simp [onTransport, client, Dispatcher.onTransport, Task.onTransport]
  · simp [client, Client.entries, Task.entries]
  · simp [client, Task.needsHold]
  · simp [client]

/-! ## What the locks keep apart -/

/-- Two threads are never both at places that hold the transport. -/
theorem Locks.transport_unique (locks : Locks c) {who who' : Actor}
    (h : c.onTransport who = true) (h' : c.onTransport who' = true) : who = who' := by
  have := ((locks.transport who).2 h).symm.trans ((locks.transport who').2 h')
  exact Option.some.inj this

theorem Locks.spin_unique (locks : Locks c) {i j : ClientId}
    (hi : 0 < (c.client i).levels) (hj : 0 < (c.client j).levels) : i = j := by
  by_cases h : i = j
  · exact h
  · have := locks.spin.others_zero hj h
    omega

end Control

end FlashGate

/-
Where the device stands between two scripts. The place of the dispatcher tells which hardware it
holds, and while it is parked the windows do. Main statements: `Goes.quiet`, that a turn off duty
takes up a duty or leaves the device at its stage, and `Duty.On.unique`, that at any time there is
one duty at most.
-/
import FlashGate.Proofs.Gateway.Duty
import FlashGate.Proofs.Gateway.Window

namespace FlashGate

/-- Where the device stands when no script runs on it. -/
inductive Stage where
  /-- The dispatcher holds what the mode says. -/
  | held (m : Mode)
  /-- A low-level window is open. -/
  | window

/-- Whether an event is none of the device's: no call, no breach, no bytes of a read. -/
def Event.isAside : Event → Bool
  | .call .. => false
  | .breach _ => false
  | .answered .. => false
  | _ => true

/-- Whether a message is a sentinel. -/
def Message.isSentinel : Message → Bool
  | .job _ => false
  | _ => true

/-- The message in an event that the queue gave out. -/
def Event.taken? : Event → Option Message
  | .taken m => some m
  | _ => none

/-- The messages that the dispatcher took, in order. -/
def takenIn (journal : List Entry) : List Message := journal.filterMap (·.event.taken?)

@[simp] theorem takenIn_append (a b : List Entry) : takenIn (a ++ b) = takenIn a ++ takenIn b :=
  List.filterMap_append ..

/-- The bytes of a read in an event that hands them over. -/
def Event.answered? : Event → Option (Ticket × List UInt8)
  | .answered t bytes => some (t, bytes)
  | _ => none

/-- The bytes of reads that a journal hands over, in order. -/
def answeredIn (journal : List Entry) : List (Ticket × List UInt8) :=
  journal.filterMap (·.event.answered?)

@[simp] theorem answeredIn_append (a b : List Entry) :
    answeredIn (a ++ b) = answeredIn a ++ answeredIn b := List.filterMap_append ..

theorem answeredIn_eq_nil {who : Actor} {events : List Event}
    (h : ∀ e ∈ events, e.answered? = none) : answeredIn (events.map (⟨who, ·⟩)) = [] := by
  rw [answeredIn, List.filterMap_eq_nil_iff]
  intro x hx
  obtain ⟨e, he, rfl⟩ := List.mem_map.1 hx
  exact h e he

theorem answeredIn_aside {who : Actor} {events : List Event} (h : ∀ e ∈ events, e.isAside = true) :
    answeredIn (events.map (⟨who, ·⟩)) = [] := by
  refine answeredIn_eq_nil fun e he => ?_
  have := h e he
  cases e <;> first | rfl | cases this

theorem answeredIn_traffic {who : Actor} {events : List Event}
    (h : ∀ e ∈ events, e.isTraffic = true) : answeredIn (events.map (⟨who, ·⟩)) = [] := by
  refine answeredIn_eq_nil fun e he => ?_
  have := h e he
  cases e <;> first | rfl | cases this

theorem answeredIn_call {σ : Type} (T : Transport σ) (who : Actor) (c : Call) (b : Bus σ) :
    answeredIn (b.call T who c).2.journal.toList = answeredIn b.journal.toList := by
  rw [Bus.toList_journal_call, answeredIn_append, answeredIn_eq_nil, List.append_nil]
  intro e he
  rcases List.mem_cons.1 he with rfl | he
  · rfl
  · obtain ⟨x, -, rfl⟩ := List.mem_map.1 he
    rfl

theorem answeredIn_log {σ : Type} (who : Actor) (l : Line) (b : Bus σ) :
    answeredIn (b.log who l).journal.toList = answeredIn b.journal.toList := by
  rw [Bus.log, Bus.toList_journal_record, answeredIn_append]
  exact List.append_nil _

namespace Control

/-- The stage that the device is at when no script runs; none after a fault of the dispatcher. -/
def Stands (c : Control) (st : Stage) : Prop :=
  match c.dispatcher with
  | .starting => st = .held c.mode
  | .receiving => st = .held c.mode
  | .claiming _ => st = .held c.mode
  | .serving .. => False
  | .detaching j => st = .held (.serving j.operation.kind)
  | .restoring j => st = .held (.serving j.operation.kind)
  | .claimingRelease _ => st = .held c.mode
  | .releasing .. => False
  | .detachingRelease _ => st = .held .released
  | .announcing => st = .held .released
  | .parked => c.IsOpen ∧ st = .window ∨ ¬ c.IsOpen ∧ st = .held .released
  | .stopped => st = .held .released
  | .unwinding => False
  | .dead => False
  | .aborted => False

theorem stands_parked {c : Control} (h : c.dispatcher = .parked) (st : Stage) :
    c.Stands st ↔ c.IsOpen ∧ st = .window ∨ ¬ c.IsOpen ∧ st = .held .released := by
  simp only [Stands, h]

/-- The message that the dispatcher has taken and is not done with. -/
def Pending : Dispatcher → List Message → Prop
  | .claiming j, current => current = [.job j]
  | .serving j _, current => current = [.job j]
  | .claimingRelease _, current => ∃ m, current = [m] ∧ m.isSentinel = true
  | .releasing .., current => ∃ m, current = [m] ∧ m.isSentinel = true
  | .unwinding, _ => True
  | .dead, _ => True
  | .aborted, _ => True
  | _, current => current = []

end Control

/-- Whether a fault has hit the dispatcher. -/
def Dispatcher.isFaulted : Dispatcher → Bool
  | .unwinding => true
  | .dead => true
  | .aborted => true
  | _ => false

/-- Whether a client at the place runs a script. -/
def Task.isDuty : Task → Bool
  | .opening _ => true
  | .shutting .. => true
  | .bypassReading .. => true
  | _ => false

namespace Duty

variable {c : Control} {d d' : Duty} {script script' : Script (List UInt8)}

theorem On.onTransport (h : d.On c script) : c.onTransport d.actor = true := by
  cases d
  case serve j =>
    have h : c.dispatcher = _ := h
    simp [Control.onTransport, actor, h, Dispatcher.onTransport]
  case release l =>
    have h : c.dispatcher = _ := h
    simp [Control.onTransport, actor, h, Dispatcher.onTransport]
  all_goals
    simp only [Control.onTransport, actor]
    rw [show (c.client _).task = _ from h]
    rfl

/-- At any time there is one duty at most. -/
theorem On.unique (h : d.On c script) (h' : d'.On c script') (locks : c.Locks) :
    d' = d ∧ script' = script := by
  have same := locks.transport_unique h.onTransport h'.onTransport
  cases d <;> cases d' <;> simp_all [On, actor]

theorem not_on_of_off {id : ClientId} (off : (c.client id).task.isDuty = false) (d : Duty)
    (script : Script (List UInt8)) (actor : d.actor = .client id) : ¬ d.On c script := by
  intro on
  cases d
  case serve => cases actor
  case release => cases actor
  all_goals
    cases actor
    rw [show (c.client id).task = _ from on] at off
    cases off

theorem not_on_of_holder (locks : c.Locks) (who : Actor) (holds : c.onTransport who = true)
    (off : ∀ (d : Duty) script, d.actor = who → ¬ d.On c script) (d : Duty)
    (script : Script (List UInt8)) : ¬ d.On c script := by
  intro h
  exact off d script (locks.transport_unique h.onTransport holds) h

end Duty

namespace Control

variable {c next : Control} {who : Actor} {events : List Event} {d : Duty}
  {script : Script (List UInt8)}

/-! ## Quiet turns -/

theorem Goes.on_iff (h : c.Goes who next events) (other : d.actor ≠ who) :
    d.On next script ↔ d.On c script := by
  cases h with
  | dispatcher h =>
    cases d
    case serve => exact absurd rfl other
    case release => exact absurd rfl other
    all_goals simp only [Duty.On, h.client]
  | @client id _ _ h =>
    obtain ⟨e, d', -, -, rfl⟩ := h
    have client (j : ClientId) (hj : Actor.client j ≠ .client id) :
        ((e.apply c id).put id d').client j = c.client j := by
      rw [client_turned, if_neg (by simpa using hj)]
    cases d
    case serve j => simp only [Duty.On, put, dispatcher_apply]
    case release l => simp only [Duty.On, put, dispatcher_apply]
    all_goals simp only [Duty.On, client _ other]

/-- Where a turn off duty leaves no other thread on one, nobody was on one before it. -/
theorem Goes.nobody_before (h : c.Goes who next events)
    (off : ∀ (d : Duty) script, d.actor = who → ¬ d.On c script)
    (others : ∀ (d : Duty) script, d.actor ≠ who → ¬ d.On next script) (d : Duty)
    (script : Script (List UInt8)) : ¬ d.On c script := by
  intro before
  by_cases mine : d.actor = who
  · exact off d script mine before
  · exact others d script mine ((h.on_iff mine).2 before)

theorem Goes.nobody_of_begun (h : c.Goes who next events) (locks : next.Locks)
    (off : ∀ (d : Duty) script, d.actor = who → ¬ d.On c script) (on : d.On next script)
    (mine : d.actor = who) : ∀ (d : Duty) script, ¬ d.On c script := by
  refine h.nobody_before off fun d' script' other on' => ?_
  obtain ⟨rfl, -⟩ := on.unique on' locks
  exact other mine

theorem not_on_of_place {c : Control} (serving : ∀ j s, c.dispatcher ≠ .serving j s)
    (releasing : ∀ l s, c.dispatcher ≠ .releasing l s) (d : Duty) (script : Script (List UInt8))
    (mine : d.actor = .dispatcher) : ¬ d.On c script := by
  cases d
  case serve j => exact serving j script
  case release l => exact releasing l script
  all_goals cases mine

/-- A turn of the dispatcher off duty takes up a duty, or leaves the device at its stage. -/
theorem DispatcherTurn.quiet (h : DispatcherTurn c next events) (sound : Sound c)
    (off : ∀ (d : Duty) script, d.actor = .dispatcher → ¬ d.On c script) :
    (∀ e ∈ events, e.isAside = true) ∧
      ((∃ j, c.dispatcher = .claiming j ∧
          next.dispatcher = .serving j (serve c.setup c.mode j.operation)) ∨
        (∃ l, c.dispatcher = .claimingRelease l ∧
          next.dispatcher = .releasing l (release c.setup c.mode)) ∨
        (∀ (d : Duty) script, d.actor = .dispatcher → ¬ d.On next script) ∧
          ∀ st, next.Stands st → c.Stands st) := by
  have aside {e : Event} (h : e.isPlain = true) : e.isAside = true := by
    cases e <;> first | rfl | cases h
  have isOpen := h.isOpen sound
  have notServing (j : Job) (s : Script (List UInt8)) : c.dispatcher ≠ .serving j s :=
    off (.serve j) s rfl
  have notReleasing (l : Leave) (s : Script (List UInt8)) : c.dispatcher ≠ .releasing l s :=
    off (.release l) s rfl
  cases h
  case claim j h free => exact ⟨by simp, .inl ⟨j, h, rfl⟩⟩
  case claimRelease l h free => exact ⟨by simp, .inr (.inl ⟨l, h, rfl⟩)⟩
  case serveOn h => exact absurd h (notServing _ _)
  case served h => exact absurd h (notServing _ _)
  case releaseOn h => exact absurd h (notReleasing _ _)
  case released h => exact absurd h (notReleasing _ _)
  case abort h =>
    rcases h with ⟨j, s, h⟩ | ⟨l, s, h⟩
    · exact absurd h (notServing _ _)
    · exact absurd h (notReleasing _ _)
  case unwind h =>
    rcases h with ⟨j, s, h⟩ | ⟨l, s, h⟩
    · exact absurd h (notServing _ _)
    · exact absurd h (notReleasing _ _)
  case announce h =>
    refine ⟨by simp, .inr (.inr ⟨not_on_of_place (by simp) (by simp), fun st hst => ?_⟩)⟩
    -- the window of the park is not set up yet
    have shut : ¬ c.IsOpen := by
      intro ho
      have := sound.handshake.parked ho.1
      rw [h] at this
      cases this
    rcases hst with ⟨ho, -⟩ | ⟨-, hst⟩
    · exact absurd (isOpen.1 ho) shut
    · simpa only [Control.Stands, h] using hst
  case wake h state plain =>
    refine ⟨fun e he => aside (plain e he),
      .inr (.inr ⟨not_on_of_place (by simp) (by simp), fun st hst => ?_⟩)⟩
    have released := sound.handshake.mode (by rw [h]; rfl)
    have hst : st = .held c.mode := hst
    simp only [Control.Stands, h]
    exact .inr ⟨fun ho => state ho.1, by rw [hst, released]⟩
  case die h =>
    exact ⟨by simp, .inr (.inr ⟨not_on_of_place (by simp) (by simp), fun st hst => hst.elim⟩)⟩
  -- at the other places the dispatcher goes on with the device at the same stage
  all_goals
    refine ⟨?_, .inr (.inr ⟨not_on_of_place (by simp) (by simp), fun st hst => ?_⟩)⟩
    · first
        | simp [Event.isAside]; done
        | exact fun e he => aside (‹∀ e ∈ _, e.isPlain = true› e he)
    · simpa only [Control.Stands, ‹c.dispatcher = _›] using hst

/-- A turn of a client off duty takes up a duty, or leaves the device at its stage. -/
theorem Turn.quiet {id : ClientId} {e : Deed} {d : Client} (h : Turn c id e d events)
    (allowed : e.Allowed c id) (sound : Sound c) (off : (c.client id).task.isDuty = false) :
    (∀ e ∈ events, e.isAside = true ∧ e.taken? = none) ∧
      ((c.client id).task = .claimingWindow ∧ d.task = .opening openWindow ∨
        (∃ w, (c.client id).task = .checkingClose w ∧ c.park.state = .parked ∧
          d.task = .shutting w shutWindow) ∨
        (∃ r, (c.client id).task = .bypassRechecking r ∧ c.park.state = .parked ∧
          d.task = .bypassReading r (Transfer.fastRead c.setup.geometry c.setup.readChunk r.address
            r.buffer (some r.submode))) ∨
        d.task.isDuty = false ∧ (IsOpen ((e.apply c id).put id d) ↔ IsOpen c)) := by
  have isOpen := h.isOpen allowed sound
    (fun s hs => by rw [hs] at off; cases off) (fun w s hs => by rw [hs] at off; cases off)
  have aside {e : Event} (h : e.isPlain = true) : e.isAside = true ∧ e.taken? = none := by
    cases e <;> first | exact ⟨rfl, rfl⟩ | cases h
  cases h
  case claimWindow h => exact ⟨by simp, .inl ⟨h, rfl⟩⟩
  case shut w h parked => exact ⟨by simp, .inr (.inl ⟨w, h, parked, rfl⟩)⟩
  case bypassRead r h parked => exact ⟨by simp, .inr (.inr (.inl ⟨r, h, parked, rfl⟩))⟩
  all_goals refine ⟨?_, .inr (.inr (.inr ⟨?_, isOpen⟩))⟩
  case opens.refine_2 ht => cases ht <;> rfl
  case rehold.refine_2 p _ => cases p <;> rfl
  case hold.refine_2 p _ => cases p <;> rfl
  all_goals first
    | rfl
    | simp [Event.isAside, Event.taken?]; done
    | exact fun e he => aside (‹∀ e ∈ _, Event.isPlain e = true› e he)
    | simp_all [Task.isDuty]

/-- How a thread takes up a duty: where the device stands then, and the script. -/
inductive Begins (c : Control) : Duty → Script (List UInt8) → Prop where
  | serve (j : Job) (stands : c.Stands (.held c.mode)) (fits : j.operation.Fits c.setup) :
    Begins c (.serve j) (serve c.setup c.mode j.operation)
  | release (l : Leave) (stands : c.Stands (.held c.mode)) :
    Begins c (.release l) (release c.setup c.mode)
  | setUp (id : ClientId) (stands : c.Stands (.held .released))
    (fast : c.setup.strategy ≠ .standard) : Begins c (.setUp id) openWindow
  | shutDown (id : ClientId) (w : Closing) (stands : c.Stands .window) :
    Begins c (.shutDown id w) shutWindow
  | read (id : ClientId) (r : Bypass) (stands : c.Stands .window) :
    Begins c (.read id r) (Transfer.fastRead c.setup.geometry c.setup.readChunk r.address r.buffer
      (some r.submode))

/-- A turn off duty takes up a duty, or leaves the device at its stage. -/
theorem Goes.quiet (h : c.Goes who next events) (sound : Sound c)
    (off : ∀ (d : Duty) script, d.actor = who → ¬ d.On c script) :
    (∀ e ∈ events, e.isAside = true) ∧
      ((∃ (d : Duty) (script : _), d.actor = who ∧ d.On next script ∧ c.Begins d script) ∨
        (∀ (d : Duty) script, d.actor = who → ¬ d.On next script) ∧
          ∀ st, next.Stands st → c.Stands st) := by
  cases h with
  | dispatcher h =>
    obtain ⟨aside, ⟨j, hc, hn⟩ | ⟨l, hc, hn⟩ | away⟩ := h.quiet sound off
    · exact ⟨aside, .inl ⟨.serve j, _, rfl, hn,
        .serve j (by simp only [Control.Stands, hc]) (sound.fitting.claiming j hc)⟩⟩
    · exact ⟨aside, .inl ⟨.release l, _, rfl, hn,
        .release l (by simp only [Control.Stands, hc])⟩⟩
    · exact ⟨aside, .inr away⟩
  | @client id _ _ h =>
    obtain ⟨e, d, turn, allowed, rfl⟩ := h
    have offDuty : (c.client id).task.isDuty = false := by
      cases ht : (c.client id).task
      case opening s => exact absurd ht (off (.setUp id) s rfl)
      case shutting w s => exact absurd ht (off (.shutDown id w) s rfl)
      case bypassReading r s => exact absurd ht (off (.read id r) s rfl)
      all_goals rfl
    have here : ((e.apply c id).put id d).client id = d := by rw [client_turned, if_pos rfl]
    -- on the device of a parked dispatcher the stage is told by the window
    have parked (state : c.park.state = .parked) : c.dispatcher = .parked :=
      sound.handshake.parked state
    obtain ⟨aside, ⟨hc, hd⟩ | ⟨w, hc, state, hd⟩ | ⟨r, hc, state, hd⟩ | ⟨away, isOpen⟩⟩ :=
      turn.quiet allowed sound offDuty
    · refine ⟨fun e he => (aside e he).1, .inl ⟨.setUp id, _, rfl, ?_, .setUp id ?_ ?_⟩⟩
      · exact (congrArg Client.task here).trans hd
      · have shut : ¬ c.IsOpen := by
          intro ho
          have := ho.2 id
          rw [hc] at this
          cases this
        have state := (sound.handshake.enters id (by rw [role, hc]; rfl)).1
        simp only [Control.Stands, parked state]
        exact .inr ⟨shut, trivial⟩
      · exact sound.fitting.fast id (by rw [hc]; rfl)
    · refine ⟨fun e he => (aside e he).1, .inl ⟨.shutDown id w, _, rfl, ?_, .shutDown id w ?_⟩⟩
      · exact (congrArg Client.task here).trans hd
      · simp only [Control.Stands, parked state]
        exact .inl ⟨sound.isOpen_of_close (w := w) (by rw [role, hc]; rfl)
          (by simp [onTransport, hc, Task.onTransport]) (by rw [hc]; rfl) state, trivial⟩
    · refine ⟨fun e he => (aside e he).1, .inl ⟨.read id r, _, rfl, ?_, .read id r ?_⟩⟩
      · exact (congrArg Client.task here).trans hd
      · simp only [Control.Stands, parked state]
        exact .inl ⟨sound.isOpen_of_locks state (by rw [hc]; rfl) (by rw [hc]; rfl), trivial⟩
    · refine ⟨fun e he => (aside e he).1, .inr ⟨fun d' script hd' => ?_, fun st hst => ?_⟩⟩
      · intro on
        cases d'
        case serve => cases hd'
        case release => cases hd'
        all_goals
          cases hd'
          have on := (congrArg Client.task here).symm.trans on
          rw [on] at away
          cases away
      · have mode : ((e.apply c id).put id d).mode = c.mode := mode_apply c id e
        have place : ((e.apply c id).put id d).dispatcher = c.dispatcher := dispatcher_apply c id e
        simpa only [Control.Stands, mode, place, isOpen] using hst

theorem takenIn_eq_nil {events : List Event} (h : ∀ e ∈ events, e.taken? = none) :
    takenIn (events.map (⟨who, ·⟩)) = [] := by
  rw [takenIn, List.filterMap_eq_nil_iff]
  intro x hx
  obtain ⟨e, he, rfl⟩ := List.mem_map.1 hx
  exact h e he

/-- What the dispatcher has taken and is not done with, after a turn off duty. -/
theorem DispatcherTurn.pending (h : DispatcherTurn c next events)
    (off : ∀ (d : Duty) script, d.actor = .dispatcher → ¬ d.On c script)
    {current : List Message} (hp : Pending c.dispatcher current) :
    Pending next.dispatcher (current ++ takenIn (events.map (⟨.dispatcher, ·⟩))) := by
  have serving (j : Job) (s : Script (List UInt8)) : c.dispatcher ≠ .serving j s :=
    off (.serve j) s rfl
  have releasing (l : Leave) (s : Script (List UInt8)) : c.dispatcher ≠ .releasing l s :=
    off (.release l) s rfl
  have plain (h : ∀ e ∈ events, e.isPlain = true) :
      takenIn (events.map (⟨.dispatcher, ·⟩)) = [] := by
    refine takenIn_eq_nil fun e he => ?_
    have := h e he
    cases e <;> first | rfl | cases this
  cases h
  case start h hplain => rw [plain hplain]; simp_all [Pending]
  case restore h hplain => rw [plain hplain]; simp_all [Pending]
  case stop h hplain => rw [plain hplain]; simp_all [Pending]
  case wake h _ hplain => rw [plain hplain]; simp_all [Pending]
  all_goals simp_all [Pending, takenIn, Event.taken?, Message.isSentinel]

theorem Turn.takenIn {id : ClientId} {e : Deed} {d : Client} (h : Turn c id e d events) :
    takenIn (events.map (⟨.client id, ·⟩)) = [] := by
  refine takenIn_eq_nil fun x hx => ?_
  have plain (h : ∀ e ∈ events, e.isPlain = true) : x.taken? = none := by
    have := h x hx
    cases x <;> first | rfl | cases this
  cases h <;> first
    | exact plain ‹_›
    | cases hx; done
    | simp only [List.mem_singleton] at hx; subst hx; rfl

/-- What the dispatcher has taken and is not done with, after a turn off duty. -/
theorem Goes.pending (h : c.Goes who next events)
    (off : ∀ (d : Duty) script, d.actor = who → ¬ d.On c script)
    {current : List Message} (hp : Pending c.dispatcher current) :
    Pending next.dispatcher (current ++ takenIn (events.map (⟨who, ·⟩))) := by
  cases h with
  | dispatcher h => exact h.pending off hp
  | client h =>
    rw [h.dispatcher.1]
    obtain ⟨e, d, turn, -, -⟩ := h
    rwa [turn.takenIn, List.append_nil]

/-- A turn off duty does not lead into a fault. -/
theorem Goes.fault (h : c.Goes who next events)
    (off : ∀ (d : Duty) script, d.actor = who → ¬ d.On c script)
    (halted : next.dispatcher.isFaulted = true) :
    c.dispatcher.isFaulted = true ∧ (c.dispatcher = .aborted ↔ next.dispatcher = .aborted) := by
  cases h with
  | dispatcher h =>
    cases h
    case die h => rw [h]; exact ⟨rfl, by simp⟩
    case serveOn h => exact absurd h (off (.serve _) _ rfl)
    case served h => exact absurd h (off (.serve _) _ rfl)
    case unwind h =>
      rcases h with ⟨j, s, h⟩ | ⟨l, s, h⟩
      · exact absurd h (off (.serve _) _ rfl)
      · exact absurd h (off (.release _) _ rfl)
    case abort h =>
      rcases h with ⟨j, s, h⟩ | ⟨l, s, h⟩
      · exact absurd h (off (.serve _) _ rfl)
      · exact absurd h (off (.release _) _ rfl)
    all_goals cases halted
  | client h =>
    rw [h.dispatcher.1] at halted ⊢
    exact ⟨halted, Iff.rfl⟩

/-! ## Between the scripts -/

/-- Whether a thread's next move is a turn of a script. -/
def Drives (c : Control) (who : Actor) : Prop :=
  ∃ script resume, c.move? who = some (.drive script resume)

theorem not_on_of_drives (alive : c.dispatcher ≠ .aborted) (h : ∀ who, ¬ c.Drives who) (d : Duty)
    (script : Script (List UInt8)) : ¬ d.On c script :=
  fun on => h d.actor ⟨_, _, move?_of_on on alive⟩

theorem not_drives_of_off (off : ∀ (d : Duty) script, ¬ d.On c script) (who : Actor) :
    ¬ c.Drives who := by
  rintro ⟨script, resume, h⟩
  rcases move?_duty h with ⟨next, events, quiet⟩ | ⟨d, script', -, on, -⟩
  · cases quiet
  · exact off d script' on

/-- The device is at some stage while no script runs and no fault has hit the dispatcher. -/
theorem exists_stands (free : ∀ (d : Duty) script, ¬ d.On c script)
    (sane : c.dispatcher.isFaulted = false) : ∃ st, c.Stands st := by
  have serving (j : Job) (s : Script (List UInt8)) : c.dispatcher ≠ .serving j s :=
    free (.serve j) s
  have releasing (l : Leave) (s : Script (List UInt8)) : c.dispatcher ≠ .releasing l s :=
    free (.release l) s
  unfold Control.Stands
  cases hd : c.dispatcher with
  | serving j s => exact absurd hd (serving j s)
  | releasing l s => exact absurd hd (releasing l s)
  | parked =>
    by_cases ho : c.IsOpen
    · exact ⟨_, .inl ⟨ho, rfl⟩⟩
    · exact ⟨_, .inr ⟨ho, rfl⟩⟩
  | unwinding => rw [hd] at sane; cases sane
  | dead => rw [hd] at sane; cases sane
  | aborted => rw [hd] at sane; cases sane
  | _ => exact ⟨_, rfl⟩

/-- A thread that holds the transport can go on. -/
theorem move?_of_onTransport (alive : c.dispatcher ≠ .aborted) (holds : c.onTransport who = true) :
    c.move? who ≠ none := by
  cases who with
  | dispatcher =>
    have holds : c.dispatcher.onTransport = true := holds
    unfold move?
    simp only
    unfold dispatcherMove?
    cases hd : c.dispatcher <;> simp_all [Dispatcher.onTransport]
    case detachingRelease l => cases l <;> simp
  | client id =>
    have holds : (c.client id).task.onTransport = true := holds
    have client : c.move? (.client id) = c.clientMove? id := by
      unfold move?
      split <;> simp_all
    rw [client]
    unfold clientMove?
    cases ht : (c.client id).task <;>
      simp_all [Task.onTransport, closeMove?, bypassMove?, lockMove?]
    all_goals split <;> simp

/-- When no thread can move, nobody holds the transport, as long as the process has not ended. -/
theorem Sound.holder_of_rest (sound : Sound c) (rest : ∀ who, c.move? who = none)
    (alive : c.dispatcher ≠ .aborted) : c.holder = none := by
  cases h : c.holder with
  | none => rfl
  | some who =>
    exact absurd (rest who)
      (move?_of_onTransport alive ((sound.locks.transport who).1 h))

/-- When no thread can move, the dispatcher waits for a message or sleeps, or it is over; and it is
not in the middle of anything. -/
theorem Sound.dispatcher_of_rest (sound : Sound c) (rest : ∀ who, c.move? who = none) :
    c.dispatcher = .receiving ∧ c.queue = [] ∨ c.dispatcher = .parked ∨
      c.dispatcher = .stopped ∧ c.queue = [] ∨ c.dispatcher = .dead ∨ c.dispatcher = .aborted := by
  have still := rest .dispatcher
  unfold move? at still
  cases hd : c.dispatcher with
  | stopped => exact .inr (.inr (.inl ⟨rfl, sound.handshake.ended (by rw [hd]; rfl)⟩))
  | parked => simp
  | dead => simp
  | aborted => simp
  | receiving =>
    cases hq : c.queue with
    | nil => simp
    | cons m rest => simp [hd, dispatcherMove?, hq] at still
  | claiming j => simp [hd, dispatcherMove?, sound.holder_of_rest rest (by simp [hd])] at still
  | claimingRelease l =>
    simp [hd, dispatcherMove?, sound.holder_of_rest rest (by simp [hd])] at still
  | detachingRelease l => cases l <;> simp [hd, dispatcherMove?] at still
  | _ => simp [hd, dispatcherMove?] at still

end Control

end FlashGate

/-
The park handshake and the end of a gate. The place of a client in its code gives it a role: it
asks for the park, waits for it, opens or closes a window, or drops the gate. Main statement:
`Goes.handshake`, that every turn keeps the roles, the handshake and the sentinels on the queue in
accord. So the dispatcher sleeps while the state is parked, one client at a time opens or closes a
window, and the stop sentinel is the last message.
-/
import FlashGate.Proofs.Gateway.Locks

namespace FlashGate

/-! ## Roles -/

/-- What the place of a client means for the handshake. -/
inductive Role where
  /-- Not at work. -/
  | idle
  /-- At work on something else. -/
  | apart
  /-- Has asked for the park, the sentinel not on its way. -/
  | asks
  /-- Has sent the sentinel. -/
  | sent
  /-- The dispatcher has parked; sets the window up. -/
  | enters
  /-- Closes its own window. -/
  | closes
  /-- Drops the gate, the stop sentinel not on its way. -/
  | drops
  /-- Has sent the stop sentinel, or seen that it has no taker. -/
  | joins
  deriving DecidableEq

/-- The role of a client that closes a window. -/
def Closing.role : Closing → Role
  | .shutdown => .closes
  | .drop => .drops

/-- The role of a client that has closed a window or failed to. -/
def Closing.left : Closing → Role
  | .shutdown => .apart
  | .drop => .drops

/-- The role of a client that is to send a submission. -/
def Submission.role : Submission → Role
  | .job .. => .apart
  | .park => .asks

/-- The role of a client that has sent a submission, or found no taker for it. -/
def Submission.left : Submission → Option Ticket → Role
  | .job .., _ => .apart
  | .park, none => .asks
  | .park, some _ => .sent

/-- The role of a client at a place. -/
def Task.role : Task → Role
  | .idle => .idle
  | .admitting s => s.role
  | .sending s => s.role
  | .leaving s t => s.left t
  | .withdrawing => .asks
  | .waitingParked => .sent
  | .claimingWindow => .enters
  | .opening _ => .enters
  | .detachingWindow => .enters
  | .claimingClose w => w.role
  | .checkingClose w => w.role
  | .shutting w _ => w.role
  | .resuming w => w.role
  | .detachingClose w _ => w.left
  | .inspecting => .drops
  | .stopping => .drops
  | .joining => .joins
  | _ => .apart

/-- Whether the message is the sentinel of a low-level window. -/
def Message.isPark : Message → Bool
  | .park _ => true
  | _ => false

namespace Dispatcher

/-- Whether the dispatcher has taken the sentinel of a low-level window and not announced the
park. -/
def parks : Dispatcher → Bool
  | .claimingRelease .park => true
  | .releasing .park _ => true
  | .detachingRelease .park => true
  | .announcing => true
  | _ => false

/-- Whether the dispatcher has taken the stop sentinel. -/
def stops : Dispatcher → Bool
  | .claimingRelease .stop => true
  | .releasing .stop _ => true
  | .detachingRelease .stop => true
  | .stopped => true
  | _ => false

/-- Whether the dispatcher has released the hardware and not taken a job since. -/
def isReleased : Dispatcher → Bool
  | .detachingRelease _ => true
  | .announcing => true
  | .parked => true
  | .stopped => true
  | _ => false

end Dispatcher

namespace Control

/-- The role of a client. -/
def role (c : Control) (id : ClientId) : Role := (c.client id).task.role

/-- The sentinels of low-level windows that are on their way to the announcement of the park. -/
def sentinels (c : Control) : Nat :=
  c.queue.countP Message.isPark + if c.dispatcher.parks then 1 else 0

/-- The handshake stands as the roles of the clients say. -/
structure Handshake (c : Control) : Prop where
  owner : c.park.state = .running ↔ c.park.owner = none
  asks : ∀ id, c.role id = .asks →
    c.park.state = .requested ∧ c.park.owner = some id ∧ c.sentinels = 0
  sent : ∀ id, c.role id = .sent → c.park.owner = some id
  enters : ∀ id, c.role id = .enters → c.park.state = .parked ∧ c.park.owner = some id
  closes : ∀ id, c.role id = .closes → c.park.state = .parked ∧ c.park.owner = some id
  requested : ∀ id, c.park.state = .requested → c.park.owner = some id →
    c.role id = .asks ∨ c.role id = .sent
  sentinel : c.sentinels ≠ 0 → c.sentinels = 1 ∧ c.park.state = .requested ∧
    ∀ id, c.park.owner = some id → c.role id = .sent
  parked : c.park.state = .parked → c.dispatcher = .parked
  there : c.dropped = false → ∀ id, c.role id ≠ .drops ∧ c.role id ≠ .joins
  gone : c.dropped = true → ∀ id, c.role id = .idle ∨ c.role id = .drops ∨ c.role id = .joins
  sole : ∀ i j, c.role i = .drops ∨ c.role i = .joins → c.role j = .drops ∨ c.role j = .joins →
    i = j
  last : .stop ∉ c.queue.dropLast
  ending : .stop ∈ c.queue ∨ c.dispatcher.stops = true →
    c.dropped = true ∧ ∀ id, c.role id = .idle ∨ c.role id = .joins
  ended : c.dispatcher.stops = true → c.queue = []
  mode : c.dispatcher.isReleased = true → c.mode = .released

variable {c : Control} {id : ClientId} {e : Deed} {d : Client} {events : List Event}

/-! ## What a turn does to the roles -/

/-- The role of a client after one of its turns, told by the deed. -/
def RoleTurn (c : Control) (id : ClientId) (e : Deed) (before after : Role) : Prop :=
  match e with
  | .retire => before = .idle ∧ after = .drops
  | .request => before = .apart ∧ after = .asks
  | .withdraw => before = .asks ∧ after = .apart
  | .resume => before = .closes ∧ after = .apart ∨ before = .drops ∧ after = .drops
  | .push (.park i) => i = id ∧ before = .asks ∧ after = .sent
  | .push (.job _) => before = .apart ∧ after = .apart
  | .push .stop => before = .drops ∧ after = .joins
  | _ => after = before ∨
    before = .idle ∧ after = .apart ∧ c.dropped = false ∨
    before = .sent ∧ after = .enters ∧ c.park.state ≠ .requested ∨
    before = .apart ∧ after = .closes ∧ c.park.owner = some id ∨
    (before = .enters ∨ before = .closes) ∧ after = .apart ∨
    before ≠ .asks ∧ before ≠ .sent ∧ after = .idle ∨
    before = .drops ∧ after = .joins ∧ c.dispatcher.isOver = true

theorem Opens.role {t : Task} (h : Opens c id t) : t.role = .apart := by cases h <;> rfl

theorem Turn.role (h : Turn c id e d events) : RoleTurn c id e (c.role id) d.task.role := by
  cases h
  case opens idle there opens =>
    have here : (c.client id).task.role = .idle := by rw [idle]; rfl
    exact .inr (.inl ⟨here, opens.role, there⟩)
  -- what the role of these places says hangs on what the client is there for
  case refuse s _ _ =>
    cases s <;> simp_all [Control.role, RoleTurn, Client.goTo, Task.role, Submission.role,
      Submission.left]
  case send s _ =>
    cases s <;> simp_all [Control.role, RoleTurn, Control.message, Client.goTo, Task.role,
      Submission.role, Submission.left]
  case rehold p _ =>
    cases p <;> simp_all [Control.role, RoleTurn, Client.holding, Client.goTo, Client.answered,
      Task.role]
  case hold p _ =>
    cases p <;> simp_all [Control.role, RoleTurn, Client.holding, Client.goTo, Client.answered,
      Task.role]
  case notOpen w _ _ =>
    cases w <;> simp_all [Control.role, RoleTurn, Client.goTo, Task.role, Closing.role,
      Closing.left]
  case shutFault w _ _ _ =>
    cases w <;> simp_all [Control.role, RoleTurn, Client.answered, Task.role, Closing.role]
  case resume w _ _ =>
    cases w <;> simp_all [Control.role, RoleTurn, Client.goTo, Task.role, Closing.role,
      Closing.left]
  case noResume w _ _ =>
    cases w <;> simp_all [Control.role, RoleTurn, Client.goTo, Task.role, Closing.role,
      Closing.left]
  all_goals simp_all [Control.role, Client.goTo, Client.answered, RoleTurn, Task.role,
    Submission.role, Submission.left, Closing.role, Closing.left]

/-! ## Every turn keeps the handshake -/

theorem role_turned (c : Control) (id : ClientId) (e : Deed) (d : Client) (j : ClientId) :
    ((e.apply c id).put id d).role j = if j = id then d.task.role else c.role j := by
  simp only [role, client_turned]
  split <;> rfl

/-- A client that changes its role, and nothing that the threads share. -/
theorem Handshake.change {next : Control} (hs : Handshake c) (before after : Role)
    (hb : c.role id = before) (hr : ∀ j, next.role j = if j = id then after else c.role j)
    (park : next.park = c.park) (queue : next.queue = c.queue)
    (dispatcher : next.dispatcher = c.dispatcher) (dropped : next.dropped = c.dropped)
    (mode : next.mode = c.mode)
    (h : after = before ∨
      before = .idle ∧ after = .apart ∧ c.dropped = false ∨
      before = .sent ∧ after = .enters ∧ c.park.state ≠ .requested ∨
      before = .apart ∧ after = .closes ∧ c.park.owner = some id ∨
      (before = .enters ∨ before = .closes) ∧ after = .apart ∨
      before ≠ .asks ∧ before ≠ .sent ∧ after = .idle ∨
      before = .drops ∧ after = .joins ∧ c.dispatcher.isOver = true) : Handshake next := by
  have sentinels : next.sentinels = c.sentinels := by rw [sentinels, queue, dispatcher]; rfl
  obtain ⟨owner, asks, sent, enters, closes, requested, sentinel, parked, there, gone, sole,
    last, ending, ended, released⟩ := hs
  have toAsks : after = .asks → before = .asks := by grind
  have toSent : after = .sent → before = .sent := by grind
  have toEnters : after = .enters → before = .enters ∨
      before = .sent ∧ c.park.state ≠ .requested := by grind
  have toCloses : after = .closes → before = .closes ∨
      before = .apart ∧ c.park.owner = some id := by grind
  have toDrops : after = .drops ∨ after = .joins → before = .drops ∨ before = .joins := by grind
  have fromAsks : before = .asks ∨ before = .sent → after = before ∨ c.park.state ≠ .requested := by
    grind
  have fromDrops : before = .idle ∨ before = .drops ∨ before = .joins →
      after = .idle ∨ after = .drops ∨ after = .joins ∨ c.dropped = false := by grind
  have fromJoins : before = .idle ∨ before = .joins →
      after = .idle ∨ after = .joins ∨ c.dropped = false := by grind
  clear h
  have parkedBy (o : ClientId) (ho : c.park.owner = some o) (h : c.park.state ≠ .requested) :
      c.park.state = .parked := by
    cases hp : c.park.state <;> grind
  exact {
    owner := by rw [park]; exact owner
    asks := by grind
    sent := by grind
    enters := by grind
    closes := by grind
    requested := by grind
    sentinel := by grind
    parked := by grind
    there := by grind
    gone := by grind
    sole := by grind
    last := by rw [queue]; exact last
    ending := by grind
    ended := by grind
    mode := by grind }

theorem Handshake.request {next : Control} (hs : Handshake c) (running : c.park.state = .running)
    (hb : c.role id = .apart) (hr : ∀ j, next.role j = if j = id then .asks else c.role j)
    (park : next.park = ⟨.requested, some id⟩) (queue : next.queue = c.queue)
    (dispatcher : next.dispatcher = c.dispatcher) (dropped : next.dropped = c.dropped)
    (mode : next.mode = c.mode) : Handshake next := by
  have sentinels : next.sentinels = c.sentinels := by rw [sentinels, queue, dispatcher]; rfl
  obtain ⟨owner, asks, sent, enters, closes, requested, sentinel, parked, there, gone, sole,
    last, ending, ended, released⟩ := hs
  have nobody : c.park.owner = none := owner.1 running
  have state : next.park.state = .requested := by rw [park]
  have mine : next.park.owner = some id := by rw [park]
  exact {
    owner := by grind
    asks := by grind
    sent := by grind
    enters := by grind
    closes := by grind
    requested := by grind
    sentinel := by grind
    parked := by grind
    there := by grind
    gone := by grind
    sole := by grind
    last := by rw [queue]; exact last
    ending := by grind
    ended := by grind
    mode := by grind }

theorem Handshake.resume {next : Control} (hs : Handshake c) (before after : Role)
    (hb : c.role id = before) (hr : ∀ j, next.role j = if j = id then after else c.role j)
    (h : before = .asks ∧ after = .apart ∨
      (before = .closes ∧ after = .apart ∨ before = .drops ∧ after = .drops) ∧
        c.park.state = .parked)
    (park : next.park = {}) (queue : next.queue = c.queue)
    (dispatcher : next.dispatcher = c.dispatcher) (dropped : next.dropped = c.dropped)
    (mode : next.mode = c.mode) : Handshake next := by
  have sentinels : next.sentinels = c.sentinels := by rw [sentinels, queue, dispatcher]; rfl
  obtain ⟨owner, asks, sent, enters, closes, requested, sentinel, parked, there, gone, sole,
    last, ending, ended, released⟩ := hs
  have state : next.park.state = .running := by rw [park]
  have nobody : next.park.owner = none := by rw [park]
  -- the client owns the window, or it drops the gate and nobody else is at work
  have mine : before = .drops ∨ c.park.owner = some id := by grind
  have dropping : before = .drops → c.dropped = true := by grind
  have others (j : ClientId) (hj : j ≠ id) :
      c.role j ≠ .asks ∧ c.role j ≠ .sent ∧ c.role j ≠ .enters ∧ c.role j ≠ .closes := by
    rcases mine with h | h
    · have := gone (dropping h) j
      grind
    · grind
  exact {
    owner := by grind
    asks := by grind
    sent := by grind
    enters := by grind
    closes := by grind
    requested := by grind
    sentinel := by grind
    parked := by grind
    there := by grind
    gone := by grind
    sole := by grind
    last := by rw [queue]; exact last
    ending := by grind
    ended := by grind
    mode := by grind }

theorem sentinels_push {next : Control} {m : Message} (queue : next.queue = c.queue ++ [m])
    (dispatcher : next.dispatcher = c.dispatcher) :
    next.sentinels = c.sentinels + if m.isPark then 1 else 0 := by
  rw [sentinels, queue, dispatcher, sentinels, List.countP_append, List.countP_singleton]
  omega

theorem Handshake.push {next : Control} (hs : Handshake c) {m : Message} (before after : Role)
    (hb : c.role id = before) (hr : ∀ j, next.role j = if j = id then after else c.role j)
    (h : m.isPark = true ∧ before = .asks ∧ after = .sent ∨
      (∃ j, m = .job j) ∧ before = .apart ∧ after = .apart ∨
      m = .stop ∧ before = .drops ∧ after = .joins)
    (park : next.park = c.park) (queue : next.queue = c.queue ++ [m])
    (dispatcher : next.dispatcher = c.dispatcher) (dropped : next.dropped = c.dropped)
    (mode : next.mode = c.mode) : Handshake next := by
  have sentinels := sentinels_push queue dispatcher
  obtain ⟨owner, asks, sent, enters, closes, requested, sentinel, parked, there, gone, sole,
    last, ending, ended, released⟩ := hs
  -- the client is neither idle nor joining, so the stop sentinel is not on its way
  have working : c.role id ≠ .idle ∧ c.role id ≠ .joins := by grind
  have notEnding : .stop ∉ c.queue ∧ c.dispatcher.stops = false := by grind
  have isStop : m = .stop → m.isPark = false := by rintro rfl; rfl
  have isJob : (∃ j, m = .job j) → m.isPark = false ∧ m ≠ .stop := by
    rintro ⟨j, rfl⟩; exact ⟨rfl, by simp⟩
  have isPark : m.isPark = true → m ≠ .stop := by rintro h rfl; cases h
  have mine : m.isPark = true → c.park.owner = some id ∧ c.sentinels = 0 := by grind
  exact {
    owner := by rw [park]; exact owner
    asks := by grind
    sent := by grind
    enters := by grind
    closes := by grind
    requested := by grind
    sentinel := by grind
    parked := by grind
    there := by grind
    gone := by grind
    sole := by grind
    last := by rw [queue, List.dropLast_concat]; exact notEnding.1
    ending := by
      intro stop
      have hm : m = .stop := by grind
      have hd : before = .drops ∧ after = .joins := by grind
      have gone := gone (by grind)
      refine ⟨by grind, fun j => ?_⟩
      have := gone j
      have := sole j id
      grind
    ended := by grind
    mode := by grind }

theorem Handshake.retire {next : Control} (hs : Handshake c)
    (hb : c.role id = .idle) (hr : ∀ j, next.role j = if j = id then .drops else c.role j)
    (quiet : ∀ j, j ≠ id → c.role j = .idle) (there : c.dropped = false)
    (park : next.park = c.park) (queue : next.queue = c.queue)
    (dispatcher : next.dispatcher = c.dispatcher) (dropped : next.dropped = true)
    (mode : next.mode = c.mode) : Handshake next := by
  have sentinels : next.sentinels = c.sentinels := by rw [sentinels, queue, dispatcher]; rfl
  have all (j : ClientId) : c.role j = .idle := by
    by_cases hj : j = id
    · rw [hj, hb]
    · exact quiet j hj
  obtain ⟨owner, asks, sent, enters, closes, requested, sentinel, parked, _, gone, sole,
    last, ending, ended, released⟩ := hs
  have notRequested : c.park.state ≠ .requested := by
    intro h
    cases ho : c.park.owner with
    | none => have := owner.2 ho; grind
    | some o => have := requested o h ho; grind
  exact {
    owner := by rw [park]; exact owner
    asks := by grind
    sent := by grind
    enters := by grind
    closes := by grind
    requested := by grind
    sentinel := by grind
    parked := by grind
    there := by grind
    gone := by grind
    sole := by grind
    last := by rw [queue]; exact last
    ending := by grind
    ended := by grind
    mode := by grind }

theorem isQuiet_idle (quiet : c.isQuiet id = true) (j : ClientId) (hj : j ≠ id) :
    (c.client j).task = .idle := by
  unfold isQuiet at quiet
  show (Roster.find j c.clients.entries).task = .idle
  generalize c.clients.entries = l at quiet ⊢
  induction l with
  | nil => rfl
  | cons e rest ih =>
    obtain ⟨i, d⟩ := e
    rw [List.all_cons, Bool.and_eq_true] at quiet
    rw [Roster.find]
    split
    next hi =>
      subst hi
      have := quiet.1
      cases ht : d.task <;> simp_all
    · exact ih quiet.2

theorem Turns.handshake {next : Control} (h : Turns c id next events) (hs : Handshake c) :
    Handshake next := by
  obtain ⟨e, d, turn, allowed, rfl⟩ := h
  have role := turn.role
  have roles := role_turned c id e d
  cases e with
  | request =>
    exact hs.request allowed role.1 (by rwa [role.2] at roles) rfl rfl rfl rfl rfl
  | withdraw =>
    have state := (hs.asks id role.1).1
    refine hs.resume _ _ rfl roles (.inl role) ?_ rfl rfl rfl rfl
    show (if c.park.state = .requested then ({} : Park) else c.park) = {}
    rw [if_pos state]
  | resume => exact hs.resume _ _ rfl roles (.inr ⟨role, allowed⟩) rfl rfl rfl rfl rfl
  | push m =>
    refine hs.push (m := m) _ _ rfl roles ?_ rfl rfl rfl rfl rfl
    cases m with
    | job j => exact .inr (.inl ⟨⟨j, rfl⟩, role⟩)
    | park i => exact .inl ⟨rfl, role.2⟩
    | stop => exact .inr (.inr ⟨rfl, role⟩)
  | retire =>
    have quiet (j : ClientId) (hj : j ≠ id) : c.role j = .idle := by
      rw [Control.role, isQuiet_idle allowed.2 j hj]
      rfl
    exact hs.retire role.1 (by rwa [role.2] at roles) quiet allowed.1 rfl rfl rfl rfl rfl
  | _ => exact hs.change _ _ rfl roles rfl rfl rfl rfl rfl role

/-! ## The dispatcher -/

/-- The dispatcher leaves the queue, takes its first message, or clears it at its death. -/
theorem DispatcherTurn.queue {next : Control} (h : DispatcherTurn c next events) :
    next.queue = c.queue ∧ (next.dispatcher.stops = true → c.dispatcher.stops = true) ∨
      (∃ m, c.queue = m :: next.queue ∧ (next.dispatcher.stops = true → m = .stop)) ∨
      next.queue = [] ∧ next.dispatcher.stops = false := by
  cases h
  case served j s bytes h =>
    unfold Control.served
    split <;> simp [Dispatcher.stops]
  case claimRelease l h free => cases l <;> simp [h, Dispatcher.stops]
  case releaseOn l s rest h => cases l <;> simp [h, Dispatcher.stops]
  case released l s h => cases l <;> simp [h, Dispatcher.stops]
  all_goals simp_all [Dispatcher.stops]

theorem DispatcherTurn.sentinels {next : Control} (h : DispatcherTurn c next events) :
    next.sentinels ≤ c.sentinels := by
  cases h
  case served j s bytes h =>
    unfold Control.served
    split <;> simp [Control.sentinels, h, Dispatcher.parks]
  case claimRelease l h free => cases l <;> simp [Control.sentinels, h, Dispatcher.parks]
  case releaseOn l s rest h => cases l <;> simp [Control.sentinels, h, Dispatcher.parks]
  case released l s h => cases l <;> simp [Control.sentinels, h, Dispatcher.parks]
  case takePark i rest h queue line =>
    simp [Control.sentinels, h, queue, Dispatcher.parks, List.countP_cons, Message.isPark]
  all_goals simp_all [Control.sentinels, Dispatcher.parks, Message.isPark]

theorem DispatcherTurn.park {next : Control} (h : DispatcherTurn c next events) :
    next.park = c.park ∧ (c.dispatcher = .parked → c.park.state ≠ .parked) ∨
      c.dispatcher = .announcing ∧ next.park = { c.park with state := .parked } ∧
        next.dispatcher = .parked ∧ next.queue = c.queue := by
  cases h
  case served j s bytes h =>
    unfold Control.served
    split <;> simp [h]
  case abort h => rcases h with ⟨j, s, h⟩ | ⟨l, s, h⟩ <;> simp [h]
  case unwind h => rcases h with ⟨j, s, h⟩ | ⟨l, s, h⟩ <;> simp [h]
  all_goals simp_all

theorem DispatcherTurn.mode {next : Control} (h : DispatcherTurn c next events)
    (released : c.dispatcher.isReleased = true → c.mode = .released)
    (hn : next.dispatcher.isReleased = true) : next.mode = .released := by
  cases h
  case served j s bytes h =>
    unfold Control.served at hn
    split at hn <;> cases hn
  all_goals simp_all [Dispatcher.isReleased]

theorem DispatcherTurn.dropped {next : Control} (h : DispatcherTurn c next events) :
    next.dropped = c.dropped := by
  cases h
  case served j s bytes h =>
    unfold Control.served
    split <;> rfl
  all_goals rfl

/-- A gate that is dropped stays so. -/
theorem Goes.dropped {who : Actor} {next : Control} (h : c.Goes who next events)
    (dropped : c.dropped = true) : next.dropped = true := by
  cases h with
  | dispatcher h => exact h.dropped.trans dropped
  | client h =>
    obtain ⟨e, d, -, -, rfl⟩ := h
    cases e <;> first | exact dropped | rfl

theorem Handshake.tail (hs : Handshake c) {m : Message} {rest : List Message}
    (queue : c.queue = m :: rest) : .stop ∉ rest.dropLast ∧ (m = .stop → rest = []) := by
  have last := hs.last
  rw [queue] at last
  cases rest with
  | nil => simp
  | cons m' rest =>
    rw [List.dropLast_cons_cons, List.mem_cons, not_or] at last
    exact ⟨last.2, fun h => absurd h.symm last.1⟩

/-- The stop sentinel stays the last message until the dispatcher takes it, and then the queue is
empty. -/
theorem DispatcherTurn.stopLast {next : Control} (h : DispatcherTurn c next events)
    (hs : Handshake c) : .stop ∉ next.queue.dropLast ∧
      (.stop ∈ next.queue ∨ next.dispatcher.stops = true →
        .stop ∈ c.queue ∨ c.dispatcher.stops = true) ∧
      (next.dispatcher.stops = true → next.queue = []) := by
  rcases h.queue with ⟨queue, stops⟩ | ⟨m, queue, stops⟩ | ⟨queue, stops⟩
  · rw [queue]
    exact ⟨hs.last, Or.imp_right stops, fun hn => hs.ended (stops hn)⟩
  · obtain ⟨last, alone⟩ := hs.tail queue
    refine ⟨last, fun stop => .inl ?_, fun hn => alone (stops hn)⟩
    rw [queue]
    rcases stop with stop | hn
    · exact List.mem_cons_of_mem _ stop
    · rw [stops hn]
      exact List.mem_cons_self ..
  · simp [queue, stops]

/-- A turn of the dispatcher keeps the handshake. -/
theorem DispatcherTurn.handshake {next : Control} (h : DispatcherTurn c next events)
    (hs : Handshake c) : Handshake next := by
  have roles (j : ClientId) : next.role j = c.role j := by rw [role, role, h.client]
  have fewer := h.sentinels
  have dropped := h.dropped
  have mode := h.mode hs.mode
  obtain ⟨last, ending, ended⟩ := h.stopLast hs
  have kept := h.park
  obtain ⟨owner, asks, sent, enters, closes, requested, sentinel, parked, there, gone, sole,
    _, ending', _, _⟩ := hs
  rcases kept with ⟨park, notParked⟩ | ⟨hd, park, hd', hq⟩
  · exact {
      owner := by rw [park]; exact owner
      asks := by grind
      sent := by grind
      enters := by grind
      closes := by grind
      requested := by grind
      sentinel := by grind
      parked := by grind
      there := by grind
      gone := by grind
      sole := by grind
      last
      ending := by grind
      ended
      mode }
  · -- the sentinel has been on its way until now
    have announced : c.sentinels = next.sentinels + 1 := by
      simp [Control.sentinels, hd, hd', hq, Dispatcher.parks]
    have state : next.park.state = .parked := by rw [park]
    have same : next.park.owner = c.park.owner := by rw [park]
    exact {
      owner := by grind
      asks := by grind
      sent := by grind
      enters := by grind
      closes := by grind
      requested := by grind
      sentinel := by grind
      parked := by grind
      there := by grind
      gone := by grind
      sole := by grind
      last
      ending := by grind
      ended
      mode }

/-- Every turn keeps the handshake. -/
theorem Goes.handshake {who : Actor} {next : Control} (h : c.Goes who next events)
    (hs : Handshake c) : Handshake next := by
  cases h with
  | dispatcher h => exact h.handshake hs
  | client h => exact h.handshake hs

theorem handshake_opened (setup : Setup) : Handshake { setup } := by
  have role (j : ClientId) : ({ setup } : Control).role j = .idle := rfl
  constructor <;> simp [role, sentinels, Dispatcher.parks, Dispatcher.stops, Dispatcher.isReleased]

end Control

end FlashGate

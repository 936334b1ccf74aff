/-
Clients that do nothing but submit operations. Main statements: `OnErrands.perform` and
`OnErrands.begins`, that moves and new operations keep each client on its way from one operation to
the next; and `OnErrands.idle_of_rest`, that a gate at rest has answered all of them.
-/
import FlashGate.Proofs.Gateway.Dropping
import FlashGate.Proofs.Separation

namespace FlashGate

/-! ## Clients that are listed once -/

namespace Roster

theorem mem_ids_put {id i : ClientId} {d : Client} {l : List (ClientId × Client)} :
    i ∈ (put id d l).map (·.1) ↔ i = id ∨ i ∈ l.map (·.1) := by
  induction l with
  | nil => simp [put]
  | cons x rest ih =>
    obtain ⟨j, c⟩ := x
    by_cases h : j = id
    · simp [put, h]
    · rw [put, if_neg h, List.map_cons, List.mem_cons, ih, List.map_cons, List.mem_cons]
      exact or_left_comm

theorem nodup_put {id : ClientId} (d : Client) {l : List (ClientId × Client)}
    (h : (l.map (·.1)).Nodup) : ((put id d l).map (·.1)).Nodup := by
  induction l with
  | nil => simp [put]
  | cons x rest ih =>
    obtain ⟨j, c⟩ := x
    obtain ⟨fresh, distinct⟩ := List.nodup_cons.1 h
    by_cases hj : j = id
    · subst hj
      rw [put, if_pos rfl]
      exact h
    · rw [put, if_neg hj]
      exact List.nodup_cons.2 ⟨fun again => (mem_ids_put.1 again).elim hj fresh, ih distinct⟩

theorem find_of_mem {id : ClientId} {d : Client} {l : List (ClientId × Client)}
    (h : (l.map (·.1)).Nodup) (mem : (id, d) ∈ l) : find id l = d := by
  induction l with
  | nil => cases mem
  | cons x rest ih =>
    obtain ⟨j, c⟩ := x
    obtain ⟨fresh, distinct⟩ := List.nodup_cons.1 h
    rcases List.mem_cons.1 mem with same | mem
    · cases same
      rw [find, if_pos rfl]
    · have other : j ≠ id := by
        rintro rfl
        exact fresh (List.mem_map_of_mem (f := (·.1)) mem)
      rw [find, if_neg other, ih distinct mem]

end Roster

/-! ## Errands -/

/-- The operation that a command asks for, if it asks for one. -/
def Command.operation? (s : Setup) : Command → Option Operation
  | .read address buffer => some (.ofReadKind address buffer.length s.strategy.readKind)
  | .readMode address buffer submode =>
    some (.ofReadKind address buffer.length (s.strategy.readKindFor submode))
  | .write address data => some (.write address data)
  | .erase address length => some (.erase address length)
  | _ => none

/-- How far a client has come with the operations that were issued to it, told by those that it has
sent and the bytes that it has got. -/
inductive Client.Along (d : Client) (sent issued : List Operation) (got : List (List UInt8)) : Prop
  /-- It has the answer to the last one. -/
  | rests (there : d.task = .idle) (all : sent = issued)
    (done : ∀ o, issued.getLast? = some o → o.isRead = false → d.answer = some .done)
    (bytes : ∀ o, issued.getLast? = some o → o.isRead = true →
      ∃ bytes, got.getLast? = some bytes ∧ d.answer = some (.bytes bytes))
  /-- It is to send the last one. -/
  | sends (o : Operation) (buffer : List UInt8)
    (there : d.task = .admitting (.job o buffer) ∨ d.task = .sending (.job o buffer))
    (last : issued = sent ++ [o])
  /-- It has sent the last one, and is still admitted. -/
  | leaves (o : Operation) (buffer : List UInt8) (t : Ticket)
    (there : d.task = .leaving (.job o buffer) (some t)) (all : sent = issued)
    (last : issued.getLast? = some o)
  /-- It waits for the bytes of the last one. -/
  | awaits (o : Operation) (buffer : List UInt8) (t : Ticket)
    (there : d.task = .awaiting t buffer) (all : sent = issued) (last : issued.getLast? = some o)
    (read : o.isRead = true)

/-- What a client has sent begins what was issued to it. -/
theorem Client.Along.begins {d : Client} {sent issued : List Operation} {got : List (List UInt8)}
    (along : d.Along sent issued got) : sent <+: issued := by
  cases along with
  | rests _ all => exact all ▸ List.prefix_rfl
  | sends o _ _ last => exact ⟨[o], last.symm⟩
  | leaves _ _ _ _ all => exact all ▸ List.prefix_rfl
  | awaits _ _ _ _ all => exact all ▸ List.prefix_rfl

namespace Control

variable {c next : Control} {id : ClientId} {d : Client} {e : Deed} {events : List Event}
  {sent issued : List Operation} {got : List (List UInt8)}

/-- What a turn of a client on its errands leaves: the client has got further, has taken no hold,
asked for no window and dropped no gate. -/
structure TakesOn (c : Control) (id : ClientId) (e : Deed) (d : Client) (events : List Event)
    (sent issued : List Operation) (got : List (List UInt8)) : Prop where
  holds : d.holds = (c.client id).holds
  park : (e.apply c id).park = c.park
  dropped : (e.apply c id).dropped = c.dropped
  along : d.Along (sent ++ operationsOf id (acceptedIn (toldBy (.client id) events))) issued
    (got ++ (receivedBy id (receivedIn (toldBy (.client id) events))).map (·.2))

theorem takesOn_silent (holds : d.holds = (c.client id).holds)
    (park : (e.apply c id).park = c.park) (dropped : (e.apply c id).dropped = c.dropped)
    (along : d.Along sent issued got) : TakesOn c id e d [] sent issued got := by
  refine ⟨holds, park, dropped, ?_⟩
  simpa [toldBy, acceptedIn, receivedIn, operationsOf, receivedBy] using along

section Turns

variable {o : Operation} {buffer : List UInt8} {t : Ticket} (turn : Turn c id e d events)

include turn

theorem Turn.takesOn_admitting (there : (c.client id).task = .admitting (.job o buffer))
    (last : issued = sent ++ [o]) : TakesOn c id e d events sent issued got := by
  cases turn
  case admitted s h =>
    rw [there] at h
    cases h
    exact takesOn_silent rfl rfl rfl (.sends o buffer (.inr rfl) last)
  all_goals
    have other := ‹(c.client id).task = _›
    rw [there] at other
    cases other

theorem Turn.takesOn_sending (there : (c.client id).task = .sending (.job o buffer))
    (last : issued = sent ++ [o]) (serving : c.dispatcher.isOver = false) :
    TakesOn c id e d events sent issued got := by
  cases turn
  case refuse s h halted =>
    rw [serving] at halted
    cases halted
  case send s h =>
    rw [there] at h
    cases h
    refine ⟨rfl, rfl, rfl, .leaves o buffer c.issued rfl ?_ (by rw [last]; simp)⟩
    rw [last]
    simp [operationsOf, acceptedIn, toldBy, Event.accepted?, Message.operationOf?, message]
  all_goals
    have other := ‹(c.client id).task = _›
    rw [there] at other
    cases other

/-- A client that has sent a read goes to wait for its bytes, and one that has sent another
operation is done. -/
theorem Turn.takesOn_leaving (there : (c.client id).task = .leaving (.job o buffer) (some t))
    (all : sent = issued) (last : issued.getLast? = some o) :
    TakesOn c id e d events sent issued got := by
  cases turn
  case await o' buffer' t' h read =>
    rw [there] at h
    cases h
    exact takesOn_silent rfl rfl rfl (.awaits o buffer t rfl all last read)
  case queued o' buffer' t' h read =>
    rw [there] at h
    cases h
    refine takesOn_silent rfl rfl rfl (.rests rfl all (fun _ _ _ => rfl) fun o' last' read' => ?_)
    obtain rfl : o = o' := Option.some.inj (last.symm.trans last')
    rw [read] at read'
    cases read'
  all_goals
    have other := ‹(c.client id).task = _›
    rw [there] at other
    cases other

theorem Turn.takesOn_awaiting (there : (c.client id).task = .awaiting t buffer)
    (all : sent = issued) (last : issued.getLast? = some o) (read : o.isRead = true)
    (serving : c.dispatcher.isOver = false) : TakesOn c id e d events sent issued got := by
  cases turn
  case collect t' buffer' bytes h come =>
    rw [there] at h
    cases h
    have mine : receivedBy id (receivedIn (toldBy (.client id) [.received t bytes])) =
        [(t, bytes)] := by
      simp [receivedBy, receivedIn, toldBy, Entry.received?]
    refine ⟨rfl, rfl, rfl, ?_⟩
    rw [mine]
    refine .rests rfl ((List.append_nil _).trans all) (fun o' last' unread => ?_)
      fun _ _ _ => ⟨bytes, by simp, rfl⟩
    obtain rfl : o = o' := Option.some.inj (last.symm.trans last')
    rw [read] at unread
    cases unread
  case unanswered t' buffer' h unmet halted =>
    rw [serving] at halted
    cases halted
  all_goals
    have other := ‹(c.client id).task = _›
    rw [there] at other
    cases other

theorem Turn.takesOn (along : (c.client id).Along sent issued got)
    (busy : (c.client id).task ≠ .idle) (serving : c.dispatcher.isOver = false) :
    TakesOn c id e d events sent issued got := by
  cases along with
  | rests there => exact absurd there busy
  | sends o buffer there last =>
    rcases there with there | there
    · exact turn.takesOn_admitting there last
    · exact turn.takesOn_sending there last serving
  | leaves o buffer t there all last => exact turn.takesOn_leaving there all last
  | awaits o buffer t there all last read =>
    exact turn.takesOn_awaiting there all last read serving

end Turns

theorem Turn.operations_other (turn : Turn c id e d events) {j : ClientId} (other : j ≠ id) :
    operationsOf j (acceptedIn (toldBy (.client id) events)) = [] := by
  have told := turn.told
  cases e with
  | push m =>
    obtain rfl : events = [.accepted m] := told
    show operationsOf j [m] = []
    rcases turn.sends with ⟨s, -, rfl⟩ | ⟨rfl, -⟩
    · cases s <;> simp [operationsOf, Message.operationOf?, message, other.symm]
    · rfl
  | collect t =>
    obtain ⟨bytes, -, rfl⟩ := told
    rfl
  | _ =>
    obtain ⟨accepted, -⟩ := told_unbooked (.client id) fun e he =>
      Event.unbooked_of_plain (told e he)
    rw [accepted]
    rfl

end Control

/-! ## The gate -/

namespace Gate

open Control

variable {σ : Type} {T : Transport σ} {g g' : Gate σ} {issued : ClientId → List Operation}
  {id : ClientId}

/-- All clients of a gate do nothing but submit the operations that were issued to them. -/
structure OnErrands (issued : ClientId → List Operation) (g : Gate σ) : Prop where
  there : g.control.dropped = false
  running : g.control.park.state = .running
  holds : ∀ id, (g.control.client id).holds = 0
  listed : g.control.clients.ids.Nodup
  along : ∀ id, (g.control.client id).Along (operationsOf id (acceptedIn g.bus.journal.toList))
    (issued id) (bytesTo id g)

theorem onErrands_of_start {config : Config} {id : ClientId} {device : σ} {c : Control} {b : Bus σ}
    (start : Gate.start T config id ⟨device, #[]⟩ = (.ok (.ok c), b)) :
    OnErrands (fun _ => []) ⟨c, b⟩ := by
  obtain ⟨⟨s, rfl⟩, traffic, plain, journal⟩ := opened_of_start start
  obtain ⟨sent, -, -, got⟩ := told_unbooked (.client id) fun e he =>
    Event.unbooked_of_traffic (plain e he)
  refine ⟨rfl, rfl, fun _ => rfl, List.nodup_nil, fun i => .rests rfl ?_ (fun _ none => ?_)
    fun _ none => ?_⟩
  · rw [toldBy, ← journal] at sent
    rw [sent]
    rfl
  · cases none
  · cases none

theorem OnErrands.serving (on : g.OnErrands issued) (hs : g.control.Handshake)
    (sane : g.control.dispatcher.isFaulted = false) : g.control.dispatcher.isOver = false := by
  cases halted : g.control.dispatcher.isOver with
  | false => rfl
  | true =>
    have dropped := (hs.ending (.inr (Dispatcher.stops_of_isOver halted sane))).1
    rw [on.there] at dropped
    cases dropped

/-- A move of any thread keeps the clients on their errands. -/
theorem OnErrands.perform (on : g.OnErrands issued) (sound : g.control.Sound)
    (sane : g.control.dispatcher.isFaulted = false) {who : Actor} {m : Move}
    (h : g.control.move? who = some m) : (perform T .single who m g.bus).OnErrands issued := by
  have serving := on.serving sound.handshake sane
  have busy (id : ClientId) (mine : who = .client id) : (g.control.client id).task ≠ .idle := by
    rintro idle
    rw [mine, move?_client_of_alive (alive_of_move? h), clientMove?_eq_none (by rw [idle]; rfl)]
      at h
    cases h
  obtain ⟨traffic, events, plain, journal, goes⟩ := perform_goes (T := T) h
  obtain ⟨accepted, -, -, received⟩ := booked_append plain journal
  generalize Gate.perform T .single who m g.bus = g' at *
  have got (id : ClientId) : bytesTo id g' = bytesTo id g ++
      (receivedBy id (receivedIn (toldBy who events))).map (·.2) := by
    rw [bytesTo, received, receivedBy_append, List.map_append, bytesTo]
  have sent (id : ClientId) : operationsOf id (acceptedIn g'.bus.journal.toList) =
      operationsOf id (acceptedIn g.bus.journal.toList) ++
        operationsOf id (acceptedIn (toldBy who events)) := by
    rw [accepted, operationsOf, List.filterMap_append]
    rfl
  generalize hn : g'.control = next at goes
  cases goes with
  | dispatcher h =>
    have clients (id : ClientId) : g'.control.client id = g.control.client id := by
      rw [hn, h.client]
    refine ⟨by rw [hn, h.dropped, on.there], ?_, fun id => by rw [clients, on.holds], ?_,
      fun id => ?_⟩
    · -- no park is asked for, so none is announced
      rcases h.park with ⟨same, -⟩ | ⟨announcing, -⟩
      · rw [hn, same, on.running]
      · obtain ⟨-, state, -⟩ := sound.handshake.sentinel
          (sentinels_of_parks (by rw [announcing]; rfl))
        rw [on.running] at state
        cases state
    · rw [hn, h.clients.1]
      exact on.listed
    · rw [clients, sent, got, h.books.1, h.books.2]
      simpa [operationsOf, receivedBy] using on.along id
  | @client id _ _ h =>
    obtain ⟨e, d, turn, -, rfl⟩ := h
    obtain ⟨holds, park, dropped, along⟩ := turn.takesOn (on.along id) (busy id rfl) serving
    have client (j : ClientId) : g'.control.client j =
        if j = id then d else g.control.client j := by
      rw [hn, client_turned]
    refine ⟨by rw [hn]; exact dropped.trans on.there, ?_, fun j => ?_, ?_, fun j => ?_⟩
    · rw [hn]
      exact (congrArg Park.state park).trans on.running
    · rw [client]
      split
      · rw [holds, on.holds]
      · exact on.holds j
    · rw [hn]
      show (((e.apply g.control id).clients.set id d).ids).Nodup
      rw [clients_apply]
      exact Roster.nodup_put d on.listed
    · rw [client, sent, got]
      by_cases mine : j = id
      · rw [if_pos mine, mine]
        exact along
      · rw [if_neg mine, turn.operations_other mine, (turn.inbox_other mine).2]
        simpa using on.along j

theorem begin_of_operation (id : ClientId) {c : Control} {k : Command} {o : Operation}
    (asks : k.operation? c.setup = some o) :
    ∃ buffer, c.begin id k = c.place id (.admitting (.job o buffer)) := by
  cases k <;> cases asks <;> exact ⟨_, rfl⟩

theorem OnErrands.begin? (on : g.OnErrands issued) {k : Command} {o : Operation}
    (asks : k.operation? g.control.setup = some o) (idle : (g.control.client id).task = .idle) :
    ∃ c, g.control.begin? id k = some c := by
  have may : g.control.mayBegin id k = true := by
    cases k <;> cases asks <;> simp [mayBegin, idle, on.there]
  exact ⟨_, by rw [Control.begin?, if_pos may]⟩

/-- A client of such a gate that turns to an operation is on one more errand. -/
theorem OnErrands.begins (on : g.OnErrands issued) {k : Command} {o : Operation} {c : Control}
    (asks : k.operation? g.control.setup = some o) (begins : g.control.begin? id k = some c) :
    OnErrands (Function.update issued id (issued id ++ [o])) { g with control := c } := by
  have idle := idle_of_begin? begins
  unfold Control.begin? at begins
  split at begins
  · cases begins
    let d : Client := { g.control.client id with answer := none }
    obtain ⟨buffer, goes⟩ := begin_of_operation id (c := g.control.put id d) asks
    have client (j : ClientId) : (((g.control.put id d).place id
        (.admitting (.job o buffer))).client j) =
        if j = id then d.goTo (.admitting (.job o buffer)) else g.control.client j := by
      rw [client_place, client_put, client_put, if_pos rfl]
      split <;> rfl
    show OnErrands _ ⟨(g.control.put id d).begin id k, g.bus⟩
    rw [goes]
    refine ⟨on.there, on.running, fun j => ?_, Roster.nodup_put _ (Roster.nodup_put _ on.listed),
      fun j => ?_⟩
    · show (((g.control.put id d).place id _).client j).holds = 0
      rw [client]
      split
      · exact on.holds id
      · exact on.holds j
    · show (((g.control.put id d).place id _).client j).Along _ _ _
      rw [client]
      by_cases mine : j = id
      · subst mine
        rw [if_pos rfl, Function.update_self]
        -- the client has sent all operations before
        cases on.along j with
        | rests _ all => exact .sends o buffer (.inl rfl) (by rw [← all])
        | sends _ _ there =>
          rw [idle] at there
          rcases there with there | there <;> cases there
        | leaves _ _ _ there => rw [idle] at there; cases there
        | awaits _ _ _ there => rw [idle] at there; cases there
      · rw [if_neg mine, Function.update_of_ne mine]
        exact on.along j
  · cases begins

/-! ## Rest -/

theorem OnErrands.waits_of_rest (on : g.OnErrands issued) (sound : g.control.Sound)
    (sane : g.control.dispatcher.isFaulted = false) (rest : ∀ who, g.control.move? who = none) :
    g.control.dispatcher = .receiving ∧ g.control.queue = [] := by
  have serving := on.serving sound.handshake sane
  rcases sound.dispatcher_of_rest rest with here | asleep | ⟨halted, -⟩ | dead | aborted
  · exact here
  · have parked := parked_of_rest asleep rest
    rw [on.running] at parked
    cases parked
  · rw [halted] at serving; cases serving
  · rw [dead] at sane; cases sane
  · rw [aborted] at sane; cases sane

/-- When no thread can move, nobody is admitted, since who is could go on. -/
theorem OnErrands.outside_of_rest (on : g.OnErrands issued) (sound : g.control.Sound)
    (sane : g.control.dispatcher.isFaulted = false) (rest : ∀ who, g.control.move? who = none) :
    g.control.admission.owner = none := by
  obtain ⟨waits, empty⟩ := on.waits_of_rest sound sane rest
  have serving := on.serving sound.handshake sane
  have outside (i : ClientId) : (g.control.client i).entries = 0 := by
    have still := rest (.client i)
    rw [move?_client_of_alive (by rw [waits]; simp)] at still
    rw [Client.entries, on.holds]
    cases on.along i with
    | rests there => rw [there]; rfl
    | sends o buffer there =>
      rcases there with there | there
      · rw [there]; rfl
      · simp [clientMove?, there, submissionMove?, serving, hasPlace_of_receiving waits empty]
          at still
    | leaves o buffer t there => simp [clientMove?, there, submissionMove?] at still
    | awaits o buffer t there => rw [there]; rfl
  cases owner : g.control.admission.owner with
  | none => rfl
  | some i =>
    have inside := (sound.locks.owner i).1 owner
    rw [outside] at inside
    exact absurd inside (Nat.lt_irrefl 0)

/-- When no thread can move, all clients are idle, if a dispatcher that waits for a message has
answered the reads that it has taken. -/
theorem OnErrands.idle_of_rest (on : g.OnErrands issued) (sound : g.control.Sound)
    (balanced : g.Balanced) (sane : g.control.dispatcher.isFaulted = false)
    (served : g.control.dispatcher = .receiving → ∀ j, .job j ∈ takenIn g.bus.journal.toList →
      j.operation.isRead = true → ∃ bytes, (j.ticket, bytes) ∈ answeredIn g.bus.journal.toList)
    (rest : ∀ who, g.control.move? who = none) (id : ClientId) :
    (g.control.client id).task = .idle := by
  have serving := on.serving sound.handshake sane
  obtain ⟨waits, empty⟩ := on.waits_of_rest sound sane rest
  have free := on.outside_of_rest sound sane rest
  have still := rest (.client id)
  rw [move?_client_of_alive (by rw [waits]; simp)] at still
  cases on.along id with
  | rests there => exact there
  | sends o buffer there =>
    rcases there with there | there
    · simp [clientMove?, there, submissionMove?, Admission.enter?, free] at still
    · simp [clientMove?, there, submissionMove?, serving, hasPlace_of_receiving waits empty]
        at still
  | leaves o buffer t there => simp [clientMove?, there, submissionMove?] at still
  | awaits o buffer t there =>
    -- the read has been taken and answered, so its bytes are there
    obtain ⟨⟨j, accepted, -, read, -⟩, unmet⟩ :=
      balanced.wants id t buffer (by rw [there]; rfl)
    have ticket := balanced.tickets t j accepted
    have taken : .job j ∈ takenIn g.bus.journal.toList := by
      have := List.mem_of_getElem? accepted
      rwa [balanced.queued (by rw [waits]; simp), empty, List.append_nil] at this
    obtain ⟨bytes, answered⟩ := served waits j taken read
    rw [ticket] at answered
    rcases balanced.kept _ answered with reply | ⟨who, received⟩
    · simp only [clientMove?, there, submissionMove?] at still
      split at still
      · cases still
      next none =>
        simp only [reply?, Option.map_eq_none_iff, List.find?_eq_none] at none
        exact absurd (beq_self_eq_true t) (none _ reply)
    · exact absurd rfl (unmet _ received)

theorem OnErrands.begin?_drop (on : g.OnErrands issued)
    (idle : ∀ i, (g.control.client i).task = .idle) (id : ClientId) :
    ∃ c, g.control.begin? id .drop = some c := by
  have quiet : g.control.isQuiet id = true := by
    refine List.all_eq_true.2 ?_
    rintro ⟨i, d⟩ listed
    obtain rfl : g.control.client i = d := Roster.find_of_mem on.listed listed
    simp [on.holds i, idle i]
  have may : g.control.mayBegin id .drop = true := by
    simp [mayBegin, idle id, on.there, quiet]
  exact ⟨_, by rw [Control.begin?, if_pos may]⟩

end Gate

end FlashGate

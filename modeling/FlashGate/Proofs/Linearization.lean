/-
Linearized execution. Main statement: `executes_in_order`, that whatever the interleaving of the
threads and the depth of the queue, the requests that the dispatcher has taken and those that are
queued are the accepted ones in the order of their admission; that each read is answered to the
client that submitted it, with as many bytes as it asked for; and that over the emulated chip the
calls of the dispatcher and the bytes that it hands over are those of a dispatcher alone with the
chip that is given the accepted requests.
-/
import FlashGate.Proofs.Conformance
import FlashGate.Proofs.Gateway.Ledger
import FlashGate.Proofs.Gateway.Length
import FlashGate.Proofs.Gateway.Solo

namespace FlashGate

/-! ## Steps -/

namespace Control

variable {c next : Control} {id : ClientId} {d : Client} {m : Message} {events : List Event}

theorem DispatcherTurn.not_parked (h : DispatcherTurn c next events)
    (place : c.dispatcher = .parked) : c.park.state ≠ .parked := by
  cases h
  case wake h state plain => exact state
  case abort h => rcases h with ⟨j, s, h⟩ | ⟨l, s, h⟩ <;> rw [place] at h <;> cases h
  case unwind h => rcases h with ⟨j, s, h⟩ | ⟨l, s, h⟩ <;> rw [place] at h <;> cases h
  all_goals
    have other := ‹c.dispatcher = _›
    rw [place] at other
    cases other

/-- What a client puts on the queue: the submission that it was admitted with, or the end. -/
theorem Turn.sends (h : Turn c id (.push m) d events) :
    (∃ s, (c.client id).task = .sending s ∧ m = c.message id s) ∨
      m = .stop ∧ (c.client id).task = .stopping := by
  cases h
  case send s h => exact .inl ⟨s, h, rfl⟩
  case stop h => exact .inr ⟨rfl, h⟩

theorem Handshake.dropped_of_stopping (hs : Handshake c) (h : (c.client id).task = .stopping) :
    c.dropped = true := by
  cases gone : c.dropped with
  | true => rfl
  | false => exact absurd (by rw [role, h]; rfl) (hs.there gone id).1

/-- A client with a submission under way has admission. -/
theorem Locks.owner_of_sending (locks : Locks c) {s : Submission}
    (h : (c.client id).task = .sending s) : c.admission.owner = some id := by
  rw [locks.owner id, Client.entries, h]
  exact Nat.succ_pos _

/-- After the end of the dispatcher no script runs. -/
theorem Sound.off_of_stopped (sound : Sound c) (halted : c.dispatcher = .stopped) (d : Duty)
    (script : Script (List UInt8)) : ¬ d.On c script := by
  have off (id : ClientId) : (c.client id).task.inWindow = false := by
    cases h : (c.client id).task.inWindow with
    | false => rfl
    | true =>
      have parked := sound.handshake.parked (sound.fitting.parked id h)
      rw [halted] at parked
      cases parked
  -- a client on a duty is at work on the device of a parked dispatcher
  have client {id : ClientId} {t : Task} (there : (c.client id).task = t) (h : t.inWindow = true) :
      False := by
    rw [← there, off id] at h
    cases h
  intro on
  cases d with
  | serve j =>
    have on : c.dispatcher = .serving j script := on
    rw [halted] at on
    cases on
  | release l =>
    have on : c.dispatcher = .releasing l script := on
    rw [halted] at on
    cases on
  | setUp id => exact client on rfl
  | shutDown id w => exact client on rfl
  | read id r => exact client on rfl

end Control

namespace Gate

variable {σ : Type} {T : Transport σ} {env : σ → σ → Prop} {g g' : Gate σ}

/-- Nothing is taken off the queue while the dispatcher sleeps. -/
theorem Step.takenIn_parked (h : Step T g g') (sound : g.control.Sound)
    (parked : g.control.park.state = .parked) :
    takenIn g'.bus.journal.toList = takenIn g.bus.journal.toList := by
  obtain ⟨who, traffic, events, plain, journal, goes⟩ := h.goes
  obtain ⟨-, told, -, -⟩ := booked_append plain journal
  have taken : takenIn (toldBy who events) = [] := by
    cases goes with
    | dispatcher h => exact absurd parked (h.not_parked (sound.handshake.parked parked))
    | client h => exact h.books.1
  rw [told, taken, List.append_nil]

/-- The queue takes one message in a step at most: the end of a gate that is dropped, or one of the
client that has admission. -/
theorem Step.admitted (h : Step T g g') (sound : g.control.Sound) :
    acceptedIn g'.bus.journal.toList = acceptedIn g.bus.journal.toList ∨
      ∃ m, acceptedIn g'.bus.journal.toList = acceptedIn g.bus.journal.toList ++ [m] ∧
        (m = .stop ∧ g.control.dropped = true ∨ ∃ id s, m = g.control.message id s ∧
          g.control.admission.owner = some id ∧ g'.control.admission.owner = some id) := by
  obtain ⟨who, traffic, events, plain, journal, goes⟩ := h.goes
  obtain ⟨told, -, -, -⟩ := booked_append plain journal
  rw [told]
  generalize g'.control = next at goes
  cases goes with
  | dispatcher h => exact .inl (by rw [h.books.1, List.append_nil])
  | @client id _ _ h =>
    obtain ⟨e, d, turn, -, rfl⟩ := h
    have said := turn.told
    cases e with
    | push m =>
      obtain rfl : events = [.accepted m] := said
      refine .inr ⟨m, rfl, ?_⟩
      rcases turn.sends with ⟨s, sending, rfl⟩ | ⟨rfl, stopping⟩
      · have owner := sound.locks.owner_of_sending sending
        exact .inr ⟨id, s, rfl, owner, owner⟩
      · exact .inl ⟨rfl, sound.handshake.dropped_of_stopping stopping⟩
    | collect t =>
      obtain ⟨bytes, -, rfl⟩ := said
      exact .inl (List.append_nil _)
    | _ =>
      obtain ⟨ha, -⟩ := told_unbooked (.client id) fun e he => Event.unbooked_of_plain (said e he)
      exact .inl (by rw [ha, List.append_nil])

/-! ## Runs -/

theorem balanced_of_start {config : Config} {id : ClientId} {device : σ} {c : Control} {b : Bus σ}
    (start : Gate.start T config id ⟨device, #[]⟩ = (.ok (.ok c), b))
    (reach : Reach T env ⟨c, b⟩ g) : g.control.Sound ∧ g.Balanced := by
  obtain ⟨⟨s, rfl⟩, traffic, plain, journal⟩ := opened_of_start start
  refine balanced_of_reach reach (Control.sound_opened s) (balanced_opened s ?_)
  rw [journal]
  exact told_unbooked _ fun e he => Event.unbooked_of_traffic (plain e he)

theorem Reach.accepts (reach : Reach T env g g') (sound : g.control.Sound) :
    acceptedIn g.bus.journal.toList <+: acceptedIn g'.bus.journal.toList := by
  induction reach with
  | refl => exact List.prefix_rfl
  | step before move ih =>
    have sound := before.invariant sound fun _ _ _ _ h goes => goes.sound h
    rcases move.admitted sound with same | ⟨m, more, -⟩
    · rwa [same]
    · rw [more]
      exact ih.trans (List.prefix_append ..)
  | outside _ _ ih => exact ih

/-- A gate serves its requests in the order in which they were admitted. -/
structure InOrder (T : Transport σ) (g : Gate σ) : Prop where
  /-- What is taken and then what is queued is what was accepted, unless a fault has cleared the
  queue. -/
  order : g.control.dispatcher ≠ .dead → acceptedIn g.bus.journal.toList =
    takenIn g.bus.journal.toList ++ g.control.queue
  /-- A request is accepted while its client has admission. -/
  admitted : ∀ g', Step T g g' →
    acceptedIn g'.bus.journal.toList = acceptedIn g.bus.journal.toList ∨
      ∃ m, acceptedIn g'.bus.journal.toList = acceptedIn g.bus.journal.toList ++ [m] ∧
        (m = .stop ∨ ∃ id s, m = g.control.message id s ∧
          g.control.admission.owner = some id ∧ g'.control.admission.owner = some id)
  /-- A ticket is the place of a request among all. -/
  tickets : ∀ (i : Nat) j, (acceptedIn g.bus.journal.toList)[i]? = some (.job j) → j.ticket = i
  /-- Nothing is taken while the dispatcher sleeps. -/
  parked : g.control.park.state = .parked → ∀ g', Step T g g' →
    takenIn g'.bus.journal.toList = takenIn g.bus.journal.toList
  /-- The reads among the requests done have been answered, each once and as long as asked for. -/
  answered : ∃ done current, takenIn g.bus.journal.toList = done ++ current ∧
    Control.Pending g.control.dispatcher current ∧
    lengthsIn g.bus.journal.toList = readsOf done
  /-- Who gets the bytes of a read has submitted it, and gets as many as it asked for. -/
  delivered : ∀ who t bytes, (who, t, bytes) ∈ receivedIn g.bus.journal.toList →
    (t, bytes) ∈ answeredIn g.bus.journal.toList ∧
    ∃ j, (acceptedIn g.bus.journal.toList)[t]? = some (.job j) ∧ who = .client j.client ∧
      j.operation.isRead = true ∧ bytes.length = j.operation.length
  /-- No read is delivered twice. -/
  once : ((receivedIn g.bus.journal.toList).map (·.2.1)).Nodup
  /-- Bytes that are not delivered yet are kept for the client that submitted the read. -/
  kept : ∀ t bytes, (t, bytes) ∈ answeredIn g.bus.journal.toList →
    (∃ who, (who, t, bytes) ∈ receivedIn g.bus.journal.toList) ∨
      (t, bytes) ∈ g.control.replies ∧ ∃ j buffer,
        (acceptedIn g.bus.journal.toList)[t]? = some (.job j) ∧
          (g.control.client j.client).task.wants? = some (t, buffer)

/-- The bytes handed over for a read are as many as it asked for. -/
theorem length_of_answered {done : List Message} {j : Job} {t : Ticket} {bytes : List UInt8}
    (balanced : g.Balanced) (taken : done <+: takenIn g.bus.journal.toList)
    (lengths : lengthsIn g.bus.journal.toList = readsOf done)
    (accepted : (acceptedIn g.bus.journal.toList)[t]? = some (.job j))
    (answered : (t, bytes) ∈ answeredIn g.bus.journal.toList) :
    bytes.length = j.operation.length := by
  have asked : (t, bytes.length) ∈ readsOf done := by
    rw [← lengths]
    exact List.mem_map_of_mem answered
  obtain ⟨m, hm, read⟩ := List.mem_filterMap.1 asked
  obtain ⟨i, hi, there⟩ := List.mem_iff_getElem.1 hm
  cases m with
  | park id => cases read
  | stop => cases read
  | job j' =>
    simp only [Message.read?] at read
    split at read
    · obtain ⟨rfl, length⟩ := Prod.mk.inj (Option.some.inj read)
      -- the ticket tells the place of the request
      have place : (acceptedIn g.bus.journal.toList)[i]? = some (.job j') := by
        obtain ⟨rest, whole⟩ := taken.trans balanced.begun
        rw [← whole, List.getElem?_append_left hi, List.getElem?_eq_getElem hi, there]
      rw [balanced.tickets _ _ place, place] at accepted
      cases accepted
      exact length.symm
    · cases read

/-- At every moment of a run from its start a gate serves its requests in order. -/
theorem inOrder_of_start (fills : T.Fills) {config : Config} {id : ClientId} {device : σ}
    {c : Control} {b : Bus σ} (start : Gate.start T config id ⟨device, #[]⟩ = (.ok (.ok c), b))
    (reach : Reach T env ⟨c, b⟩ g) : g.InOrder T := by
  obtain ⟨sound, balanced⟩ := balanced_of_start start reach
  obtain ⟨done, current, taken, pending, lengths⟩ := lengths_of_reach fills start reach
  refine ⟨balanced.queued, fun g' h => ?_, balanced.tickets,
    fun parked g' h => h.takenIn_parked sound parked, ⟨done, current, taken, pending, lengths⟩,
    fun who t bytes received => ?_, balanced.once, fun t bytes answered => ?_⟩
  · rcases h.admitted sound with same | ⟨m, more, ⟨rfl, -⟩ | admitted⟩
    · exact .inl same
    · exact .inr ⟨_, more, .inl rfl⟩
    · exact .inr ⟨m, more, .inr admitted⟩
  · obtain ⟨answered, j, accepted, submitter, read⟩ := balanced.receipts _ received
    exact ⟨answered, j, accepted, submitter, read,
      length_of_answered balanced ⟨current, taken.symm⟩ lengths accepted answered⟩
  · rcases balanced.kept _ answered with reply | delivered
    · obtain ⟨-, id, buffer, waits⟩ := balanced.replies _ reply
      obtain ⟨⟨j, accepted, rfl, -⟩, -⟩ := balanced.wants id t buffer waits
      exact .inr ⟨reply, j, buffer, accepted, waits⟩
    · exact .inl delivered

end Gate

open Chip

/-- Over the emulated chip, with nobody changing it from outside, a gate hands over at every moment
what the dispatcher alone does for the requests done; and after the end of the dispatcher its calls
are those of the dispatcher alone for all requests accepted. -/
theorem agrees_of_start {profile : Profile} {data : List UInt8} {config : Config} {depth : Nat}
    {id : ClientId} {c : Control} {b : Bus Chip} {g : Gate Chip}
    (ready : profile.connectFailures = 0)
    (start : Gate.start transport { config with queueDepth := depth } id ⟨make profile data, #[]⟩ =
      (.ok (.ok c), b)) (reach : Gate.Reach transport Gate.undisturbed ⟨c, b⟩ g) :
    (∃ done current, takenIn g.bus.journal.toList = done ++ current ∧
      Control.Pending g.control.dispatcher current ∧ answeredIn g.bus.journal.toList =
        answeredIn (alone profile data config done).journal.toList) ∧
    (g.control.dispatcher = .stopped →
      g.bus.Agrees (alone profile data config (acceptedIn g.bus.journal.toList))) := by
  obtain ⟨sound, balanced⟩ := Gate.balanced_of_start start reach
  have alone_eq := alone_eq ready start
  obtain ⟨s, rfl, opened⟩ := Solo.stands_of_start start
  obtain ⟨-, done, stands⟩ := Contract.reach opened (Control.sound_opened s) reach
  obtain ⟨current, taken, pending⟩ := stands.taken
  refine ⟨⟨done, current, taken, pending, ?_⟩, fun halted => ?_⟩
  · rw [alone_eq]
    exact stands.holds.2
  · -- the dispatcher is done with all that was accepted, and nobody is at work on the chip
    have whole : acceptedIn g.bus.journal.toList = done := by
      have order := balanced.queued (by rw [halted]; simp)
      have empty := sound.handshake.ended (by rw [halted]; rfl)
      rw [halted] at pending
      obtain rfl : current = [] := pending
      rw [order, empty, taken, List.append_nil, List.append_nil]
    have stage : g.control.Stands (.held .released) := by
      simp only [Control.Stands, halted]
    rw [whole, alone_eq]
    exact (stands.rest (sound.off_of_stopped halted) _ stage).2.1

/-- Linearized execution, for any number of clients and every depth of the queue, and whatever the
order in which the threads move. At every moment a gate over a device whose reads fill their buffers
serves its requests in the order of their admission: what is taken and what is queued is what was
accepted, nothing is taken while the dispatcher sleeps, and the bytes of a read go once to the
client that submitted it, as many as it asked for. Over the emulated chip, with nobody changing it
from outside, the bytes handed over and, after the end of the dispatcher, all its calls with their
answers are those of a dispatcher alone that is given the accepted requests one after the other. -/
theorem executes_in_order :
    (∀ (σ : Type) (T : Transport σ) (env : σ → σ → Prop) (config : Config) (id : ClientId)
      (device : σ) (c : Control) (b : Bus σ) (g : Gate σ), T.Fills →
      Gate.start T config id ⟨device, #[]⟩ = (.ok (.ok c), b) → Gate.Reach T env ⟨c, b⟩ g →
      g.InOrder T) ∧
    ∀ (profile : Profile) (data : List UInt8) (config : Config) (depth : Nat) (id : ClientId)
      (c : Control) (b : Bus Chip) (g : Gate Chip), profile.connectFailures = 0 →
      Gate.start transport { config with queueDepth := depth } id ⟨make profile data, #[]⟩ =
        (.ok (.ok c), b) →
      Gate.Reach transport Gate.undisturbed ⟨c, b⟩ g →
      (∃ done current, takenIn g.bus.journal.toList = done ++ current ∧
        Control.Pending g.control.dispatcher current ∧ answeredIn g.bus.journal.toList =
          answeredIn (alone profile data config done).journal.toList) ∧
      (g.control.dispatcher = .stopped →
        dispatchedIn g.bus.journal.toList = dispatchedIn
          (alone profile data config (acceptedIn g.bus.journal.toList)).journal.toList ∧
        answeredIn g.bus.journal.toList = answeredIn
          (alone profile data config (acceptedIn g.bus.journal.toList)).journal.toList) := by
  constructor
  · intro σ T env config id device c b g fills start reach
    exact Gate.inOrder_of_start fills start reach
  · intro profile data config depth id c b g ready start reach
    obtain ⟨answers, ended⟩ := agrees_of_start ready start reach
    exact ⟨answers, fun halted => ⟨(ended halted).calls, (ended halted).answers⟩⟩

/-- The reads of the emulated chip fill their buffers. -/
theorem Chip.fills : transport.Fills := by
  intro d c r h
  cases c with
  | readRaw command address buffer =>
    have h : (d.readRaw command address buffer).reply = .ok r := h
    show List.length r = buffer.length
    unfold readRaw at h
    dsimp only at h
    split at h <;> cases h
    · exact d.memory.length_slice ..
    · rfl
  | fastRead address buffer =>
    have h : (d.fastRead address buffer).reply = .ok r := h
    show List.length r = buffer.length
    unfold fastRead at h
    dsimp only at h
    split at h <;> cases h
    · rw [List.length_map]
      exact d.memory.length_slice ..
    · rfl
  | _ => trivial

/-- Whether the dispatcher has ended as asked. -/
def Dispatcher.hasStopped : Dispatcher → Bool
  | .stopped => true
  | _ => false

theorem Dispatcher.eq_stopped {d : Dispatcher} (h : d.hasStopped = true) : d = .stopped := by
  cases d <;> first | rfl | cases h

/-- The small gate after a write and a read of one client, a read of another, and its end. -/
def Gate.smallDropped (c : Control) : Gate Chip :=
  ((((({ gate := ⟨c, Gate.small.2⟩ } : Session Chip).act transport 0 (.write 1 [0x0F])).act
    transport 0 (.read 0 [0, 0, 0])).act transport 1 (.read 1 [0])).act transport 0 .drop).gate

/-- The small gate serves its four requests in order, and its dispatcher makes the calls that it
would make alone. -/
theorem executes_in_order_small : ∃ c, Gate.small.1 = .ok (.ok c) ∧
    (Gate.smallDropped c).InOrder transport ∧
    (acceptedIn (Gate.smallDropped c).bus.journal.toList).length = 4 ∧
    dispatchedIn (Gate.smallDropped c).bus.journal.toList = dispatchedIn
      (alone oneSector [] { fastRead := some ⟨.nibbleSwap, 0⟩ }
        (acceptedIn (Gate.smallDropped c).bus.journal.toList)).journal.toList := by
  obtain ⟨c, opened⟩ := Gate.small_opens
  have fresh : Gate.Reach transport Gate.undisturbed ⟨c, Gate.small.2⟩
      ({ gate := ⟨c, Gate.small.2⟩ } : Session Chip).gate := .refl
  have reach : Gate.Reach transport Gate.undisturbed ⟨c, Gate.small.2⟩ (Gate.smallDropped c) :=
    Session.reach_act 0 _
      (Session.reach_act 1 _ (Session.reach_act 0 _ (Session.reach_act 0 _ fresh)))
  have start := Gate.start_of_small opened
  have played : Gate.ofSmall
    (fun c => ((acceptedIn (Gate.smallDropped c).bus.journal.toList).length,
      (Gate.smallDropped c).control.dispatcher.hasStopped)) = some (4, true) := by
    decide +kernel
  simp only [Gate.ofSmall, opened, Option.some.injEq, Prod.mk.injEq] at played
  have halted := Dispatcher.eq_stopped played.2
  refine ⟨c, opened, ?_, played.1, ?_⟩
  · exact executes_in_order.1 _ _ _ _ 0 _ c _ _ fills start reach
  · exact ((executes_in_order.2 oneSector [] { fastRead := some ⟨.nibbleSwap, 0⟩ } _ 0 c _ _
      rfl start
      reach).2 halted).1

end FlashGate

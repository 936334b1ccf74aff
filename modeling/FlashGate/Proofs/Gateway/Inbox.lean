/-
The replies that a client gets. Main statements: `Goes.inbox`, that all reads that a client has
submitted but the one it waits for have come back to it, in the order in which it submitted them;
and `inbox_of_start`, that this stands all along a run without a fault of the dispatcher.
-/
import FlashGate.Proofs.Gateway.Contract
import FlashGate.Proofs.Gateway.Park

namespace FlashGate

/-- The ticket of a message, if it is a read of the client. -/
def Message.readBy? (id : ClientId) : Message → Option Ticket
  | .job j => if j.client = id ∧ j.operation.isRead = true then some j.ticket else none
  | _ => none

/-- The tickets of a client's reads, in order. -/
def readsBy (id : ClientId) (messages : List Message) : List Ticket :=
  messages.filterMap (Message.readBy? id)

/-- The bytes that a client has taken, under their tickets and in order. -/
def receivedBy (id : ClientId) (received : List (Actor × Ticket × List UInt8)) :
    List (Ticket × List UInt8) :=
  received.filterMap fun x => if x.1 = .client id then some x.2 else none

@[simp] theorem readsBy_append (id : ClientId) (a b : List Message) :
    readsBy id (a ++ b) = readsBy id a ++ readsBy id b := List.filterMap_append ..

@[simp] theorem receivedBy_append (id : ClientId) (a b : List (Actor × Ticket × List UInt8)) :
    receivedBy id (a ++ b) = receivedBy id a ++ receivedBy id b := List.filterMap_append ..

theorem mem_receivedBy {id : ClientId} {received : List (Actor × Ticket × List UInt8)}
    {r : Ticket × List UInt8} : r ∈ receivedBy id received ↔ (.client id, r) ∈ received := by
  simp only [receivedBy, List.mem_filterMap]
  constructor
  · rintro ⟨⟨who, x⟩, hx, h⟩
    split at h
    next same =>
      cases h
      obtain rfl : who = .client id := same
      exact hx
    · cases h
  · intro h
    exact ⟨_, h, if_pos rfl⟩

theorem map_receivedBy_sublist (id : ClientId) (received : List (Actor × Ticket × List UInt8)) :
    ((receivedBy id received).map (·.1)).Sublist (received.map (·.2.1)) := by
  induction received with
  | nil => exact .slnil
  | cons x rest ih =>
    by_cases mine : x.1 = .client id
    · simpa [receivedBy, mine] using ih
    · simpa [receivedBy, mine] using ih.cons x.2.1

/-- The ticket of the read that a client waits for. -/
def Task.waiting (t : Task) : List Ticket := (t.wants?.map (·.1)).toList

namespace Control

variable {c next : Control} {id : ClientId} {events : List Event} {who : Actor}
  {accepted : List Message} {received : List (Actor × Ticket × List UInt8)}

/-- All reads that a client has submitted have come back to it in their order, but the one that it
waits for. -/
def Inbox (c : Control) (accepted : List Message)
    (received : List (Actor × Ticket × List UInt8)) : Prop :=
  ∀ id, readsBy id accepted =
    (receivedBy id received).map (·.1) ++ (c.client id).task.waiting

theorem role_of_wants {t : Task} {r : Ticket × List UInt8} (h : t.wants? = some r) :
    t.role = .apart := by
  cases t with
  | awaiting t buffer => rfl
  | leaving s t =>
    cases s with
    | job o buffer => rfl
    | park => cases h
  | _ => cases h

theorem Handshake.wants_of_isOver (hs : Handshake c) (halted : c.dispatcher.isOver = true)
    (sane : c.dispatcher.isFaulted = false) : (c.client id).task.wants? = none := by
  cases h : (c.client id).task.wants? with
  | none => rfl
  | some r =>
    have apart : c.role id = .apart := role_of_wants h
    have ended := (hs.ending (.inr (Dispatcher.stops_of_isOver halted sane))).2 id
    rw [apart] at ended
    rcases ended with h | h <;> cases h

theorem Turn.inbox_other {e : Deed} {d : Client} (turn : Turn c id e d events) {j : ClientId}
    (other : j ≠ id) : readsBy j (acceptedIn (toldBy (.client id) events)) = [] ∧
      receivedBy j (receivedIn (toldBy (.client id) events)) = [] := by
  have told := turn.told
  cases e with
  | push m =>
    obtain rfl : events = [.accepted m] := told
    refine ⟨?_, rfl⟩
    show readsBy j [m] = []
    rcases turn.wants.2 with ⟨s, rfl, -⟩ | ⟨rfl, -⟩
    · cases s <;> simp [readsBy, Message.readBy?, Control.message, other.symm]
    · rfl
  | collect t =>
    obtain ⟨bytes, -, rfl⟩ := told
    refine ⟨rfl, ?_⟩
    show receivedBy j [(.client id, t, bytes)] = []
    simp [receivedBy, other.symm]
  | _ =>
    obtain ⟨accepted, -, -, received⟩ := told_unbooked (.client id) fun e he =>
      Event.unbooked_of_plain (told e he)
    rw [accepted, received]
    exact ⟨rfl, rfl⟩

/-- What a client waited for and what it submits in a turn is what it takes and what it waits for
then. -/
theorem Turn.inbox_own {e : Deed} {d : Client} (turn : Turn c id e d events) (hs : Handshake c)
    (sane : c.dispatcher.isFaulted = false) :
    (c.client id).task.waiting ++ readsBy id (acceptedIn (toldBy (.client id) events)) =
      (receivedBy id (receivedIn (toldBy (.client id) events))).map (·.1) ++ d.task.waiting := by
  have told := turn.told
  have wants := turn.wants
  cases e with
  | push m =>
    obtain rfl : events = [.accepted m] := told
    obtain ⟨before, sends⟩ := wants
    rw [show (c.client id).task.waiting = [] by rw [Task.waiting, before]; rfl]
    show readsBy id [m] = d.task.waiting
    rcases sends with ⟨s, rfl, -, after⟩ | ⟨rfl, after⟩
    · rw [after]
      cases s with
      | park => rfl
      | job o buffer =>
        by_cases read : o.isRead = true <;>
          simp [readsBy, Message.readBy?, Control.message, Task.waiting, Task.wants?, read]
    · rw [Task.waiting, after]
      rfl
  | collect t =>
    obtain ⟨bytes, -, rfl⟩ := told
    obtain ⟨after, buffer, before⟩ := wants
    show (c.client id).task.waiting ++ [] = (receivedBy id [(.client id, t, bytes)]).map (·.1) ++ _
    simp [receivedBy, Task.waiting, before, after]
  | _ =>
    obtain ⟨accepted, -, -, received⟩ := told_unbooked (.client id) fun e he =>
      Event.unbooked_of_plain (told e he)
    -- nobody gives a read up while the dispatcher is not over, or at its end as asked
    have same := wants.resolve_right fun forsaken => by
      obtain ⟨-, t, buffer, waits, -, halted⟩ := forsaken
      rw [hs.wants_of_isOver halted sane] at waits
      cases waits
    rw [accepted, received, Task.waiting, Task.waiting, same]
    exact List.append_nil _

theorem Turns.inbox (h : Turns c id next events) (hs : Handshake c)
    (sane : c.dispatcher.isFaulted = false) (inbox : Inbox c accepted received) :
    Inbox next (accepted ++ acceptedIn (toldBy (.client id) events))
      (received ++ receivedIn (toldBy (.client id) events)) := by
  obtain ⟨e, d, turn, allowed, rfl⟩ := h
  intro j
  rw [client_turned, readsBy_append, receivedBy_append, List.map_append, inbox j]
  by_cases mine : j = id
  · rw [mine, if_pos rfl, List.append_assoc, turn.inbox_own hs sane, ← List.append_assoc]
  · obtain ⟨submitted, taken⟩ := turn.inbox_other mine
    rw [if_neg mine, submitted, taken, List.map_nil, List.append_nil, List.append_nil]

/-- Every turn keeps the reads in order, as long as no fault hits the dispatcher. -/
theorem Goes.inbox (h : c.Goes who next events) (hs : Handshake c)
    (sane : c.dispatcher.isFaulted = false) (inbox : Inbox c accepted received) :
    Inbox next (accepted ++ acceptedIn (toldBy who events))
      (received ++ receivedIn (toldBy who events)) := by
  cases h with
  | client h => exact h.inbox hs sane inbox
  | dispatcher h =>
    rw [h.books.1, h.books.2, List.append_nil, List.append_nil]
    intro j
    rw [h.client, inbox j]

end Control

/-! ## Runs -/

namespace Gate

variable {σ : Type} {T : Transport σ} {env : σ → σ → Prop} {g₀ g g' : Gate σ}

/-- The reads of the gate's clients are in order. -/
def InboxStands (g : Gate σ) : Prop :=
  g.control.Inbox (acceptedIn g.bus.journal.toList) (receivedIn g.bus.journal.toList)

theorem Step.inbox (h : Step T g g') (sound : g.control.Sound)
    (sane : g.control.dispatcher.isFaulted = false) (inbox : g.InboxStands) : g'.InboxStands := by
  obtain ⟨who, traffic, events, plain, journal, goes⟩ := h.goes
  obtain ⟨ha, -, -, hr⟩ := booked_append plain journal
  rw [InboxStands, ha, hr]
  exact goes.inbox sound.handshake sane inbox

theorem Reach.inbox (reach : Reach T env g₀ g) (sound : g₀.control.Sound)
    (inbox : g₀.InboxStands) (sane : g.control.dispatcher.isFaulted = false) : g.InboxStands := by
  induction reach with
  | refl => exact inbox
  | step before move ih =>
    obtain ⟨_, _, _, _, _, goes⟩ := move.goes
    have sane := goes.isFaulted sane
    exact move.inbox (before.invariant sound fun _ _ _ _ h goes => goes.sound h) sane (ih sane)
  | outside _ _ ih => exact ih sane

/-- The reads of a gate that has been opened are in order until a fault hits the dispatcher. -/
theorem inbox_of_start {config : Config} {id : ClientId} {device : σ} {c : Control} {b : Bus σ}
    (start : Gate.start T config id ⟨device, #[]⟩ = (.ok (.ok c), b)) (reach : Reach T env ⟨c, b⟩ g)
    (sane : g.control.dispatcher.isFaulted = false) : g.InboxStands := by
  obtain ⟨⟨s, rfl⟩, traffic, plain, journal⟩ := opened_of_start start
  refine reach.inbox (Control.sound_opened s) (fun j => ?_) sane
  obtain ⟨ha, -, -, hr⟩ := told_unbooked (.client id) fun e he =>
    Event.unbooked_of_traffic (plain e he)
  rw [toldBy] at ha hr
  rw [journal, ha, hr]
  rfl

end Gate

end FlashGate

/-
The ledger of a gate: what it has accepted, taken, answered and handed over, in step with its queue,
its replies and the places of its clients. Main statements: `Turns.ledger` and
`DispatcherTurn.ledger`, that every turn keeps the ledger, and `balanced_of_reach`, that it stands
all along a run.
-/
import FlashGate.Proofs.Gateway.Stage
import Mathlib.Data.List.Nodup

namespace FlashGate

/-! ## What a journal tells -/

/-- The message in an event that the queue took in. -/
def Event.accepted? : Event → Option Message
  | .accepted m => some m
  | _ => none

/-- The messages that the queue took in, in order. -/
def acceptedIn (journal : List Entry) : List Message := journal.filterMap (·.event.accepted?)

/-- The thread and the bytes in an entry in which a client takes the bytes of a read. -/
def Entry.received? (e : Entry) : Option (Actor × Ticket × List UInt8) :=
  match e.event with
  | .received t bytes => some (e.actor, t, bytes)
  | _ => none

/-- The bytes of reads that clients took, with the threads that took them. -/
def receivedIn (journal : List Entry) : List (Actor × Ticket × List UInt8) :=
  journal.filterMap Entry.received?

@[simp] theorem acceptedIn_append (a b : List Entry) :
    acceptedIn (a ++ b) = acceptedIn a ++ acceptedIn b := List.filterMap_append ..

@[simp] theorem receivedIn_append (a b : List Entry) :
    receivedIn (a ++ b) = receivedIn a ++ receivedIn b := List.filterMap_append ..

/-- The entries of one thread. -/
def toldBy (who : Actor) (events : List Event) : List Entry := events.map (⟨who, ·⟩)

/-- Whether the event is one of those that a ledger notes. -/
def Event.isBooked : Event → Bool
  | .accepted _ => true
  | .taken _ => true
  | .answered .. => true
  | .received .. => true
  | _ => false

/-- Other events are nothing to a ledger. -/
theorem told_unbooked (who : Actor) {events : List Event}
    (unbooked : ∀ e ∈ events, e.isBooked = false) :
    acceptedIn (toldBy who events) = [] ∧ takenIn (toldBy who events) = [] ∧
      answeredIn (toldBy who events) = [] ∧ receivedIn (toldBy who events) = [] := by
  simp only [acceptedIn, takenIn, answeredIn, receivedIn, List.filterMap_eq_nil_iff]
  refine ⟨?_, ?_, ?_, ?_⟩ <;>
  · intro x hx
    obtain ⟨e, he, rfl⟩ := List.mem_map.1 hx
    have := unbooked e he
    cases e <;> first | rfl | cases this

theorem Event.unbooked_of_plain {e : Event} (h : e.isPlain = true) : e.isBooked = false := by
  cases e <;> first | rfl | cases h

theorem Event.unbooked_of_traffic {e : Event} (h : e.isTraffic = true) : e.isBooked = false := by
  cases e <;> first | rfl | cases h

/-- Traffic is nothing to a ledger, so a turn adds to it what is told after the traffic. -/
theorem booked_append {who : Actor} {traffic events : List Event}
    (plain : ∀ e ∈ traffic, e.isTraffic = true) {before after : List Entry}
    (journal : after = before ++ (traffic ++ events).map (⟨who, ·⟩)) :
    acceptedIn after = acceptedIn before ++ acceptedIn (toldBy who events) ∧
      takenIn after = takenIn before ++ takenIn (toldBy who events) ∧
      answeredIn after = answeredIn before ++ answeredIn (toldBy who events) ∧
      receivedIn after = receivedIn before ++ receivedIn (toldBy who events) := by
  have told : after = before ++ toldBy who traffic ++ toldBy who events := by
    rw [journal, List.map_append, List.append_assoc]
    rfl
  obtain ⟨ha, ht, hn, hr⟩ := told_unbooked who fun e he => Event.unbooked_of_traffic (plain e he)
  simp only [told, acceptedIn_append, takenIn_append, answeredIn_append, receivedIn_append, ha, ht,
    hn, hr, List.append_nil, and_self]

/-- The read that the client waits for, and its buffer. -/
def Task.wants? : Task → Option (Ticket × List UInt8)
  | .leaving (.job o buffer) (some t) => if o.isRead = true then some (t, buffer) else none
  | .awaiting t buffer => some (t, buffer)
  | _ => none

/-- The job that the dispatcher has taken and not answered. -/
def Dispatcher.job? : Dispatcher → Option Job
  | .claiming j => some j
  | .serving j _ => some j
  | _ => none

namespace Control

theorem mem_of_reply? {c : Control} {t : Ticket} {bytes : List UInt8}
    (come : c.reply? t = some bytes) : (t, bytes) ∈ c.replies := by
  obtain ⟨r, found, rfl⟩ := Option.map_eq_some_iff.1 come
  have ticket : r.1 = t := by simpa using List.find?_some found
  have := List.mem_of_find?_eq_some found
  rwa [← ticket]

/-- The control state is in step with the messages accepted and taken so far, and with the bytes
handed over by the dispatcher and taken by the clients. -/
structure Ledger (c : Control) (accepted taken : List Message)
    (answered : List (Ticket × List UInt8)) (received : List (Actor × Ticket × List UInt8)) :
    Prop where
  queued : c.dispatcher ≠ .dead → accepted = taken ++ c.queue
  begun : taken <+: accepted
  issued : c.issued = accepted.length
  tickets : ∀ (i : Nat) j, accepted[i]? = some (.job j) → j.ticket = i
  -- the job at hand is the last one taken, and answers are to earlier ones
  serving : ∀ j, c.dispatcher.job? = some j → ∃ before, taken = before ++ [.job j] ∧
    ∀ r ∈ answered, r.1 < before.length
  behind : ∀ r ∈ answered, r.1 < taken.length
  -- who waits for a read has submitted it, and has not got its bytes
  wants : ∀ id t buffer, (c.client id).task.wants? = some (t, buffer) →
    (∃ j, accepted[t]? = some (.job j) ∧ j.client = id ∧ j.operation.isRead = true ∧
      j.operation.length = buffer.length) ∧ ∀ x ∈ received, x.2.1 ≠ t
  -- and as long as the dispatcher is not over, a read without an answer has its client waiting
  outstanding : c.dispatcher.isOver = false → ∀ j, .job j ∈ c.queue ∨ c.dispatcher.job? = some j →
    j.operation.isRead = true → ∃ buffer, (c.client j.client).task.wants? = some (j.ticket, buffer)
  replies : ∀ r ∈ c.replies, r ∈ answered ∧
    ∃ id buffer, (c.client id).task.wants? = some (r.1, buffer)
  distinct : (c.replies.map (·.1)).Nodup
  receipts : ∀ x ∈ received, x.2 ∈ answered ∧ ∃ j, accepted[x.2.1]? = some (.job j) ∧
    x.1 = .client j.client ∧ j.operation.isRead = true
  once : (received.map (·.2.1)).Nodup
  kept : ∀ r ∈ answered, r ∈ c.replies ∨ ∃ who, (who, r) ∈ received

/-- A turn in which a client puts a message on the queue. If it is a job that reads, the client
waits for its bytes from then on. -/
structure Pushes (c next : Control) (id : ClientId) (m : Message) : Prop where
  queue : next.queue = c.queue ++ [m]
  issued : next.issued = c.issued + 1
  replies : next.replies = c.replies
  dispatcher : next.dispatcher = c.dispatcher
  working : c.dispatcher.isOver = false
  others : ∀ j, j ≠ id → (next.client j).task.wants? = (c.client j).task.wants?
  before : (c.client id).task.wants? = none
  ticket : ∀ j, m = .job j → j.ticket = c.issued
  waits : ∀ t buffer, (next.client id).task.wants? = some (t, buffer) → t = c.issued ∧
    ∃ j, m = .job j ∧ j.client = id ∧ j.operation.isRead = true ∧
      j.operation.length = buffer.length
  waiting : ∀ j, m = .job j → j.operation.isRead = true → j.client = id ∧
    ∃ buffer, (next.client id).task.wants? = some (j.ticket, buffer)

/-- A turn in which a client stops waiting for a read. A reply to the read is gone afterwards. -/
structure Leaves (c next : Control) (id : ClientId) (t : Ticket) : Prop where
  queue : next.queue = c.queue
  issued : next.issued = c.issued
  replies : next.replies = c.replies.filter fun r => r.1 != t
  dispatcher : next.dispatcher = c.dispatcher
  others : ∀ j, j ≠ id → (next.client j).task.wants? = (c.client j).task.wants?
  before : ∃ buffer, (c.client id).task.wants? = some (t, buffer)
  after : (next.client id).task.wants? = none

theorem alive_of_working {c : Control} (h : c.dispatcher.isOver = false) :
    c.dispatcher ≠ .dead := by
  intro dead
  rw [dead] at h
  cases h

namespace Ledger

variable {c next : Control} {accepted taken : List Message}
  {answered : List (Ticket × List UInt8)} {received : List (Actor × Ticket × List UInt8)}
  {id : ClientId} {m : Message} {t : Ticket}

/-! ### Places in the queue -/

theorem taken_le_issued (h : Ledger c accepted taken answered received) :
    taken.length ≤ c.issued := by
  rw [h.issued]
  exact h.begun.length_le

theorem ticket_serving (h : Ledger c accepted taken answered received)
    (alive : c.dispatcher ≠ .dead) {j : Job} (hj : c.dispatcher.job? = some j) :
    taken.length = j.ticket + 1 ∧ ∀ r ∈ answered, r.1 < j.ticket := by
  obtain ⟨before, last, earlier⟩ := h.serving j hj
  have ticket : j.ticket = before.length := h.tickets _ j (by rw [h.queued alive, last]; simp)
  rw [ticket, last]
  exact ⟨List.length_append, earlier⟩

theorem ticket_queued (h : Ledger c accepted taken answered received)
    (alive : c.dispatcher ≠ .dead) {j : Job} (hj : .job j ∈ c.queue) :
    taken.length ≤ j.ticket := by
  obtain ⟨i, hi, there⟩ := List.mem_iff_getElem.1 hj
  have place : accepted[taken.length + i]? = some (.job j) := by
    rw [h.queued alive, List.getElem?_append_right (Nat.le_add_right ..), Nat.add_sub_cancel_left,
      List.getElem?_eq_getElem hi, there]
  rw [h.tickets _ j place]
  exact Nat.le_add_right ..

/-- A job without an answer comes after all that are answered. -/
theorem ahead (h : Ledger c accepted taken answered received) (alive : c.dispatcher ≠ .dead)
    {j : Job} (hj : .job j ∈ c.queue ∨ c.dispatcher.job? = some j) :
    ∀ r ∈ answered, r.1 < j.ticket := by
  rcases hj with hj | hj
  · exact fun r hr => Nat.lt_of_lt_of_le (h.behind r hr) (h.ticket_queued alive hj)
  · exact (h.ticket_serving alive hj).2

/-! ### Who waits for an answer -/

theorem sole (h : Ledger c accepted taken answered received) {i : ClientId}
    {buffer buffer' : List UInt8} (hi : (c.client i).task.wants? = some (t, buffer))
    (hid : (c.client id).task.wants? = some (t, buffer')) : i = id := by
  obtain ⟨⟨j, there, rfl, -⟩, -⟩ := h.wants i t buffer hi
  obtain ⟨⟨j', there', rfl, -⟩, -⟩ := h.wants id t buffer' hid
  rw [there] at there'
  cases there'
  rfl

theorem received_behind (h : Ledger c accepted taken answered received) :
    ∀ x ∈ received, x.2.1 < taken.length :=
  fun x hx => h.behind x.2 (h.receipts x hx).1

/-- The replies that are left are to clients that wait, if whoever waited for one of them waits
on. -/
theorem replies_left (h : Ledger c accepted taken answered received)
    (left : next.replies ⊆ c.replies)
    (waits : ∀ r ∈ next.replies, ∀ i buffer, (c.client i).task.wants? = some (r.1, buffer) →
      (next.client i).task.wants? = some (r.1, buffer)) :
    ∀ r ∈ next.replies, r ∈ answered ∧
      ∃ i buffer, (next.client i).task.wants? = some (r.1, buffer) := by
  intro r hr
  obtain ⟨answer, i, buffer, before⟩ := h.replies r (left hr)
  exact ⟨answer, i, buffer, waits r hr i buffer before⟩

/-- A turn that touches neither queue nor replies, and after which nobody waits who did not, and
everybody who did unless the dispatcher is over. -/
theorem keep (h : Ledger c accepted taken answered received)
    (queue : next.queue = c.queue) (issued : next.issued = c.issued)
    (replies : next.replies = c.replies)
    (dead : next.dispatcher ≠ .dead → c.dispatcher ≠ .dead)
    (job : ∀ j, next.dispatcher.job? = some j → c.dispatcher.job? = some j)
    (halted : next.dispatcher.isOver = false → c.dispatcher.isOver = false)
    (wants : ∀ id, (next.client id).task.wants? = (c.client id).task.wants?) :
    Ledger next accepted taken answered received where
  queued hd := by rw [queue]; exact h.queued (dead hd)
  begun := h.begun
  issued := issued.trans h.issued
  tickets := h.tickets
  serving j hj := h.serving j (job j hj)
  behind := h.behind
  wants id t buffer ht := h.wants id t buffer (by rwa [wants] at ht)
  outstanding ho j hj read := by
    rw [wants]
    exact h.outstanding (halted ho) j (hj.imp (by rw [queue]; exact fun h => h) (job j)) read
  replies := h.replies_left (replies ▸ List.Subset.refl _) fun _ _ i _ ht => (wants i).trans ht
  distinct := by rw [replies]; exact h.distinct
  receipts := h.receipts
  once := h.once
  kept r hr := by rw [replies]; exact h.kept r hr

/-! ### A message put on the queue -/

theorem place_push {m' : Message} (there : accepted[t]? = some m') :
    (accepted ++ [m])[t]? = some m' := by
  obtain ⟨bound, -⟩ := List.getElem?_eq_some_iff.1 there
  rwa [List.getElem?_append_left bound]

theorem waits_push (p : Pushes c next id m) {i : ClientId} {x : Ticket × List UInt8}
    (waits : (c.client i).task.wants? = some x) : (next.client i).task.wants? = some x := by
  rw [p.others i, waits]
  rintro rfl
  rw [p.before] at waits
  cases waits

theorem tickets_push (h : Ledger c accepted taken answered received) (p : Pushes c next id m)
    (i : Nat) (j : Job) (hi : (accepted ++ [m])[i]? = some (.job j)) : j.ticket = i := by
  rcases Nat.lt_or_ge i accepted.length with hlt | hge
  · rw [List.getElem?_append_left hlt] at hi
    exact h.tickets i j hi
  · obtain rfl : i = accepted.length := by
      have := (List.getElem?_eq_some_iff.1 hi).1
      simp only [List.length_append, List.length_singleton] at this
      omega
    rw [p.ticket j (by simpa using hi), h.issued]

/-- Who waits after the push, waits for a read that it has submitted and not got. -/
theorem wants_push (h : Ledger c accepted taken answered received) (p : Pushes c next id m)
    (i : ClientId) (t : Ticket) (buffer : List UInt8)
    (ht : (next.client i).task.wants? = some (t, buffer)) :
    (∃ j, (accepted ++ [m])[t]? = some (.job j) ∧ j.client = i ∧ j.operation.isRead = true ∧
      j.operation.length = buffer.length) ∧ ∀ x ∈ received, x.2.1 ≠ t := by
  by_cases hi : i = id
  · subst hi
    obtain ⟨rfl, j, rfl, rest⟩ := p.waits t buffer ht
    refine ⟨⟨j, by rw [h.issued]; simp, rest⟩, fun x hx => ?_⟩
    exact Nat.ne_of_lt (Nat.lt_of_lt_of_le (h.received_behind x hx) h.taken_le_issued)
  · rw [p.others i hi] at ht
    obtain ⟨⟨j, there, rest⟩, none⟩ := h.wants i t buffer ht
    exact ⟨⟨j, place_push there, rest⟩, none⟩

theorem outstanding_push (h : Ledger c accepted taken answered received) (p : Pushes c next id m)
    (j : Job) (hj : .job j ∈ next.queue ∨ next.dispatcher.job? = some j)
    (read : j.operation.isRead = true) :
    ∃ buffer, (next.client j.client).task.wants? = some (j.ticket, buffer) := by
  have old (hj : .job j ∈ c.queue ∨ c.dispatcher.job? = some j) :
      ∃ buffer, (next.client j.client).task.wants? = some (j.ticket, buffer) := by
    obtain ⟨buffer, waits⟩ := h.outstanding p.working j hj read
    exact ⟨buffer, waits_push p waits⟩
  rw [p.queue, p.dispatcher, List.mem_append, List.mem_singleton] at hj
  rcases hj with (hj | hj) | hj
  · exact old (.inl hj)
  · obtain ⟨rfl, waits⟩ := p.waiting j hj.symm read
    exact waits
  · exact old (.inr hj)

theorem push (h : Ledger c accepted taken answered received) (p : Pushes c next id m) :
    Ledger next (accepted ++ [m]) taken answered received where
  queued _ := by rw [p.queue, h.queued (alive_of_working p.working), List.append_assoc]
  begun := h.begun.trans (List.prefix_append _ _)
  issued := by rw [p.issued, h.issued, List.length_append]; rfl
  tickets := h.tickets_push p
  serving := by rw [p.dispatcher]; exact h.serving
  behind := h.behind
  wants := h.wants_push p
  outstanding _ := h.outstanding_push p
  replies := h.replies_left (p.replies ▸ List.Subset.refl _) fun _ _ _ _ => waits_push p
  distinct := by rw [p.replies]; exact h.distinct
  receipts x hx := by
    obtain ⟨answer, j, there, rest⟩ := h.receipts x hx
    exact ⟨answer, j, place_push there, rest⟩
  once := h.once
  kept := by rw [p.replies]; exact h.kept

/-! ### A client that waits no longer -/

theorem waited_leave (l : Leaves c next id t) {i : ClientId} {x : Ticket × List UInt8}
    (waits : (next.client i).task.wants? = some x) :
    i ≠ id ∧ (c.client i).task.wants? = some x := by
  have other : i ≠ id := by
    rintro rfl
    rw [l.after] at waits
    cases waits
  exact ⟨other, by rwa [l.others i other] at waits⟩

theorem waits_leave (l : Leaves c next id t) {i : ClientId} {t' : Ticket} {buffer : List UInt8}
    (other : t' ≠ t) (waits : (c.client i).task.wants? = some (t', buffer)) :
    (next.client i).task.wants? = some (t', buffer) := by
  rw [l.others i, waits]
  rintro rfl
  obtain ⟨buffer', before⟩ := l.before
  rw [before] at waits
  cases waits
  exact other rfl

theorem replies_leave (h : Ledger c accepted taken answered received) (l : Leaves c next id t) :
    ∀ r ∈ next.replies, r ∈ answered ∧
      ∃ i buffer, (next.client i).task.wants? = some (r.1, buffer) := by
  refine h.replies_left (l.replies ▸ List.filter_subset_self _) fun r hr i buffer => ?_
  rw [l.replies, List.mem_filter] at hr
  exact waits_leave l (by simpa using hr.2)

theorem distinct_leave (h : Ledger c accepted taken answered received) (l : Leaves c next id t) :
    (next.replies.map (·.1)).Nodup := by
  rw [l.replies]
  exact h.distinct.sublist (List.filter_sublist.map _)

/-- While a read has a reply, the jobs without an answer are others, and their clients wait on. -/
theorem outstanding_collect (h : Ledger c accepted taken answered received)
    (l : Leaves c next id t) {bytes : List UInt8} (come : (t, bytes) ∈ c.replies)
    (working : next.dispatcher.isOver = false) (j : Job)
    (hj : .job j ∈ next.queue ∨ next.dispatcher.job? = some j)
    (read : j.operation.isRead = true) :
    ∃ buffer, (next.client j.client).task.wants? = some (j.ticket, buffer) := by
  rw [l.dispatcher] at working hj
  rw [l.queue] at hj
  obtain ⟨buffer, waits⟩ := h.outstanding working j hj read
  have later := h.ahead (alive_of_working working) hj _ (h.replies _ come).1
  exact ⟨buffer, waits_leave l (Nat.ne_of_gt later) waits⟩

theorem kept_collect (h : Ledger c accepted taken answered received) (l : Leaves c next id t)
    {bytes : List UInt8} (come : (t, bytes) ∈ c.replies) (who : Actor) :
    ∀ r ∈ answered, r ∈ next.replies ∨ ∃ who', (who', r) ∈ received ++ [(who, t, bytes)] := by
  intro r hr
  rcases h.kept r hr with reply | ⟨who', got⟩
  · by_cases ticket : r.1 = t
    · have same : r = (t, bytes) := List.inj_on_of_nodup_map h.distinct reply come ticket
      exact .inr ⟨who, by simp [same]⟩
    · refine .inl ?_
      rw [l.replies, List.mem_filter]
      exact ⟨reply, by simpa using ticket⟩
  · exact .inr ⟨who', List.mem_append_left _ got⟩

theorem collect (h : Ledger c accepted taken answered received) (l : Leaves c next id t)
    {bytes : List UInt8} (come : c.reply? t = some bytes) :
    Ledger next accepted taken answered (received ++ [(.client id, t, bytes)]) := by
  obtain ⟨buffer, before⟩ := l.before
  obtain ⟨⟨j, there, client, read, -⟩, fresh⟩ := h.wants id t buffer before
  have mem := mem_of_reply? come
  refine ⟨by rw [l.queue, l.dispatcher]; exact h.queued, h.begun, l.issued.trans h.issued,
    h.tickets, by rw [l.dispatcher]; exact h.serving, h.behind, ?wants, h.outstanding_collect l mem,
    h.replies_leave l, h.distinct_leave l, ?receipts, ?once, h.kept_collect l mem _⟩
  case wants =>
    intro i t' buffer' ht
    obtain ⟨other, ht⟩ := waited_leave l ht
    obtain ⟨job, none⟩ := h.wants i t' buffer' ht
    refine ⟨job, fun x hx => ?_⟩
    rcases List.mem_append.1 hx with hx | hx
    · exact none x hx
    · rw [List.mem_singleton.1 hx]
      rintro rfl
      exact other (h.sole ht before)
  case receipts =>
    intro x hx
    rcases List.mem_append.1 hx with hx | hx
    · exact h.receipts x hx
    · rw [List.mem_singleton.1 hx]
      exact ⟨(h.replies _ mem).1, j, there, by rw [client], read⟩
  case once =>
    rw [List.map_append, List.nodup_append]
    refine ⟨h.once, List.pairwise_singleton .., fun a ha b hb => ?_⟩
    obtain ⟨x, hx, rfl⟩ := List.mem_map.1 ha
    obtain rfl : b = t := by simpa using hb
    exact fresh x hx

/-- A client whose read has no answer gives up once the dispatcher is over. -/
theorem forsake (h : Ledger c accepted taken answered received) (l : Leaves c next id t)
    (halted : c.dispatcher.isOver = true) (unmet : next.replies = c.replies) :
    Ledger next accepted taken answered received where
  queued := by rw [l.queue, l.dispatcher]; exact h.queued
  begun := h.begun
  issued := l.issued.trans h.issued
  tickets := h.tickets
  serving := by rw [l.dispatcher]; exact h.serving
  behind := h.behind
  wants i t' buffer ht := h.wants i t' buffer (waited_leave l ht).2
  outstanding working := by rw [l.dispatcher, halted] at working; cases working
  replies := h.replies_leave l
  distinct := h.distinct_leave l
  receipts := h.receipts
  once := h.once
  kept r hr := by rw [unmet]; exact h.kept r hr

/-! ### What the dispatcher does -/

theorem take (h : Ledger c accepted taken answered received) {m : Message}
    (queue : c.queue = m :: next.queue) (issued : next.issued = c.issued)
    (replies : next.replies = c.replies) (clients : ∀ id, next.client id = c.client id)
    (alive : c.dispatcher ≠ .dead) (job : ∀ j, next.dispatcher.job? = some j → m = .job j)
    (there : c.dispatcher.isOver = false) :
    Ledger next accepted (taken ++ [m]) answered received where
  queued _ := by rw [h.queued alive, queue, List.append_assoc]; rfl
  begun := by
    rw [h.queued alive, queue]
    exact ⟨next.queue, by rw [List.append_assoc]; rfl⟩
  issued := issued.trans h.issued
  tickets := h.tickets
  serving j hj := ⟨taken, by rw [job j hj], h.behind⟩
  behind r hr := by
    rw [List.length_append]
    exact Nat.lt_add_right _ (h.behind r hr)
  wants id t buffer ht := h.wants id t buffer (by rwa [clients] at ht)
  outstanding _ j hj read := by
    rw [clients]
    refine h.outstanding there j (.inl ?_) read
    rw [queue]
    rcases hj with hj | hj
    · exact List.mem_cons_of_mem _ hj
    · rw [job j hj]
      exact List.mem_cons_self ..
  replies := h.replies_left (replies ▸ List.Subset.refl _) fun _ _ i _ ht => by rwa [clients i]
  distinct := by rw [replies]; exact h.distinct
  receipts := h.receipts
  once := h.once
  kept r hr := by rw [replies]; exact h.kept r hr

theorem answer (h : Ledger c accepted taken answered received) {j : Job} {bytes : List UInt8}
    (serving : c.dispatcher.job? = some j) (there : c.dispatcher.isOver = false)
    (read : j.operation.isRead = true) (queue : next.queue = c.queue)
    (issued : next.issued = c.issued) (replies : next.replies = c.replies ++ [(j.ticket, bytes)])
    (clients : ∀ id, next.client id = c.client id) (job : next.dispatcher.job? = none) :
    Ledger next accepted taken (answered ++ [(j.ticket, bytes)]) received := by
  have alive := alive_of_working there
  obtain ⟨last, ahead⟩ := h.ticket_serving alive serving
  obtain ⟨buffer, waits⟩ := h.outstanding there j (.inr serving) read
  refine ⟨fun _ => by rw [queue]; exact h.queued alive, h.begun, issued.trans h.issued, h.tickets,
    by rw [job]; nofun, ?behind, ?wants, ?outstanding, ?replies, ?distinct, ?receipts, h.once,
    ?kept⟩
  case behind =>
    intro r hr
    rcases List.mem_append.1 hr with hr | hr
    · exact h.behind r hr
    · rw [List.mem_singleton.1 hr, last]
      exact Nat.lt_succ_self _
  case wants =>
    intro id t buffer ht
    exact h.wants id t buffer (by rwa [clients] at ht)
  case outstanding =>
    intro _ i hi readi
    rw [clients]
    refine h.outstanding there i ?_ readi
    rw [queue, job] at hi
    exact hi.imp id nofun
  case replies =>
    intro r hr
    rw [replies] at hr
    rcases List.mem_append.1 hr with hr | hr
    · obtain ⟨answer, id, buffer, waits⟩ := h.replies r hr
      exact ⟨List.mem_append_left _ answer, id, buffer, by rwa [clients]⟩
    · refine ⟨List.mem_append_right _ hr, j.client, buffer, ?_⟩
      rw [clients, List.mem_singleton.1 hr]
      exact waits
  case distinct =>
    rw [replies, List.map_append, List.nodup_append]
    refine ⟨h.distinct, List.pairwise_singleton .., fun a ha b hb => ?_⟩
    obtain ⟨r, hr, rfl⟩ := List.mem_map.1 ha
    obtain rfl : b = j.ticket := by simpa using hb
    exact Nat.ne_of_lt (ahead r (h.replies r hr).1)
  case receipts =>
    intro x hx
    obtain ⟨answer, rest⟩ := h.receipts x hx
    exact ⟨List.mem_append_left _ answer, rest⟩
  case kept =>
    intro r hr
    rw [replies]
    rcases List.mem_append.1 hr with hr | hr
    · rcases h.kept r hr with reply | got
      · exact .inl (List.mem_append_left _ reply)
      · exact .inr got
    · exact .inl (List.mem_append_right _ hr)

theorem die (h : Ledger c accepted taken answered received) (issued : next.issued = c.issued)
    (replies : next.replies = c.replies) (clients : ∀ id, next.client id = c.client id)
    (dead : next.dispatcher = .dead) : Ledger next accepted taken answered received where
  queued hd := absurd dead hd
  begun := h.begun
  issued := issued.trans h.issued
  tickets := h.tickets
  serving j hj := by rw [dead] at hj; cases hj
  behind := h.behind
  wants id t buffer ht := h.wants id t buffer (by rwa [clients] at ht)
  outstanding halted := by rw [dead] at halted; cases halted
  replies := h.replies_left (replies ▸ List.Subset.refl _) fun _ _ i _ ht => by rwa [clients i]
  distinct := by rw [replies]; exact h.distinct
  receipts := h.receipts
  once := h.once
  kept r hr := by rw [replies]; exact h.kept r hr

end Ledger

/-! ## Every turn keeps the ledger -/

variable {c next : Control} {id : ClientId} {who : Actor} {events : List Event}
  {accepted taken : List Message} {answered : List (Ticket × List UInt8)}
  {received : List (Actor × Ticket × List UInt8)}

theorem Turn.told {e : Deed} {d : Client} (h : Turn c id e d events) :
    match e with
    | .push m => events = [.accepted m]
    | .collect t => ∃ bytes, c.reply? t = some bytes ∧ events = [.received t bytes]
    | _ => ∀ x ∈ events, x.isPlain = true := by
  cases h
  case send s h => rfl
  case stop h => rfl
  case collect t buffer bytes h come => exact ⟨bytes, come, rfl⟩
  all_goals first
    | assumption
    | exact fun x hx => absurd hx List.not_mem_nil

/-- The read that a client waits for after one of its turns. -/
theorem Turn.wants {e : Deed} {d : Client} (h : Turn c id e d events) :
    match e with
    | .push m => (c.client id).task.wants? = none ∧
      ((∃ s, m = c.message id s ∧ (c.client id).task.submission? = some s ∧
          d.task = .leaving s (some c.issued)) ∨
        m = .stop ∧ d.task.wants? = none)
    | .collect t => d.task.wants? = none ∧ ∃ buffer, (c.client id).task.wants? = some (t, buffer)
    | _ => d.task.wants? = (c.client id).task.wants? ∨
      d.task.wants? = none ∧ ∃ t buffer, (c.client id).task.wants? = some (t, buffer) ∧
        c.reply? t = none ∧ c.dispatcher.isOver = true := by
  cases h
  case send s h => exact ⟨by rw [h]; rfl, .inl ⟨s, rfl, by rw [h]; rfl, rfl⟩⟩
  case stop h => exact ⟨by rw [h]; rfl, .inr ⟨rfl, rfl⟩⟩
  case collect t buffer bytes h come => exact ⟨rfl, buffer, by rw [h]; rfl⟩
  case unanswered t buffer h unmet halted =>
    exact .inr ⟨rfl, t, buffer, by rw [h]; rfl, unmet, halted⟩
  case opens h there ht => exact .inl (by rw [h]; cases ht <;> rfl)
  case rehold p h => exact .inl (by rw [h]; cases p <;> rfl)
  case hold p h => exact .inl (by rw [h]; cases p <;> rfl)
  case admitted s h => exact .inl (by rw [h]; cases s <;> rfl)
  case refuse s h halted => exact .inl (by rw [h]; cases s <;> rfl)
  case await o buffer t h read => exact .inl (by rw [h]; exact (if_pos read).symm)
  case queued o buffer t h read =>
    exact .inl (by rw [h]; exact (if_neg (by rw [read]; exact Bool.false_ne_true)).symm)
  all_goals exact .inl (by rw [‹(c.client id).task = _›]; rfl)

theorem wants_turned (c : Control) (e : Deed) (d : Client) {j : ClientId} (other : j ≠ id) :
    (((e.apply c id).put id d).client j).task.wants? = (c.client j).task.wants? := by
  rw [client_turned, if_neg other]

theorem client_turned_self (c : Control) (e : Deed) (d : Client) :
    ((e.apply c id).put id d).client id = d := by
  rw [client_turned, if_pos rfl]

/-- A turn in which a client puts a message on the queue. -/
theorem Pushes.of_turn {m : Message} {d : Client} (turn : Turn c id (.push m) d events)
    (working : c.dispatcher.isOver = false)
    (submissions : ∀ s, (c.client id).task.submission? = some s → s.Fits c.setup) :
    Pushes c ((Deed.apply c id (.push m)).put id d) id m := by
  have self : ((Deed.apply c id (.push m)).put id d).client id = d := client_turned_self ..
  have others (j : ClientId) (other : j ≠ id) := wants_turned c (.push m) d other
  obtain ⟨before, sends⟩ := turn.wants
  -- after a message that is no job the client waits for no bytes
  have silent (after : d.task.wants? = none) (other : ∀ j, m ≠ .job j) :
      Pushes c ((Deed.apply c id (.push m)).put id d) id m := by
    refine ⟨rfl, rfl, rfl, rfl, working, others, before, fun j hj => absurd hj (other j), ?_,
      fun j hj => absurd hj (other j)⟩
    intro t buffer ht
    rw [self, after] at ht
    cases ht
  rcases sends with ⟨s, rfl, sends, leaves⟩ | ⟨rfl, after⟩
  · cases s with
    | park => exact silent (by rw [leaves]; rfl) nofun
    | job o b =>
      have length : o.isRead = true → o.length = b.length := (submissions _ sends).2
      refine ⟨rfl, rfl, rfl, rfl, working, others, before, ?_, ?_, ?_⟩
      · rintro j ⟨⟩
        rfl
      · intro t buffer ht
        rw [self, leaves] at ht
        simp only [Task.wants?] at ht
        split at ht
        next read =>
          cases ht
          exact ⟨rfl, _, rfl, rfl, read, length read⟩
        · cases ht
      · rintro j ⟨⟩ read
        rw [self, leaves]
        exact ⟨rfl, b, if_pos read⟩
  · exact silent after nofun

theorem Leaves.of_turn {t : Ticket} {d : Client} (turn : Turn c id (.collect t) d events) :
    Leaves c ((Deed.apply c id (.collect t)).put id d) id t := by
  obtain ⟨after, before⟩ := turn.wants
  exact ⟨rfl, rfl, rfl, rfl, fun j other => wants_turned c _ d other, before,
    by rw [client_turned_self]; exact after⟩

theorem replies_of_unmet {t : Ticket} (unmet : c.reply? t = none) :
    c.replies = c.replies.filter fun r => r.1 != t := by
  rw [Control.reply?, Option.map_eq_none_iff, List.find?_eq_none] at unmet
  refine (List.filter_eq_self.2 fun r hr => ?_).symm
  simpa using unmet r hr

/-- A turn of a client that is nothing to the ledger, except that the client may give up. -/
theorem Ledger.plain_turn {e : Deed} {d : Client}
    (ledger : Ledger c accepted taken answered received)
    (plain : ∀ x ∈ events, x.isPlain = true)
    (queue : (e.apply c id).queue = c.queue) (issued : (e.apply c id).issued = c.issued)
    (replies : (e.apply c id).replies = c.replies)
    (wants : d.task.wants? = (c.client id).task.wants? ∨
      d.task.wants? = none ∧ ∃ t buffer, (c.client id).task.wants? = some (t, buffer) ∧
        c.reply? t = none ∧ c.dispatcher.isOver = true) :
    Ledger ((e.apply c id).put id d) (accepted ++ acceptedIn (toldBy (.client id) events)) taken
      answered (received ++ receivedIn (toldBy (.client id) events)) := by
  obtain ⟨ha, -, -, hr⟩ := told_unbooked (.client id) fun e he =>
    Event.unbooked_of_plain (plain e he)
  rw [ha, hr, List.append_nil, List.append_nil]
  have place : ((e.apply c id).put id d).dispatcher = c.dispatcher := dispatcher_apply c id e
  rcases wants with same | ⟨after, t, buffer, before, unmet, halted⟩
  · refine ledger.keep queue issued replies (by rw [place]; exact fun h => h)
      (by rw [place]; exact fun _ h => h) (by rw [place]; exact fun h => h) fun j => ?_
    by_cases hj : j = id
    · rw [hj, client_turned_self, same]
    · exact wants_turned c e d hj
  · exact ledger.forsake ⟨queue, issued, replies.trans (replies_of_unmet unmet), place,
      fun j other => wants_turned c e d other, ⟨buffer, before⟩,
      by rw [client_turned_self]; exact after⟩ halted replies

theorem Turns.ledger (h : Turns c id next events)
    (ledger : Ledger c accepted taken answered received)
    (submissions : ∀ s, (c.client id).task.submission? = some s → s.Fits c.setup) :
    Ledger next (accepted ++ acceptedIn (toldBy (.client id) events)) taken answered
      (received ++ receivedIn (toldBy (.client id) events)) := by
  obtain ⟨e, d, turn, allowed, rfl⟩ := h
  have told := turn.told
  have wants := turn.wants
  cases e with
  | push m =>
    obtain rfl : events = [.accepted m] := told
    have noted : acceptedIn (toldBy (.client id) [.accepted m]) = [m] ∧
      receivedIn (toldBy (.client id) [.accepted m]) = [] := ⟨rfl, rfl⟩
    rw [noted.1, noted.2, List.append_nil]
    exact ledger.push (.of_turn turn allowed.1 submissions)
  | collect t =>
    obtain ⟨bytes, come, rfl⟩ := told
    have noted : acceptedIn (toldBy (.client id) [.received t bytes]) = [] ∧
      receivedIn (toldBy (.client id) [.received t bytes]) = [(.client id, t, bytes)] := ⟨rfl, rfl⟩
    rw [noted.1, noted.2, List.append_nil]
    exact ledger.collect (.of_turn turn) come
  | _ => exact ledger.plain_turn told rfl rfl rfl wants

/-- The dispatcher takes no turn after its end. -/
theorem DispatcherTurn.isOver (h : DispatcherTurn c next events) : c.dispatcher.isOver = false := by
  cases h
  case abort h => rcases h with ⟨j, s, h⟩ | ⟨l, s, h⟩ <;> rw [h] <;> rfl
  case unwind h => rcases h with ⟨j, s, h⟩ | ⟨l, s, h⟩ <;> rw [h] <;> rfl
  all_goals rw [‹c.dispatcher = _›]; rfl

/-- A turn of the dispatcher keeps the ledger. -/
theorem DispatcherTurn.ledger (h : DispatcherTurn c next events)
    (ledger : Ledger c accepted taken answered received) :
    Ledger next accepted (taken ++ takenIn (toldBy .dispatcher events))
      (answered ++ answeredIn (toldBy .dispatcher events)) received := by
  have clients := h.client
  have working := h.isOver
  have alive := alive_of_working working
  -- a turn that is nothing to the ledger
  have keep (plain : ∀ e ∈ events, e.isPlain = true)
      (queue : next.queue = c.queue) (issued : next.issued = c.issued)
      (replies : next.replies = c.replies)
      (job : ∀ j, next.dispatcher.job? = some j → c.dispatcher.job? = some j) :
      Ledger next accepted (taken ++ takenIn (toldBy .dispatcher events))
        (answered ++ answeredIn (toldBy .dispatcher events)) received := by
    obtain ⟨-, ht, ha, -⟩ := told_unbooked .dispatcher fun e he =>
      Event.unbooked_of_plain (plain e he)
    rw [ht, ha, List.append_nil, List.append_nil]
    exact ledger.keep queue issued replies (fun _ => alive) job (fun _ => working) fun j => by
      rw [clients]
  -- a turn that takes a message off the queue
  have take {m : Message} {rest : List Event} (here : events = .taken m :: rest)
      (plain : ∀ e ∈ rest, e.isPlain = true) (queue : c.queue = m :: next.queue)
      (issued : next.issued = c.issued) (replies : next.replies = c.replies)
      (job : ∀ j, next.dispatcher.job? = some j → m = .job j) :
      Ledger next accepted (taken ++ takenIn (toldBy .dispatcher events))
        (answered ++ answeredIn (toldBy .dispatcher events)) received := by
    obtain ⟨-, ht, ha, -⟩ := told_unbooked .dispatcher fun e he =>
      Event.unbooked_of_plain (plain e he)
    have taken : takenIn (toldBy .dispatcher events) = m :: takenIn (toldBy .dispatcher rest) := by
      rw [here]; rfl
    have answered : answeredIn (toldBy .dispatcher events) =
        answeredIn (toldBy .dispatcher rest) := by rw [here]; rfl
    rw [taken, answered, ht, ha, List.append_nil]
    exact ledger.take queue issued replies clients alive job working
  have silent : ∀ e ∈ ([] : List Event), e.isPlain = true := List.forall_mem_nil _
  cases h
  case takeJob j rest h queue =>
    exact take rfl (by simp [Event.isPlain]) queue rfl rfl fun _ hj => by cases hj; rfl
  case takePark id rest h queue line =>
    exact take rfl (by simp [Event.isPlain]) queue rfl rfl fun _ hj => by cases hj
  case takeStop rest h queue => exact take rfl silent queue rfl rfl fun _ hj => by cases hj
  case claim j h free => exact keep silent rfl rfl rfl (by rw [h]; exact fun _ hj => hj)
  case serveOn j s rest h => exact keep silent rfl rfl rfl (by rw [h]; exact fun _ hj => hj)
  case served j s bytes h =>
    unfold Control.served at clients keep ⊢
    split at clients
    next read =>
      rw [if_pos read]
      have told : takenIn (toldBy .dispatcher [.answered j.ticket bytes]) = [] ∧
        answeredIn (toldBy .dispatcher [.answered j.ticket bytes]) = [(j.ticket, bytes)] :=
        ⟨rfl, rfl⟩
      rw [told.1, told.2, List.append_nil]
      exact ledger.answer (by rw [h]; rfl) working read rfl rfl rfl clients rfl
    next read =>
      rw [if_neg read] at keep ⊢
      exact keep silent rfl rfl rfl fun _ hj => by cases hj
  case die h =>
    have told : takenIn (toldBy .dispatcher []) = [] ∧ answeredIn (toldBy .dispatcher []) = [] :=
      ⟨rfl, rfl⟩
    rw [told.1, told.2, List.append_nil, List.append_nil]
    exact ledger.die rfl rfl clients rfl
  -- all other turns leave the queue, the replies and the clients, and no job is at hand after them
  all_goals
    refine keep ?_ rfl rfl rfl fun _ hj => by cases hj
    assumption

theorem DispatcherTurn.books (h : DispatcherTurn c next events) :
    acceptedIn (toldBy .dispatcher events) = [] ∧ receivedIn (toldBy .dispatcher events) = [] := by
  have plain (h : ∀ e ∈ events, e.isPlain = true) : acceptedIn (toldBy .dispatcher events) = [] ∧
      receivedIn (toldBy .dispatcher events) = [] := by
    obtain ⟨ha, -, -, hr⟩ := told_unbooked .dispatcher fun e he =>
      Event.unbooked_of_plain (h e he)
    exact ⟨ha, hr⟩
  cases h
  case served j s bytes h =>
    unfold Control.served
    split <;> exact ⟨rfl, rfl⟩
  all_goals first
    | exact plain ‹_›
    | exact ⟨rfl, rfl⟩

theorem Turns.books (h : Turns c id next events) :
    takenIn (toldBy (.client id) events) = [] ∧ answeredIn (toldBy (.client id) events) = [] := by
  obtain ⟨e, d, turn, -, -⟩ := h
  have told := turn.told
  cases e with
  | push m =>
    obtain rfl : events = [.accepted m] := told
    exact ⟨rfl, rfl⟩
  | collect t =>
    obtain ⟨bytes, -, rfl⟩ := told
    exact ⟨rfl, rfl⟩
  | _ =>
    obtain ⟨-, ht, ha, -⟩ := told_unbooked (.client id) fun e he =>
      Event.unbooked_of_plain (told e he)
    exact ⟨ht, ha⟩

end Control

/-! ## Runs -/

namespace Gate

variable {σ : Type} {T : Transport σ} {env : σ → σ → Prop} {g₀ g g' : Gate σ}

/-- The ledger of a gate stands. -/
def Balanced (g : Gate σ) : Prop :=
  g.control.Ledger (acceptedIn g.bus.journal.toList) (takenIn g.bus.journal.toList)
    (answeredIn g.bus.journal.toList) (receivedIn g.bus.journal.toList)

theorem Step.balanced (h : Step T g g') (sound : g.control.Sound) (balanced : g.Balanced) :
    g'.Balanced := by
  obtain ⟨who, traffic, events, plain, journal, goes⟩ := h.goes
  obtain ⟨ha, ht, hn, hr⟩ := booked_append plain journal
  rw [Balanced, ha, ht, hn, hr]
  cases goes with
  | dispatcher h =>
    obtain ⟨accepted, received⟩ := h.books
    rw [accepted, received, List.append_nil, List.append_nil]
    exact h.ledger balanced
  | @client id _ _ h =>
    obtain ⟨taken, answered⟩ := h.books
    rw [taken, answered, List.append_nil, List.append_nil]
    exact h.ledger balanced (sound.fitting.submissions id)

theorem balanced_opened (setup : Setup) {b : Bus σ}
    (fresh : acceptedIn b.journal.toList = [] ∧ takenIn b.journal.toList = [] ∧
      answeredIn b.journal.toList = [] ∧ receivedIn b.journal.toList = []) :
    Balanced (⟨{ setup }, b⟩ : Gate σ) := by
  obtain ⟨ha, ht, hn, hr⟩ := fresh
  have idle (j : ClientId) : (({ setup } : Control).client j).task.wants? = none := rfl
  rw [Balanced, ha, ht, hn, hr]
  constructor <;> simp [idle, Dispatcher.job?]

/-- All along a run the ledger stands. -/
theorem balanced_of_reach (hr : Reach T env g₀ g) (sound : g₀.control.Sound)
    (balanced : g₀.Balanced) : g.control.Sound ∧ g.Balanced := by
  induction hr with
  | refl => exact ⟨sound, balanced⟩
  | step _ move ih =>
    obtain ⟨_, _, _, _, _, goes⟩ := move.goes
    exact ⟨goes.sound ih.1, move.balanced ih.1 ih.2⟩
  | outside _ _ ih => exact ih

end Gate

end FlashGate

/-
The sentinel of a park on its way. Main statements: `Goes.asked`, that every turn keeps the
sentinels, their owner and what the dispatcher has taken in accord, and `Goes.handover`, that a turn
leaves the park handshake alone or moves it in one of five ways.
-/
import FlashGate.Proofs.Gateway.Ledger

namespace FlashGate

/-- Whether the client has found no taker for the sentinel of its window. -/
def Task.isRefused : Task → Bool
  | .leaving .park none => true
  | .withdrawing => true
  | _ => false

theorem Dispatcher.stopped_of_isOver {d : Dispatcher} (halted : d.isOver = true)
    (sane : d.isFaulted = false) : d = .stopped := by
  cases d <;> simp_all [Dispatcher.isOver, Dispatcher.isFaulted]

theorem Dispatcher.stops_of_isOver {d : Dispatcher} (halted : d.isOver = true)
    (sane : d.isFaulted = false) : d.stops = true := by
  rw [stopped_of_isOver halted sane]
  rfl

namespace Control

/-- The sentinels are those of the owner of the handshake, and the last message taken is the one
that the dispatcher parks for. -/
structure Asked (c : Control) (taken : List Message) : Prop where
  queued : ∀ i, .park i ∈ c.queue → c.park.owner = some i
  parks : c.dispatcher.parks = true → ∃ before o, taken = before ++ [.park o] ∧
    c.park.owner = some o
  onWay : ∀ id, c.role id = .sent → c.park.state = .requested → c.dispatcher.isFaulted = false →
    c.sentinels ≠ 0
  refused : ∀ id, (c.client id).task.isRefused = true → c.dispatcher.isOver = true

variable {c next : Control} {id : ClientId} {e : Deed} {d : Client} {events : List Event}
  {who : Actor} {taken : List Message}

/-! ## Sentinels on their way -/

theorem sentinels_of_queued {i : ClientId} (h : .park i ∈ c.queue) : c.sentinels ≠ 0 := by
  have : 0 < c.queue.countP Message.isPark := List.countP_pos_iff.2 ⟨_, h, rfl⟩
  unfold sentinels
  omega

theorem sentinels_of_parks (h : c.dispatcher.parks = true) : c.sentinels ≠ 0 := by
  unfold sentinels
  rw [if_pos h]
  omega

/-- While a sentinel is on its way no client moves the handshake. -/
theorem Turn.park_of_sentinels (h : Turn c id e d events) (allowed : e.Allowed c id)
    (hs : Handshake c) (onWay : c.sentinels ≠ 0) :
    ((e.apply c id).put id d).park = c.park := by
  obtain ⟨-, state, -⟩ := hs.sentinel onWay
  have role := h.role
  cases e with
  | request =>
    have running : c.park.state = .running := allowed
    rw [state] at running
    cases running
  | withdraw => exact absurd (hs.asks id role.1).2.2 onWay
  | resume =>
    have parked : c.park.state = .parked := allowed
    rw [state] at parked
    cases parked
  | _ => rfl

/-- Only a client that puts the sentinel on the queue has sent it, or it has before. -/
theorem Turn.sent (h : Turn c id e d events) (sent : d.task.role = .sent) :
    e = .push (.park id) ∨ c.role id = .sent ∧ ∀ m, e ≠ .push m := by
  have role := h.role
  rw [sent] at role
  cases e with
  | push m =>
    cases m with
    | park i =>
      obtain ⟨rfl, -⟩ := role
      exact .inl rfl
    | job j => cases role.2
    | stop => cases role.2
  | request => cases role.2
  | withdraw => cases role.2
  | resume => rcases role with ⟨-, h⟩ | ⟨-, h⟩ <;> cases h
  | retire => cases role.2
  | _ => exact .inr ⟨by simp_all [RoleTurn], by simp⟩

theorem Turn.refused (h : Turn c id e d events) (refused : d.task.isRefused = true) :
    (c.client id).task.isRefused = true ∨ c.dispatcher.isOver = true := by
  cases h <;> simp_all [Task.isRefused, Client.goTo, Client.answered, Client.holding]
  case opens ht => cases ht <;> simp_all
  case rehold p _ => cases p <;> simp_all
  case hold p _ => cases p <;> simp_all

/-- A sentinel that has been sent is still to come upon after a turn of a client. -/
theorem Turn.sentinels_of_sent (turn : Turn c id e d events) (allowed : e.Allowed c id)
    (hs : Handshake c) (asked : Asked c taken) {j : ClientId}
    (sent : ((e.apply c id).put id d).role j = .sent)
    (requested : ((e.apply c id).put id d).park.state = .requested)
    (sane : c.dispatcher.isFaulted = false) : ((e.apply c id).put id d).sentinels ≠ 0 := by
  have place : ((e.apply c id).put id d).dispatcher = c.dispatcher := dispatcher_apply c id e
  have role := turn.role
  rw [role_turned] at sent
  -- who has sent the sentinel before owns the handshake, so nobody has asked anew
  have old (h : c.role j = .sent) (hp : ((e.apply c id).put id d).park = c.park)
      (hq : ((e.apply c id).put id d).queue = c.queue) :
      ((e.apply c id).put id d).sentinels ≠ 0 := by
    have same : ((e.apply c id).put id d).sentinels = c.sentinels := by
      rw [sentinels, hq, place]
      rfl
    rw [same]
    rw [hp] at requested
    exact asked.onWay j h requested sane
  have before : e = .push (.park id) ∨ c.role j = .sent := by
    split at sent
    next hj =>
      rcases turn.sent sent with pushed | ⟨before, -⟩
      · exact .inl pushed
      · exact .inr (by rw [hj]; exact before)
    · exact .inr sent
  have grown (m : Message) (hm : e = .push m) :
      ((e.apply c id).put id d).sentinels = c.sentinels + if m.isPark then 1 else 0 := by
    subst hm
    exact sentinels_push rfl rfl
  cases e with
  | push m =>
    rw [grown m rfl]
    rcases before with pushed | before
    · cases pushed
      exact Nat.succ_ne_zero _
    · have := asked.onWay j before requested sane
      omega
  | request =>
    have running : c.park.state = .running := allowed
    rcases before with pushed | before
    · cases pushed
    · have := hs.sent j before
      rw [hs.owner.1 running] at this
      cases this
  | withdraw =>
    have state := (hs.asks id role.1).1
    have requested : (if c.park.state = .requested then ({} : Park) else c.park).state =
      .requested := requested
    rw [if_pos state] at requested
    cases requested
  | resume => cases requested
  | _ =>
    rcases before with pushed | before
    · cases pushed
    · exact old before rfl rfl

theorem Turns.asked (h : Turns c id next events) (hs : Handshake c) (asked : Asked c taken) :
    Asked next taken := by
  obtain ⟨e, d, turn, allowed, rfl⟩ := h
  have place : ((e.apply c id).put id d).dispatcher = c.dispatcher := dispatcher_apply c id e
  have park := turn.park_of_sentinels allowed hs
  have role := turn.role
  refine ⟨fun i hi => ?_, fun parks => ?_, fun j sent requested sane => ?_, fun j refused => ?_⟩
  · have old (hi : .park i ∈ c.queue) : ((e.apply c id).put id d).park.owner = some i := by
      rw [park (sentinels_of_queued hi)]
      exact asked.queued i hi
    cases e with
    | push m =>
      rcases List.mem_append.1 (show Message.park i ∈ c.queue ++ [m] from hi) with hi | hi
      · exact old hi
      · obtain rfl := List.mem_singleton.1 hi
        obtain ⟨rfl, asks, -⟩ := role
        exact (hs.asks i asks).2.1
    | _ => exact old hi
  · rw [place] at parks
    rw [park (sentinels_of_parks parks)]
    exact asked.parks parks
  · rw [place] at sane
    exact turn.sentinels_of_sent allowed hs asked sent requested sane
  · rw [place]
    rw [client_turned] at refused
    split at refused
    · rcases turn.refused refused with before | halted
      · exact asked.refused id before
      · exact halted
    · exact asked.refused j refused

/-! ## The dispatcher -/

theorem DispatcherTurn.isFaulted (h : DispatcherTurn c next events)
    (sane : next.dispatcher.isFaulted = false) : c.dispatcher.isFaulted = false := by
  cases h
  case served j s bytes h => rw [h]; rfl
  all_goals first
    | cases sane; done
    | rw [‹c.dispatcher = _›]; rfl

theorem Goes.isFaulted (h : c.Goes who next events) (sane : next.dispatcher.isFaulted = false) :
    c.dispatcher.isFaulted = false := by
  cases h with
  | dispatcher h => exact h.isFaulted sane
  | client h => rwa [h.dispatcher.1] at sane

/-- The dispatcher loses no sentinel but by a fault. -/
theorem DispatcherTurn.sentinels_eq (h : DispatcherTurn c next events)
    (sane : next.dispatcher.isFaulted = false) :
    next.sentinels = c.sentinels ∨ c.dispatcher = .announcing := by
  cases h
  case served j s bytes h =>
    unfold Control.served
    split <;> exact .inl (by simp [Control.sentinels, h, Dispatcher.parks])
  case takePark i rest h queue line =>
    exact .inl (by
      simp [Control.sentinels, h, queue, Dispatcher.parks, List.countP_cons, Message.isPark])
  case claimRelease l h free =>
    exact .inl (by cases l <;> simp [Control.sentinels, h, Dispatcher.parks])
  case releaseOn l s rest h =>
    exact .inl (by cases l <;> simp [Control.sentinels, h, Dispatcher.parks])
  case released l s h => exact .inl (by cases l <;> simp [Control.sentinels, h, Dispatcher.parks])
  case announce h => exact .inr h
  all_goals first
    | cases sane; done
    | exact .inl (by simp_all [Control.sentinels, Dispatcher.parks, Message.isPark])

theorem DispatcherTurn.park_of_announcing (h : DispatcherTurn c next events)
    (there : c.dispatcher = .announcing) : next.park.state = .parked := by
  cases h
  case announce => rfl
  case abort h => rcases h with ⟨j, s, h⟩ | ⟨l, s, h⟩ <;> rw [h] at there <;> cases there
  case unwind h => rcases h with ⟨j, s, h⟩ | ⟨l, s, h⟩ <;> rw [h] at there <;> cases there
  all_goals simp_all

/-- The dispatcher is on the way to a park for the sentinel that it takes, or has been. -/
theorem DispatcherTurn.parks (h : DispatcherTurn c next events)
    (parks : next.dispatcher.parks = true) :
    c.dispatcher.parks = true ∧ takenIn (toldBy .dispatcher events) = [] ∨
      ∃ i, .park i ∈ c.queue ∧ takenIn (toldBy .dispatcher events) = [.park i] := by
  cases h
  case takePark i rest h queue line =>
    exact .inr ⟨i, by rw [queue]; exact List.mem_cons_self .., rfl⟩
  case served j s bytes h =>
    unfold Control.served at parks
    split at parks <;> cases parks
  case claimRelease l h free =>
    refine .inl ⟨?_, rfl⟩
    cases l with
    | park => rw [h]; rfl
    | stop => cases parks
  case releaseOn l s rest h =>
    refine .inl ⟨?_, rfl⟩
    cases l with
    | park => rw [h]; rfl
    | stop => cases parks
  case released l s h =>
    refine .inl ⟨?_, rfl⟩
    cases l with
    | park => rw [h]; rfl
    | stop => cases parks
  case detachPark h => exact .inl ⟨by rw [h]; rfl, rfl⟩
  all_goals cases parks

theorem DispatcherTurn.asked (h : DispatcherTurn c next events) (asked : Asked c taken) :
    Asked next (taken ++ takenIn (toldBy .dispatcher events)) := by
  have client := h.client
  have owner : next.park.owner = c.park.owner := by
    rcases h.park with ⟨park, -⟩ | ⟨-, park, -⟩ <;> rw [park]
  refine ⟨fun i hi => ?_, fun parks => ?_, fun j sent requested sane => ?_, fun j refused => ?_⟩
  · rw [owner]
    refine asked.queued i ?_
    rcases h.queue with ⟨hq, -⟩ | ⟨m, hq, -⟩ | ⟨hq, -⟩
    · rwa [← hq]
    · rw [hq]
      exact List.mem_cons_of_mem _ hi
    · rw [hq] at hi
      cases hi
  · rw [owner]
    rcases h.parks parks with ⟨before, none⟩ | ⟨i, queued, told⟩
    · rw [none, List.append_nil]
      exact asked.parks before
    · exact ⟨taken, i, by rw [told], asked.queued i queued⟩
  · rw [role, client] at sent
    rcases h.park with ⟨park, -⟩ | ⟨-, park, -⟩
    · rw [park] at requested
      have onWay := asked.onWay j sent requested (h.isFaulted sane)
      rcases h.sentinels_eq sane with same | announcing
      · rwa [same]
      · -- the announcement moves the state
        have state : next.park.state = .parked := h.park_of_announcing announcing
        rw [park, requested] at state
        cases state
    · rw [park] at requested
      cases requested
  · rw [client] at refused
    have before := asked.refused j refused
    rw [h.isOver] at before
    cases before

/-- Every turn keeps the sentinels in accord. -/
theorem Goes.asked (h : c.Goes who next events) (hs : Handshake c) (asked : Asked c taken) :
    Asked next (taken ++ takenIn (toldBy who events)) := by
  cases h with
  | dispatcher h => exact h.asked asked
  | client h =>
    rw [h.books.1, List.append_nil]
    exact h.asked hs asked

theorem asked_opened (setup : Setup) : Asked { setup } [] := by
  have client (j : ClientId) : ({ setup } : Control).client j = {} := rfl
  constructor <;> simp [client, role, Task.role, Task.isRefused, Dispatcher.parks]

/-! ## Moves of the handshake -/

/-- What a turn does to the park handshake. -/
inductive Handover (c next : Control) : Actor → Prop where
  /-- Nothing. -/
  | same {who : Actor} (h : next.park = c.park) : Handover c next who
  /-- A client asks for the park and is its owner from then on. -/
  | request (id : ClientId) (there : (c.client id).task = .requesting)
    (before : c.park = ⟨.running, none⟩) (after : next.park = ⟨.requested, some id⟩) :
    Handover c next (.client id)
  /-- The owner takes its request back, as there is no dispatcher any more. -/
  | cancel (id : ClientId) (there : (c.client id).task = .withdrawing)
    (gone : c.dispatcher.isOver = true) (before : c.park = ⟨.requested, some id⟩)
    (after : next.park = ⟨.running, none⟩) : Handover c next (.client id)
  /-- The dispatcher, come upon the sentinel, parks. -/
  | park (id : ClientId) (there : c.dispatcher = .announcing)
    (before : c.park = ⟨.requested, some id⟩) (after : next.park = ⟨.parked, some id⟩) :
    Handover c next .dispatcher
  /-- The owner ends the park. -/
  | shutDown (id : ClientId) (there : (c.client id).task = .resuming .shutdown)
    (before : c.park = ⟨.parked, some id⟩) (after : next.park = ⟨.running, none⟩) :
    Handover c next (.client id)
  /-- The client that drops the gate ends the park. -/
  | drop (id o : ClientId) (there : (c.client id).task = .resuming .drop)
    (dropped : c.dropped = true) (before : c.park = ⟨.parked, some o⟩)
    (after : next.park = ⟨.running, none⟩) : Handover c next (.client id)

theorem Handshake.owned (hs : Handshake c) (begun : c.park.state ≠ .running) :
    ∃ o, c.park = ⟨c.park.state, some o⟩ := by
  cases ho : c.park.owner with
  | none => exact absurd (hs.owner.2 ho) begun
  | some o => exact ⟨o, by rw [← ho]⟩

theorem Turns.handover (h : Turns c id next events) (hs : Handshake c) (asked : Asked c taken) :
    Handover c next (.client id) := by
  obtain ⟨e, d, turn, allowed, rfl⟩ := h
  have role := turn.role
  cases e with
  | request =>
    have running : c.park.state = .running := allowed
    have before : c.park = ⟨.running, none⟩ := by
      rw [← running, ← hs.owner.1 running]
    cases turn with
    | request there => exact .request id there before rfl
  | withdraw =>
    obtain ⟨state, owner, -⟩ := hs.asks id role.1
    cases turn with
    | withdraw there a =>
      exact .cancel id there (asked.refused id (by rw [there]; rfl)) (by rw [← state, ← owner])
        (if_pos state)
  | resume =>
    have parked : c.park.state = .parked := allowed
    cases turn with
    | resume w there plain =>
      cases w with
      | shutdown =>
        obtain ⟨-, owner⟩ := hs.closes id (by rw [Control.role, there]; rfl)
        exact .shutDown id there (by rw [← parked, ← owner]) rfl
      | drop =>
        obtain ⟨o, owned⟩ := hs.owned (by rw [parked]; simp)
        rw [parked] at owned
        refine .drop id o there ?_ owned rfl
        cases gone : c.dropped with
        | true => rfl
        | false => exact absurd (by rw [Control.role, there]; rfl) (hs.there gone id).1
  | _ => exact .same rfl

/-- Every turn moves the handshake as it may, if at all. -/
theorem Goes.handover (h : c.Goes who next events) (hs : Handshake c) (asked : Asked c taken) :
    Handover c next who := by
  cases h with
  | client h => exact h.handover hs asked
  | dispatcher h =>
    rcases h.park with ⟨same, -⟩ | ⟨there, after, -, -⟩
    · exact .same same
    · have parks : c.dispatcher.parks = true := by rw [there]; rfl
      obtain ⟨-, state, -⟩ := hs.sentinel (sentinels_of_parks parks)
      obtain ⟨o, owned⟩ := hs.owned (by rw [state]; simp)
      rw [state] at owned
      exact .park o there owned (by rw [after, owned])

end Control

end FlashGate

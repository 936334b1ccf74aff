/-
A client that drops the gate, place by place. Nobody else is at work; a window that is open stays
so until the client has shut its hardware down, and until then the dispatcher sleeps; the stop
sentinel is sent once, when no park is asked for any more. Main statements: `Step.dropping` and
`Reach.dropping`, that every step and so every run keeps to this, and `Dropping.idle_of_rest`, that
no thread is left with a move only when the drop has returned.
-/
import FlashGate.Proofs.Parking

namespace FlashGate

/-- The shut-down of the fast-read hardware by a client. -/
def Entry.shutBy (id : ClientId) : Entry := ⟨.client id, .call .fastReadShutdown (.ok ())⟩

/-- The shut-down of the fast-read hardware is never answered with a fault. -/
def Transport.Shuts {σ : Type} (T : Transport σ) : Prop :=
  ∀ d, (T.perform d .fastReadShutdown).reply = .ok ()

/-- The dispatcher has done nothing. -/
def Still (added : List Entry) : Prop := ∀ e ∈ added, e.actor ≠ .dispatcher

/-- The dispatcher has done nothing before the client shut the fast-read hardware down. -/
def AfterShut (id : ClientId) (added : List Entry) : Prop :=
  ∀ before e after, added = before ++ e :: after → e.actor = .dispatcher → .shutBy id ∈ before

theorem Still.append {added more : List Entry} (h : Still added) (h' : Still more) :
    Still (added ++ more) := by
  intro e he
  rcases List.mem_append.1 he with he | he
  · exact h e he
  · exact h' e he

theorem still_toldBy (id : ClientId) (events : List Event) :
    Still (toldBy (.client id) events) := by
  intro e he
  obtain ⟨x, -, rfl⟩ := List.mem_map.1 he
  simp

theorem Still.afterShut {added : List Entry} (h : Still added) (id : ClientId) :
    AfterShut id added := by
  rintro before e after rfl actor
  exact absurd actor (h e (by simp))

theorem AfterShut.append {id : ClientId} {added : List Entry} (h : AfterShut id added)
    (shut : .shutBy id ∈ added) (more : List Entry) : AfterShut id (added ++ more) := by
  intro before e after split actor
  rcases List.append_eq_append_iff.1 split with ⟨rest, rfl, -⟩ | ⟨rest, rfl, tail⟩
  · exact List.mem_append_left _ shut
  · cases rest with
    | nil => simpa using shut
    | cons x rest =>
      obtain ⟨rfl, -⟩ := List.cons.inj tail
      exact h before e rest rfl actor

namespace Control

variable {c next : Control} {id : ClientId} {events : List Event} {added : List Entry}
  {opened : Prop}

/-- How far a client that drops the gate has come, told by its place, and what the journal has got
since it began; and whether a window was open then. -/
inductive Stride (id : ClientId) (opened : Prop) (c : Control) (added : List Entry) : Prop where
  /-- It has not looked for a window yet. -/
  | looks (there : (c.client id).task = .inspecting) (unsent : acceptedIn added = [])
    (window : opened ↔ c.park.state = .parked) (still : opened → Still added)
  /-- It is to shut a window down. -/
  | closes (there : (c.client id).task = .claimingClose .drop ∨
      (c.client id).task = .checkingClose .drop ∨
      (c.client id).task = .shutting .drop shutWindow) (unsent : acceptedIn added = [])
    (parked : c.park.state = .parked) (still : Still added)
  /-- It has shut a window down, and is to resume the dispatcher. -/
  | resumes (there : (c.client id).task = .shutting .drop (.done []) ∨
      (c.client id).task = .resuming .drop) (unsent : acceptedIn added = [])
    (parked : c.park.state = .parked) (still : Still added) (shut : .shutBy id ∈ added)
  /-- No window is open any more, and it is to send the stop sentinel. -/
  | stops (there : (∃ e, (c.client id).task = .detachingClose .drop e) ∨
      (c.client id).task = .stopping) (unsent : acceptedIn added = [])
    (running : c.park.state = .running)
    (shut : opened → .shutBy id ∈ added ∧ AfterShut id added)
  /-- It waits for the end of the dispatcher, or has seen it. -/
  | joins (there : (c.client id).task = .joining ∨ (c.client id).task = .idle ∧
      (c.client id).answer = some .done ∧ c.dispatcher.isOver = true)
    (running : c.park.state = .running)
    (shut : opened → .shutBy id ∈ added ∧ AfterShut id added)
    (sent : c.dispatcher.isFaulted = false → acceptedIn added = [.stop] ∧
      (.stop ∈ c.queue ∨ c.dispatcher.stops = true))

/-- A client drops the gate, and nobody else is at work. -/
structure Dropping (id : ClientId) (opened : Prop) (c : Control) (added : List Entry) : Prop where
  dropped : c.dropped = true
  alone : ∀ j, j ≠ id → (c.client j).task = .idle
  stride : Stride id opened c added

/-! ## The dispatcher -/

theorem Handshake.not_requested (hs : Handshake c) (dropped : c.dropped = true) :
    c.park.state ≠ .requested := by
  intro state
  cases ho : c.park.owner with
  | none =>
    rw [hs.owner.2 ho] at state
    cases state
  | some o =>
    have working := hs.requested o state ho
    rcases hs.gone dropped o with role | role | role <;> rw [role] at working <;>
      rcases working with h | h <;> cases h

theorem DispatcherTurn.park_of_dropped (h : DispatcherTurn c next events) (hs : Handshake c)
    (dropped : c.dropped = true) : next.park = c.park := by
  rcases h.park with ⟨same, -⟩ | ⟨announcing, -⟩
  · exact same
  · obtain ⟨-, state, -⟩ := hs.sentinel (sentinels_of_parks (by rw [announcing]; rfl))
    exact absurd state (hs.not_requested dropped)

theorem DispatcherTurn.stop_stays (h : DispatcherTurn c next events)
    (sane : next.dispatcher.isFaulted = false)
    (onWay : .stop ∈ c.queue ∨ c.dispatcher.stops = true) :
    .stop ∈ next.queue ∨ next.dispatcher.stops = true := by
  cases h
  case served j s bytes h =>
    unfold Control.served
    split <;> simp_all [Dispatcher.stops]
  case claimRelease l h free => cases l <;> simp_all [Dispatcher.stops]
  case releaseOn l s rest h => cases l <;> simp_all [Dispatcher.stops]
  case released l s h => cases l <;> simp_all [Dispatcher.stops]
  case abort => cases sane
  case unwind => cases sane
  case die => cases sane
  all_goals simp_all [Dispatcher.stops]

/-- A turn of the dispatcher leaves the client where it is. -/
theorem DispatcherTurn.dropping (h : DispatcherTurn c next events) (hs : Handshake c)
    (dropping : Dropping id opened c added) {more : List Entry} (silent : acceptedIn more = []) :
    Dropping id opened next (added ++ more) := by
  have park := h.park_of_dropped hs dropping.dropped
  have asleep (parked : c.park.state = .parked) : False :=
    h.not_parked (hs.parked parked) parked
  have task (j : ClientId) : (next.client j).task = (c.client j).task := by rw [h.client]
  have unsent (none : acceptedIn added = []) : acceptedIn (added ++ more) = [] := by
    rw [acceptedIn_append, none, silent]
    rfl
  refine ⟨h.dropped.trans dropping.dropped, fun j hj => by rw [task, dropping.alone j hj], ?_⟩
  cases dropping.stride with
  | looks there none window still =>
    exact .looks (by rw [task, there]) (unsent none) (by rw [park]; exact window)
      fun isOpen => (asleep (window.1 isOpen)).elim
  | closes _ _ parked => exact (asleep parked).elim
  | resumes _ _ parked => exact (asleep parked).elim
  | stops there none running shut =>
    exact .stops (by rwa [task]) (unsent none) (by rw [park, running]) fun isOpen =>
      ⟨List.mem_append_left _ (shut isOpen).1, (shut isOpen).2.append (shut isOpen).1 more⟩
  | joins there running shut sent =>
    refine .joins ?_ (by rw [park, running]) (fun isOpen =>
      ⟨List.mem_append_left _ (shut isOpen).1, (shut isOpen).2.append (shut isOpen).1 more⟩)
      fun sane => ?_
    · rcases there with there | ⟨-, -, halted⟩
      · exact .inl (by rw [task, there])
      · rw [h.isOver] at halted
        cases halted
    · obtain ⟨stop, onWay⟩ := sent (h.isFaulted sane)
      exact ⟨by rw [acceptedIn_append, stop, silent]; rfl, h.stop_stays sane onWay⟩

/-! ## The client -/

theorem client_place (c : Control) (id j : ClientId) (t : Task) :
    (c.place id t).client j = if j = id then (c.client id).goTo t else c.client j :=
  client_put c id j ((c.client id).goTo t)

theorem task_place (c : Control) (id : ClientId) (t : Task) :
    ((c.place id t).client id).task = t := by
  rw [client_place, if_pos rfl]
  rfl

theorem client_place_ne {j : ClientId} (c : Control) (other : j ≠ id) (t : Task) :
    (c.place id t).client j = c.client j := by
  rw [client_place, if_neg other]

/-! ## What a drop amounts to -/

theorem dropping_begin (hb : c.begin? id .drop = some next) :
    Dropping id (c.park.state = .parked) next [] := by
  have idle := idle_of_begin? hb
  unfold begin? at hb
  split at hb
  next may =>
    cases hb
    obtain ⟨-, quiet⟩ : c.dropped = false ∧ c.isQuiet id = true := by
      simpa [mayBegin, idle] using may
    refine ⟨rfl, fun j hj => ?_, .looks (task_place ..) rfl Iff.rfl fun _ e he => by cases he⟩
    show ((Control.place _ id .inspecting).client j).task = .idle
    rw [client_place_ne _ hj]
    exact (congrArg Client.task (Roster.get_set_ne _ hj _)).trans (isQuiet_idle quiet j hj)
  · cases hb

theorem Dropping.begin? (dropping : Dropping id opened c added) (i : ClientId) (k : Command) :
    c.begin? i k = none := by
  have may : c.mayBegin i k = false := by
    unfold mayBegin
    split <;> simp [dropping.dropped]
  unfold Control.begin?
  rw [may]
  rfl

theorem Dropping.accepted (dropping : Dropping id opened c added)
    (sane : c.dispatcher.isFaulted = false) :
    acceptedIn added = [] ∨ acceptedIn added = [.stop] := by
  cases dropping.stride with
  | looks _ unsent => exact .inl unsent
  | closes _ unsent => exact .inl unsent
  | resumes _ unsent => exact .inl unsent
  | stops _ unsent => exact .inl unsent
  | joins _ _ _ sent => exact .inr (sent sane).1

theorem Dropping.afterShut (dropping : Dropping id opened c added) (isOpen : opened) :
    AfterShut id added := by
  cases dropping.stride with
  | looks _ _ _ still => exact (still isOpen).afterShut id
  | closes _ _ _ still => exact still.afterShut id
  | resumes _ _ _ still => exact still.afterShut id
  | stops _ _ _ shut => exact (shut isOpen).2
  | joins _ _ shut => exact (shut isOpen).2

/-- When the drop has returned, the dispatcher has ended as asked and no park is asked for. -/
theorem Dropping.stopped (dropping : Dropping id opened c added) (hs : Handshake c)
    (sane : c.dispatcher.isFaulted = false) (idle : (c.client id).task = .idle) :
    c.dispatcher = .stopped ∧ c.park = {} ∧ acceptedIn added = [.stop] ∧
      (c.client id).answer = some .done := by
  cases dropping.stride with
  | looks there => rw [idle] at there; cases there
  | closes there => rw [idle] at there; rcases there with h | h | h <;> cases h
  | resumes there => rw [idle] at there; rcases there with h | h <;> cases h
  | stops there => rw [idle] at there; rcases there with ⟨e, h⟩ | h <;> cases h
  | joins there running _ sent =>
    rcases there with there | ⟨-, answer, halted⟩
    · rw [idle] at there
      cases there
    · refine ⟨Dispatcher.stopped_of_isOver halted sane, ?_, (sent sane).1, answer⟩
      rw [show c.park = ⟨c.park.state, c.park.owner⟩ from rfl, running, hs.owner.1 running]

theorem parked_of_rest (asleep : c.dispatcher = .parked)
    (rest : ∀ who, c.move? who = none) : c.park.state = .parked := by
  have still := rest .dispatcher
  by_contra state
  simp [move?, dispatcherMove?, asleep, state] at still

/-- When no thread can move, the drop has returned. -/
theorem Dropping.idle_of_rest (dropping : Dropping id opened c added) (sound : Sound c)
    (sane : c.dispatcher.isFaulted = false) (rest : ∀ who, c.move? who = none) :
    (c.client id).task = .idle := by
  have alive : c.dispatcher ≠ .aborted := fun h => by rw [h] at sane; cases sane
  have stuck := rest (.client id)
  rw [move?_client_of_alive alive] at stuck
  -- who holds the transport can go on
  have off (holds : (c.client id).task.onTransport = true) : (c.client id).task = .idle :=
    absurd (rest (.client id)) (move?_of_onTransport alive holds)
  cases dropping.stride with
  | looks there =>
    rw [clientMove?, there] at stuck
    simp only [dropMove?] at stuck
    split at stuck <;> cases stuck
  | closes there =>
    rcases there with there | there | there
    · rw [clientMove?, there] at stuck
      simp only [closeMove?, claim?, sound.holder_of_rest rest alive] at stuck
      cases stuck
    · exact off (by rw [there]; rfl)
    · exact off (by rw [there]; rfl)
  | resumes there =>
    rcases there with there | there <;> exact off (by rw [there]; rfl)
  | stops there _ running =>
    rcases there with ⟨e, there⟩ | there
    · exact off (by rw [there]; rfl)
    · rw [clientMove?, there] at stuck
      simp only [dropMove?] at stuck
      rcases sound.dispatcher_of_rest rest with ⟨waits, empty⟩ | asleep |
        ⟨halted, -⟩ | dead | aborted
      · have place : c.hasPlace = true := hasPlace_of_receiving waits empty
        simp [waits, Dispatcher.isOver, place] at stuck
      · rw [parked_of_rest asleep rest] at running
        cases running
      · simp [halted, Dispatcher.isOver] at stuck
      · rw [dead] at sane
        cases sane
      · exact absurd aborted alive
  | joins there running _ sent =>
    rcases there with there | ⟨idle, -⟩
    · rw [clientMove?, there] at stuck
      simp only [dropMove?] at stuck
      rcases sound.dispatcher_of_rest rest with ⟨waits, empty⟩ | asleep |
        ⟨halted, -⟩ | dead | aborted
      · obtain ⟨-, onWay⟩ := sent sane
        rw [waits, empty] at onWay
        rcases onWay with h | h <;> cases h
      · rw [parked_of_rest asleep rest] at running
        cases running
      · rw [halted] at stuck
        cases stuck
      · rw [dead] at sane
        cases sane
      · exact absurd aborted alive
    · exact idle

end Control

namespace Gate

open Control

variable {σ : Type} {T : Transport σ} {env : σ → σ → Prop} {g g' : Gate σ} {c next : Control}
  {id : ClientId} {events : List Event} {m : Move} {added : List Entry} {opened : Prop}

/-- The drop goes on at a gate, with what the journal has got since the bus before. -/
def DropsOn (id : ClientId) (opened : Prop) (added : List Entry) (b : Bus σ) (g : Gate σ) : Prop :=
  ∃ more, g.bus.journal.toList = b.journal.toList ++ more ∧
    Dropping id opened g.control (added ++ more)

/-- The client has moved to another place, and told what it has done. -/
theorem dropsOn_record (dropping : Dropping id opened c added) (b : Bus σ)
    (kept : next.dropped = c.dropped) (others : ∀ j, j ≠ id → next.client j = c.client j)
    (stride : Stride id opened next (added ++ toldBy (.client id) events)) :
    DropsOn id opened added b ⟨next, b.record (.client id) events⟩ :=
  ⟨_, Bus.toList_journal_record .., kept.trans dropping.dropped,
    fun j hj => by rw [others j hj, dropping.alone j hj], stride⟩

theorem unsent_told (unsent : acceptedIn added = []) (plain : ∀ e ∈ events, e.isPlain = true) :
    acceptedIn (added ++ toldBy (.client id) events) = [] := by
  obtain ⟨silent, -⟩ := told_unbooked (.client id) fun e he => Event.unbooked_of_plain (plain e he)
  rw [acceptedIn_append, unsent, silent]
  rfl

theorem DropsOn.looks (dropping : Dropping id opened c added) (b : Bus σ)
    (hs : c.Handshake) (unsent : acceptedIn added = [])
    (window : opened ↔ c.park.state = .parked) (still : opened → Still added)
    (hm : c.dropMove? id .inspecting = some m) :
    DropsOn id opened added b (perform T .single (.client id) m b) := by
  simp only [dropMove?] at hm
  split at hm
  next parked =>
    cases hm
    refine dropsOn_record dropping b rfl (fun j hj => client_place_ne c hj _) ?_
    exact .closes (.inl (task_place ..)) (unsent_told unsent (by simp [Event.isPlain])) parked
      ((still (window.2 parked)).append (still_toldBy id _))
  next shut =>
    cases hm
    refine dropsOn_record dropping b rfl (fun j hj => client_place_ne c hj _) ?_
    refine .stops (.inr (task_place ..)) (unsent_told unsent (by simp)) ?_
      fun isOpen => absurd (window.1 isOpen) shut
    show c.park.state = .running
    have notRequested := hs.not_requested dropping.dropped
    cases state : c.park.state with
    | running => rfl
    | requested => exact absurd state notRequested
    | parked => exact absurd state shut

theorem DropsOn.closes (dropping : Dropping id opened c added) (b : Bus σ) (shuts : T.Shuts)
    (there : (c.client id).task = .claimingClose .drop ∨
      (c.client id).task = .checkingClose .drop ∨ (c.client id).task = .shutting .drop shutWindow)
    (unsent : acceptedIn added = []) (parked : c.park.state = .parked) (still : Still added)
    (hm : c.clientMove? id = some m) :
    DropsOn id opened added b (perform T .single (.client id) m b) := by
  have silent (events : List Event) := still.append (still_toldBy id events)
  unfold clientMove? at hm
  rcases there with there | there | there <;> rw [there] at hm <;> simp only [closeMove?] at hm
  · unfold claim? at hm
    split at hm
    · cases hm
    · cases hm
      exact dropsOn_record dropping b rfl (fun j hj => client_place_ne _ hj _)
        (.closes (.inr (.inl (task_place ..))) (unsent_told unsent (by simp)) parked (silent _))
  · rw [if_pos parked] at hm
    cases hm
    exact dropsOn_record dropping b rfl (fun j hj => client_place_ne c hj _)
      (.closes (.inr (.inr (task_place ..))) (unsent_told unsent (by simp)) parked (silent _))
  · -- the one call of the script
    cases hm
    have journal := b.toList_journal_call T (.client id) .fastReadShutdown
    have reply := Bus.call_reply T (.client id) .fastReadShutdown b
    rw [shuts] at reply journal
    simp only [perform, Script.advance, shutWindow, Script.ask, Bind.bind, Script.bind, Script.step]
    rcases hc : b.call T (.client id) .fastReadShutdown with ⟨r, b'⟩
    rw [hc] at reply journal
    obtain rfl : r = .ok () := reply
    refine ⟨_, (Bus.toList_journal_record ..).trans
      (by rw [journal, List.map_nil, List.append_nil]),
      dropping.dropped, fun j hj => ?_, ?_⟩
    · show ((c.place id _).client j).task = .idle
      rw [client_place_ne c hj, dropping.alone j hj]
    · have traffic : ∀ e ∈ Event.call .fastReadShutdown (.ok ()) ::
          (T.perform b.device .fastReadShutdown).breaches.map .breach, e.isTraffic = true := by
        intro e he
        rcases List.mem_cons.1 he with rfl | he
        · rfl
        · obtain ⟨x, -, rfl⟩ := List.mem_map.1 he
          rfl
      obtain ⟨none, -⟩ := told_unbooked (.client id) fun e he =>
        Event.unbooked_of_traffic (traffic e he)
      refine .resumes (.inl (task_place ..)) ?_ parked (silent _) ?_
      · rw [toldBy] at none
        rw [acceptedIn_append, unsent, none]
        rfl
      · exact List.mem_append_right _ (List.mem_cons_self ..)

theorem DropsOn.resumes (dropping : Dropping id opened c added) (b : Bus σ)
    (there : (c.client id).task = .shutting .drop (.done []) ∨
      (c.client id).task = .resuming .drop)
    (unsent : acceptedIn added = []) (parked : c.park.state = .parked) (still : Still added)
    (shut : .shutBy id ∈ added) (hm : c.clientMove? id = some m) :
    DropsOn id opened added b (perform T .single (.client id) m b) := by
  have silent (events : List Event) := still.append (still_toldBy id events)
  unfold clientMove? at hm
  rcases there with there | there <;> rw [there] at hm <;> simp only [closeMove?] at hm
  · cases hm
    exact dropsOn_record dropping b rfl (fun j hj => client_place_ne c hj _)
      (.resumes (.inr (task_place ..)) (unsent_told unsent (by simp)) parked (silent _)
        (List.mem_append_left _ shut))
  · rw [if_pos parked] at hm
    cases hm
    exact dropsOn_record dropping b rfl (fun j hj => client_place_ne _ hj _)
      (.stops (.inl ⟨none, task_place ..⟩) (unsent_told unsent (by simp [Event.isPlain])) rfl
        fun _ => ⟨List.mem_append_left _ shut, (silent _).afterShut id⟩)

theorem DropsOn.stops (dropping : Dropping id opened c added) (b : Bus σ) (hs : c.Handshake)
    (there : (∃ e, (c.client id).task = .detachingClose .drop e) ∨
      (c.client id).task = .stopping) (unsent : acceptedIn added = [])
    (running : c.park.state = .running) (shut : opened → .shutBy id ∈ added ∧ AfterShut id added)
    (hm : c.clientMove? id = some m) :
    DropsOn id opened added b (perform T .single (.client id) m b) := by
  have later (events : List Event) (isOpen : opened) :
      .shutBy id ∈ added ++ toldBy (.client id) events ∧
        AfterShut id (added ++ toldBy (.client id) events) :=
    ⟨List.mem_append_left _ (shut isOpen).1, (shut isOpen).2.append (shut isOpen).1 _⟩
  unfold clientMove? at hm
  rcases there with ⟨e, there⟩ | there <;> rw [there] at hm
  · obtain ⟨events, plain, rfl⟩ : ∃ events, (∀ x ∈ events, Event.isPlain x = true) ∧
        m = .quiet (({ c with holder := none } : Control).place id .stopping) events := by
      cases e <;> simp only [closeMove?, afterClose] at hm <;> cases hm <;>
        exact ⟨_, by simp [Event.isPlain], rfl⟩
    exact dropsOn_record dropping b rfl (fun j hj => client_place_ne _ hj _)
      (.stops (.inr (task_place ..)) (unsent_told unsent plain) running (later _))
  · simp only [dropMove?] at hm
    split at hm
    next halted =>
      cases hm
      refine dropsOn_record dropping b rfl (fun j hj => client_place_ne _ hj _)
        (.joins (.inl (task_place ..)) running (later _) fun sane => ?_)
      -- a dispatcher that had ended as asked would have been sent its stop sentinel
      have ended := (hs.ending (.inr (Dispatcher.stops_of_isOver halted sane))).2 id
      rw [Control.role, there] at ended
      rcases ended with h | h <;> cases h
    · split at hm
      · cases hm
        refine dropsOn_record dropping b rfl (fun j hj => client_place_ne _ hj _)
          (.joins (.inl (task_place ..)) running (later _) fun _ => ⟨?_, .inl ?_⟩)
        · rw [acceptedIn_append, unsent]
          rfl
        · exact List.mem_append_right _ (List.mem_singleton_self _)
      · cases hm

theorem DropsOn.joins (dropping : Dropping id opened c added) (b : Bus σ)
    (running : c.park.state = .running)
    (shut : opened → .shutBy id ∈ added ∧ AfterShut id added)
    (sent : c.dispatcher.isFaulted = false → acceptedIn added = [.stop] ∧
      (.stop ∈ c.queue ∨ c.dispatcher.stops = true))
    (hm : c.dropMove? id .joining = some m) :
    DropsOn id opened added b (perform T .single (.client id) m b) := by
  have done (events : List Event) (plain : ∀ e ∈ events, e.isPlain = true)
      (halted : c.dispatcher.isOver = true) :
      DropsOn id opened added b ⟨c.finish id .done, b.record (.client id) events⟩ := by
    have here : (c.finish id .done).client id = (c.client id).answered .done :=
      (client_put ..).trans (if_pos rfl)
    obtain ⟨silent, -⟩ := told_unbooked (.client id) fun e he =>
      Event.unbooked_of_plain (plain e he)
    refine dropsOn_record dropping b rfl (fun j hj => (client_put ..).trans (if_neg hj))
      (.joins (.inr ⟨by rw [here]; rfl, by rw [here]; rfl, halted⟩) running (fun isOpen =>
        ⟨List.mem_append_left _ (shut isOpen).1, (shut isOpen).2.append (shut isOpen).1 _⟩)
        fun sane => ?_)
    obtain ⟨stop, onWay⟩ := sent sane
    exact ⟨by rw [acceptedIn_append, stop, silent]; rfl, onWay⟩
  simp only [dropMove?] at hm
  split at hm
  next halted =>
    cases hm
    exact done [] (by simp) (by rw [halted]; rfl)
  next halted =>
    cases hm
    exact done _ (by simp [Event.isPlain]) (by rw [halted]; rfl)
  · cases hm

/-! ## Runs -/

/-- Every step on a gate that is being dropped goes on with the drop. -/
theorem Step.dropping (shuts : T.Shuts) (h : Step T g g') (sound : g.control.Sound)
    (dropping : Dropping id opened g.control added) : DropsOn id opened added g.bus g' := by
  cases h with
  | @begin i k c hb =>
    rw [dropping.begin?] at hb
    cases hb
  | @move who m hm =>
    cases who with
    | dispatcher =>
      obtain ⟨traffic, events, plain, journal, goes⟩ := perform_goes (T := T) hm
      cases goes with
      | dispatcher turn =>
        obtain ⟨none, -⟩ := told_unbooked .dispatcher fun e he =>
          Event.unbooked_of_traffic (plain e he)
        rw [toldBy] at none
        refine ⟨_, journal, turn.dropping sound.handshake dropping ?_⟩
        rw [List.map_append, acceptedIn_append, none]
        exact turn.books.1
    | client i =>
      rw [move?_client_of_alive (alive_of_move? hm)] at hm
      by_cases other : i = id
      · subst other
        cases dropping.stride with
        | looks there unsent window still =>
          refine DropsOn.looks dropping g.bus sound.handshake unsent window still ?_
          rwa [clientMove?, there] at hm
        | closes there unsent parked still =>
          exact DropsOn.closes dropping g.bus shuts there unsent parked still hm
        | resumes there unsent parked still shut =>
          exact DropsOn.resumes dropping g.bus there unsent parked still shut hm
        | stops there unsent running shut =>
          exact DropsOn.stops dropping g.bus sound.handshake there unsent running shut hm
        | joins there running shut sent =>
          rcases there with there | ⟨there, -⟩
          · refine DropsOn.joins dropping g.bus running shut sent ?_
            rwa [clientMove?, there] at hm
          · rw [clientMove?, there] at hm
            cases hm
      · rw [clientMove?, dropping.alone i other] at hm
        cases hm

/-- A run on a gate that is being dropped goes on with the drop. -/
theorem Reach.dropping (shuts : T.Shuts) (reach : Reach T env g g') (sound : g.control.Sound)
    (dropping : Dropping id opened g.control []) : DropsOn id opened [] g.bus g' := by
  induction reach with
  | refl => exact ⟨[], (List.append_nil _).symm, dropping⟩
  | @step h k before move ih =>
    obtain ⟨added, journal, dropping⟩ := ih
    have sound := before.invariant sound fun _ _ _ _ h goes => goes.sound h
    obtain ⟨more, journal', dropping'⟩ := move.dropping shuts sound dropping
    exact ⟨added ++ more, by rw [journal', journal, List.append_assoc],
      by rwa [List.nil_append] at dropping' ⊢⟩
  | outside _ _ ih => exact ih

theorem Reach.isFaulted (reach : Reach T env g g')
    (sane : g'.control.dispatcher.isFaulted = false) : g.control.dispatcher.isFaulted = false := by
  induction reach with
  | refl => exact sane
  | step _ move ih =>
    obtain ⟨who, _, events, _, _, goes⟩ := move.goes
    exact ih (goes.isFaulted sane)
  | outside _ _ ih => exact ih sane

end Gate

end FlashGate

/-
The park handshake. Main statement: `parks_in_turn`, that over any device and whatever the
interleaving of the threads an owner stands in the handshake exactly while it has begun, at most one
sentinel is on its way and it is the owner's, and each change of the state is made by the one thread
that may make it; and that a request made before the dispatcher has woken from the window before is
served in its turn.
-/
import FlashGate.Proofs.Gateway.Park
import FlashGate.Proofs.Linearization

namespace FlashGate

variable {σ : Type} {T : Transport σ} {env : σ → σ → Prop}

/-- Whether the message is a job. -/
def Message.isJob : Message → Bool
  | .job _ => true
  | _ => false

namespace Control

variable {c next : Control} {id : ClientId} {events : List Event} {who : Actor}
  {taken : List Message}

/-- The rules that the park handshake keeps, with the messages taken so far. -/
structure Agreed (c : Control) (taken : List Message) : Prop where
  owner : c.park.owner ≠ none ↔ c.park.state ≠ .running
  /-- One sentinel at most is on its way to the announcement of the park. -/
  sole : c.sentinels ≤ 1
  /-- A sentinel on the queue is that of the client that has asked for the park. -/
  queued : ∀ id, .park id ∈ c.queue → c.park = ⟨.requested, some id⟩
  /-- The dispatcher is on the way to the park that is asked for. -/
  parks : c.dispatcher.parks = true →
    ∃ before o, taken = before ++ [.park o] ∧ c.park = ⟨.requested, some o⟩
  /-- The owner of a request has its sentinel still to send, or has sent it and it is on its way. -/
  requested : c.park.state = .requested → ∃ o, c.park.owner = some o ∧
    (c.role o = .asks ∧ c.sentinels = 0 ∨
      c.role o = .sent ∧ (c.dispatcher.isFaulted = false → c.sentinels = 1))
  parked : c.park.state = .parked → c.dispatcher = .parked
  /-- A client that has shut the fast-read hardware down resumes the dispatcher. -/
  resumes : ∀ id w, (c.client id).task = .resuming w → c.move? (.client id) =
    some (.quiet ({ c with park := {} }.place id (.detachingClose w none))
      [.log (.debug "Low-level flash window closed")])

theorem move?_client_of_alive (alive : c.dispatcher ≠ .aborted) (id : ClientId) :
    c.move? (.client id) = c.clientMove? id := by
  unfold move?
  split <;> simp_all

/-- A client that has shut the hardware down finds the dispatcher parked, and resumes it. -/
theorem Sound.move?_resuming (sound : Sound c) {w : Closing}
    (there : (c.client id).task = .resuming w) : c.move? (.client id) =
      some (.quiet ({ c with park := {} }.place id (.detachingClose w none))
        [.log (.debug "Low-level flash window closed")]) := by
  have parked : c.park.state = .parked := sound.fitting.parked id (by rw [there]; rfl)
  have asleep := sound.handshake.parked parked
  rw [move?_client_of_alive (by rw [asleep]; simp), clientMove?, there]
  simp only [closeMove?, if_pos parked]

/-- The handshake keeps its rules where the invariants stand. -/
theorem Sound.agreed (sound : Sound c) (asked : Asked c taken) : Agreed c taken where
  owner := not_congr sound.handshake.owner.symm
  sole := by
    by_cases none : c.sentinels = 0
    · omega
    · exact Nat.le_of_eq (sound.handshake.sentinel none).1
  queued id queued := by
    obtain ⟨-, state, -⟩ := sound.handshake.sentinel (sentinels_of_queued queued)
    rw [← state, ← asked.queued id queued]
  parks parks := by
    obtain ⟨before, o, last, owner⟩ := asked.parks parks
    obtain ⟨-, state, -⟩ := sound.handshake.sentinel (sentinels_of_parks parks)
    exact ⟨before, o, last, by rw [← state, ← owner]⟩
  requested state := by
    obtain ⟨o, owned⟩ := sound.handshake.owned (by rw [state]; simp)
    have owner : c.park.owner = some o := congrArg Park.owner owned
    refine ⟨o, owner, ?_⟩
    rcases sound.handshake.requested o state owner with asks | sent
    · exact .inl ⟨asks, (sound.handshake.asks o asks).2.2⟩
    · exact .inr ⟨sent, fun sane =>
        (sound.handshake.sentinel (asked.onWay o sent state sane)).1⟩
  parked := sound.handshake.parked
  resumes _ _ := sound.move?_resuming

theorem begin?_park {k : Command} (hs : Handshake c) (asked : Asked c taken)
    (h : c.begin? id k = some next) : next.park = c.park := by
  have idle := idle_of_begin? h
  rcases (begin?_turn h).handover hs asked with
    same | ⟨_, there, -⟩ | ⟨_, there, -⟩ | there | ⟨_, there, -⟩ | ⟨_, _, there, -⟩
  · exact same
  all_goals
    rw [idle] at there
    cases there

/-! ## A request on its way -/

/-- What the dispatcher takes in a turn, and where that leaves it. -/
theorem DispatcherTurn.takes (h : DispatcherTurn c next events) :
    takenIn (toldBy .dispatcher events) = [] ∧ (next.dispatcher.parks = c.dispatcher.parks ∨
        c.dispatcher = .announcing ∨ next.dispatcher.isFaulted = true) ∨
      (c.dispatcher.parks = false ∧ ∃ m, m ∈ c.queue ∧
        takenIn (toldBy .dispatcher events) = [m] ∧
          (m.isJob = true ∧ next.dispatcher.parks = false ∨
            m.isPark = true ∧ next.dispatcher.parks = true ∨ next.dispatcher.stops = true)) := by
  have told (plain : ∀ e ∈ events, e.isPlain = true) : takenIn (toldBy .dispatcher events) = [] :=
    (told_unbooked .dispatcher fun e he => Event.unbooked_of_plain (plain e he)).2.1
  cases h
  case served j s bytes h =>
    refine .inl ⟨?_, .inl ?_⟩ <;> unfold Control.served <;> split <;> first | rfl | rw [h]; rfl
  case takeJob j rest h queue =>
    exact .inr ⟨by rw [h]; rfl, _, by rw [queue]; exact List.mem_cons_self .., rfl, .inl ⟨rfl, rfl⟩⟩
  case takePark i rest h queue line =>
    exact .inr ⟨by rw [h]; rfl, _, by rw [queue]; exact List.mem_cons_self .., rfl,
      .inr (.inl ⟨rfl, rfl⟩)⟩
  case takeStop rest h queue =>
    exact .inr ⟨by rw [h]; rfl, _, by rw [queue]; exact List.mem_cons_self .., rfl,
      .inr (.inr rfl)⟩
  case announce h => exact .inl ⟨rfl, .inr (.inl h)⟩
  case claimRelease l h free => exact .inl ⟨rfl, .inl (by rw [h]; cases l <;> rfl)⟩
  case releaseOn l s rest h => exact .inl ⟨rfl, .inl (by rw [h]; cases l <;> rfl)⟩
  case released l s h => exact .inl ⟨rfl, .inl (by rw [h]; cases l <;> rfl)⟩
  case abort h => exact .inl ⟨rfl, .inr (.inr rfl)⟩
  case unwind h => exact .inl ⟨rfl, .inr (.inr rfl)⟩
  case die h => exact .inl ⟨rfl, .inr (.inr rfl)⟩
  case start h plain => exact .inl ⟨told plain, .inl (by rw [h]; rfl)⟩
  case restore j h plain => exact .inl ⟨told plain, .inl (by rw [h]; rfl)⟩
  case stop h plain => exact .inl ⟨told plain, .inl (by rw [h]; rfl)⟩
  case wake h state plain => exact .inl ⟨told plain, .inl (by rw [h]; rfl)⟩
  all_goals exact .inl ⟨rfl, .inl (by rw [‹c.dispatcher = _›]; rfl)⟩

/-- The park is asked for by the client, and the messages taken since are jobs and then, once the
dispatcher is on the way to the park, the client's sentinel. -/
def OnWay (o : ClientId) (base : List Message) (c : Control) (taken : List Message) : Prop :=
  c.park = ⟨.requested, some o⟩ ∧ ∃ jobs : List Message, (∀ m ∈ jobs, m.isJob = true) ∧
    (c.dispatcher.parks = false ∧ taken = base ++ jobs ∨
      c.dispatcher.parks = true ∧ taken = base ++ jobs ++ [.park o])

theorem Handshake.stops_of_requested (hs : Handshake c) {o : ClientId}
    (requested : c.park = ⟨.requested, some o⟩) : c.dispatcher.stops = false := by
  cases stops : c.dispatcher.stops with
  | false => rfl
  | true =>
    have working := hs.requested o (by rw [requested]) (by rw [requested])
    rcases (hs.ending (.inr stops)).2 o with idle | joins
    · rw [idle] at working
      rcases working with h | h <;> cases h
    · rw [joins] at working
      rcases working with h | h <;> cases h

theorem DispatcherTurn.takes_announcing (h : DispatcherTurn c next events)
    (announcing : c.dispatcher = .announcing) : takenIn (toldBy .dispatcher events) = [] := by
  rcases h.takes with ⟨none, -⟩ | ⟨before, -⟩
  · exact none
  · rw [announcing] at before
    cases before

/-- A turn that leaves the handshake alone leaves a request on its way. -/
theorem OnWay.turn {o : ClientId} {base : List Message} (h : OnWay o base c taken)
    (goes : c.Goes who next events) (hs : Handshake next) (asked : Asked c taken)
    (same : next.park = c.park) (sane : next.dispatcher.isFaulted = false) :
    OnWay o base next (taken ++ takenIn (toldBy who events)) := by
  obtain ⟨requested, jobs, all, way⟩ := h
  have requested' : next.park = ⟨.requested, some o⟩ := same.trans requested
  refine ⟨requested', ?_⟩
  cases goes with
  | client turns =>
    rw [turns.books.1, List.append_nil, turns.dispatcher.1]
    exact ⟨jobs, all, way⟩
  | dispatcher turn =>
    rcases turn.takes with ⟨none, parks⟩ | ⟨before, m, queued, told, kind⟩
    · rw [none, List.append_nil]
      have parks : next.dispatcher.parks = c.dispatcher.parks := by
        rcases parks with same | announcing | faulted
        · exact same
        · have state := turn.park_of_announcing announcing
          rw [requested'] at state
          cases state
        · rw [sane] at faulted
          cases faulted
      rw [parks]
      exact ⟨jobs, all, way⟩
    · -- the dispatcher has not taken the sentinel before
      have base' : taken = base ++ jobs := by
        rcases way with ⟨-, h⟩ | ⟨parks, -⟩
        · exact h
        · rw [before] at parks
          cases parks
      rw [told, base']
      rcases kind with ⟨job, parks⟩ | ⟨sentinel, parks⟩ | stops
      · refine ⟨jobs ++ [m], fun x hx => ?_, .inl ⟨parks, List.append_assoc ..⟩⟩
        rcases List.mem_append.1 hx with hx | hx
        · exact all x hx
        · rwa [List.mem_singleton.1 hx]
      · refine ⟨jobs, all, .inr ⟨parks, ?_⟩⟩
        cases m with
        | park i =>
          have owner := asked.queued i queued
          rw [requested] at owner
          obtain rfl : o = i := Option.some.inj owner
          rfl
        | job j => cases sentinel
        | stop => cases sentinel
      · rw [hs.stops_of_requested requested'] at stops
        cases stops

theorem hasPlace_of_receiving (waits : c.dispatcher = .receiving) (empty : c.queue = []) :
    c.hasPlace = true := by
  unfold hasPlace
  split
  · rw [waits, empty]
    rfl
  next deep => simpa [empty] using Nat.pos_of_ne_zero deep

theorem Sound.move?_asks (sound : Sound c) (asks : c.role id = .asks)
    (waits : c.dispatcher = .receiving) (empty : c.queue = []) : c.move? (.client id) ≠ none := by
  have role : (c.client id).task.role = .asks := asks
  rw [move?_client_of_alive (by rw [waits]; simp), clientMove?]
  cases there : (c.client id).task with
  | admitting s =>
    -- the client holds the flash, and with it admission
    have park : s = .park := by
      cases s with
      | park => rfl
      | job o buffer => rw [there] at role; cases role
    have held := sound.locks.holding id (by rw [there, park]; rfl)
    have owner : c.admission.owner = some id :=
      (sound.locks.owner id).2 (Nat.lt_of_lt_of_le held (Nat.le_add_right _ _))
    simp [submissionMove?, Admission.enter?, owner]
  | sending s =>
    simp [submissionMove?, waits, Dispatcher.isOver, hasPlace_of_receiving waits empty]
  | leaving s t => simp [submissionMove?]
  | withdrawing => simp [lockMove?]
  | claimingClose w => rw [there] at role; cases w <;> cases role
  | checkingClose w => rw [there] at role; cases w <;> cases role
  | shutting w s => rw [there] at role; cases w <;> cases role
  | resuming w => rw [there] at role; cases w <;> cases role
  | detachingClose w e => rw [there] at role; cases w <;> cases role
  | _ => rw [there] at role; cases role

/-- No gate comes to rest with a request on its way, unless a fault has hit the dispatcher. -/
theorem Sound.not_requested_of_rest (sound : Sound c) (asked : Asked c taken)
    (rest : ∀ who, c.move? who = none) (sane : c.dispatcher.isFaulted = false) {o : ClientId} :
    c.park ≠ ⟨.requested, some o⟩ := by
  intro requested
  have state : c.park.state = .requested := by rw [requested]
  rcases sound.dispatcher_of_rest rest with ⟨waits, empty⟩ | asleep | ⟨halted, -⟩ | dead | aborted
  · have none : c.sentinels = 0 := by
      rw [sentinels, waits, empty]
      rfl
    rcases sound.handshake.requested o state (by rw [requested]) with asks | sent
    · exact sound.move?_asks asks waits empty (rest (.client o))
    · exact asked.onWay o sent state sane none
  · -- the dispatcher sleeps no more
    have still := rest .dispatcher
    simp [move?, dispatcherMove?, asleep, state] at still
  · have stops : c.dispatcher.stops = true := by rw [halted]; rfl
    rw [sound.handshake.stops_of_requested requested] at stops
    cases stops
  · rw [dead] at sane
    cases sane
  · rw [aborted] at sane
    cases sane

end Control

theorem Move.Leads.perform {P : Control → List Event → Prop} {m : Move} (h : m.Leads P)
    (pace : Script.Pace) (who : Actor) (b : Bus σ) :
    ∃ events, P (Gate.perform T pace who m b).control events := by
  cases m with
  | quiet next events => exact ⟨events, h⟩
  | drive script resume => exact ⟨_, h (script.advance T pace who b).1⟩

namespace Gate

variable {g₀ g g' : Gate σ}

/-- The messages that the dispatcher has taken so far. -/
def taken (g : Gate σ) : List Message := takenIn g.bus.journal.toList

/-- What a step adds to the messages taken is what the dispatcher tells. -/
theorem Step.taken_eq (h : Step T g g') : ∃ who events, g.control.Goes who g'.control events ∧
    g'.taken = g.taken ++ takenIn (toldBy who events) := by
  obtain ⟨who, traffic, events, plain, journal, goes⟩ := h.goes
  exact ⟨who, events, goes, (booked_append plain journal).2.1⟩

theorem Reach.asked (reach : Reach T env g₀ g) (sound : g₀.control.Sound)
    (asked : g₀.control.Asked g₀.taken) : g.control.Sound ∧ g.control.Asked g.taken := by
  induction reach with
  | refl => exact ⟨sound, asked⟩
  | step _ move ih =>
    obtain ⟨who, events, goes, told⟩ := move.taken_eq
    rw [told]
    exact ⟨goes.sound ih.1, goes.asked ih.1.handshake ih.2⟩
  | outside _ _ ih => exact ih

theorem asked_of_start {config : Config} {id : ClientId} {device : σ} {c : Control} {b : Bus σ}
    (start : Gate.start T config id ⟨device, #[]⟩ = (.ok (.ok c), b))
    (reach : Reach T env ⟨c, b⟩ g) : g.control.Sound ∧ g.control.Asked g.taken := by
  obtain ⟨⟨s, rfl⟩, traffic, plain, journal⟩ := opened_of_start start
  refine reach.asked (Control.sound_opened s) ?_
  have none : takenIn b.journal.toList = [] := by
    rw [journal]
    exact (told_unbooked _ fun e he => Event.unbooked_of_traffic (plain e he)).2.1
  rw [taken, none]
  exact Control.asked_opened s

/-- Between two gates of a run the dispatcher has parked for the client: it has taken jobs since,
and the client's sentinel then; and what was queued at first comes first. -/
def ParkedBetween (T : Transport σ) (env : σ → σ → Prop) (o : ClientId) (g g' : Gate σ) : Prop :=
  ∃ between jobs, Reach T env g between ∧ Reach T env between g' ∧
    between.control.dispatcher = .parked ∧ between.control.park = ⟨.parked, some o⟩ ∧
    between.taken = g.taken ++ jobs ++ [.park o] ∧ (∀ m ∈ jobs, m.isJob = true) ∧
    g.control.queue <+: jobs ++ [.park o] ++ between.control.queue

/-- What is queued at a gate is taken first later on, or is still queued. -/
theorem queue_prefix (reach : Reach T env g g') (sound : g.control.Sound) (balanced : g.Balanced)
    (alive : g.control.dispatcher ≠ .dead) (alive' : g'.control.dispatcher ≠ .dead)
    {later : List Message} (taken : g'.taken = g.taken ++ later) :
    g.control.queue <+: later ++ g'.control.queue := by
  have accepts := reach.accepts sound
  obtain ⟨-, balanced'⟩ := balanced_of_reach reach sound balanced
  rw [balanced.queued alive, balanced'.queued alive'] at accepts
  have taken : takenIn g'.bus.journal.toList = takenIn g.bus.journal.toList ++ later := taken
  rw [taken, List.append_assoc] at accepts
  exact (List.prefix_append_right_inj _).1 accepts

/-- A request on its way stays on its way until the dispatcher parks for it or is hit by a fault. -/
theorem Reach.onWay {o : ClientId} (reach : Reach T env g g') (sound : g.control.Sound)
    (asked : g.control.Asked g.taken) (balanced : g.Balanced)
    (requested : g.control.park = ⟨.requested, some o⟩)
    (asleep : g.control.dispatcher = .parked) (sane : g'.control.dispatcher.isFaulted = false) :
    g'.control.OnWay o g.taken g'.taken ∨ ParkedBetween T env o g g' := by
  induction reach with
  | refl =>
    refine .inl ⟨requested, [], by simp, .inl ⟨by rw [asleep]; rfl, by simp⟩⟩
  | @step h k before move ih =>
    obtain ⟨sound', asked'⟩ := before.asked sound asked
    obtain ⟨who, events, goes, told⟩ := move.taken_eq
    rcases ih (goes.isFaulted sane) with way | ⟨between, jobs, first, second, parked⟩
    · have now := way.1
      rcases goes.handover sound'.handshake asked' with
        same | ⟨i, -, running, -⟩ | ⟨i, -, gone, -, -⟩ | ⟨i, announcing, before', after⟩ |
        ⟨i, -, parked, -⟩ | ⟨i, p, -, -, parked, -⟩
      · rw [told]
        exact .inl (way.turn goes (goes.handshake sound'.handshake) asked' same sane)
      · rw [now] at running
        cases running
      · -- without a fault the dispatcher would have ended as asked
        have stops := Dispatcher.stops_of_isOver gone (goes.isFaulted sane)
        rw [sound'.handshake.stops_of_requested now] at stops
        cases stops
      · obtain ⟨-, jobs, all, way⟩ := way
        have taken : h.taken = g.taken ++ jobs ++ [.park o] := by
          rcases way with ⟨parks, -⟩ | ⟨-, taken⟩
          · rw [announcing] at parks
            cases parks
          · exact taken
        obtain rfl : o = i := by
          rw [now] at before'
          cases before'
          rfl
        have reach : Reach T env g k := .step before move
        have none : takenIn (toldBy .dispatcher events) = [] := by
          cases goes with
          | dispatcher turn => exact turn.takes_announcing announcing
        rw [none, List.append_nil, taken] at told
        have asleep' : k.control.dispatcher = .parked :=
          (goes.handshake sound'.handshake).parked (by rw [after])
        have queue := queue_prefix reach sound balanced (by rw [asleep]; simp)
          (by rw [asleep']; simp) (told.trans (List.append_assoc ..))
        exact .inr ⟨k, jobs, reach, .refl, asleep', after, told, all, queue⟩
      · rw [now] at parked
        cases parked
      · rw [now] at parked
        cases parked
    · exact .inr ⟨between, jobs, first, .step second move, parked⟩
  | outside before change ih =>
    rcases ih sane with way | ⟨between, jobs, first, second, parked⟩
    · exact .inl way
    · exact .inr ⟨between, jobs, first, .outside second change, parked⟩

end Gate

/-- The park handshake, for any number of clients, over any device, which may be changed from
outside at any time, and whatever the order in which the threads move. An owner stands in it exactly
while it has begun, and one sentinel at most, the owner's, is on its way. A move of a thread leaves
the handshake alone or is its own part in it: a client asks for the park and owns it; the owner
takes its request back, where there is no dispatcher any more; the dispatcher parks, come upon the
owner's sentinel; the owner resumes it, or the client that drops the gate. Who has shut the
fast-read hardware down finds the park to resume. A dispatcher that sleeps has answered all reads it
has taken. And if the dispatcher has not woken when the next park is asked for, it wakes, and parks
again for the new owner, once it has taken what was queued before the new sentinel: no other way is
open but a fault, and the gate does not come to rest before. -/
theorem parks_in_turn (config : Config) (id : ClientId) (device : σ) (c : Control) (b : Bus σ)
    (start : Gate.start T config id ⟨device, #[]⟩ = (.ok (.ok c), b)) (g : Gate σ)
    (reach : Gate.Reach T env ⟨c, b⟩ g) :
    g.control.Agreed g.taken ∧
    (∀ who m, g.control.move? who = some m →
      g.control.Handover (Gate.perform T .single who m g.bus).control who) ∧
    (∀ i k next, g.control.begin? i k = some next → next.park = g.control.park) ∧
    (T.Fills → g.control.dispatcher = .parked →
      lengthsIn g.bus.journal.toList = readsOf g.taken) ∧
    ∀ o, g.control.dispatcher = .parked → g.control.park = ⟨.requested, some o⟩ →
      g.control.move? .dispatcher = some (.quiet { g.control with dispatcher := .receiving }
        [.log (.debug "Dispatcher resumed")]) ∧
      ∀ g', Gate.Reach T env g g' → g'.control.dispatcher.isFaulted = false →
        (g'.control.OnWay o g.taken g'.taken ∨ Gate.ParkedBetween T env o g g') ∧
        ((∀ who, g'.control.move? who = none) → Gate.ParkedBetween T env o g g') := by
  obtain ⟨sound, asked⟩ := Gate.asked_of_start start reach
  obtain ⟨-, balanced⟩ := Gate.balanced_of_start start reach
  refine ⟨sound.agreed asked, fun who m hm => ?_, fun i k next begun =>
    Control.begin?_park sound.handshake asked begun, fun fills asleep => ?_,
    fun o asleep requested => ⟨?_, fun g' later sane => ?_⟩⟩
  · obtain ⟨events, goes⟩ := (Control.move?_goes hm).perform (T := T) .single who g.bus
    exact goes.handover sound.handshake asked
  · obtain ⟨done, current, taken, pending, lengths⟩ := lengths_of_reach fills start reach
    rw [asleep] at pending
    obtain rfl : current = [] := pending
    rw [lengths, Gate.taken, taken, List.append_nil]
  · have state : g.control.park.state ≠ .parked := by rw [requested]; simp
    simp [Control.move?, Control.dispatcherMove?, asleep, state]
  · have way := later.onWay sound asked balanced requested asleep sane
    refine ⟨way, fun rest => way.resolve_left fun onWay => ?_⟩
    obtain ⟨sound', asked'⟩ := later.asked sound asked
    exact sound'.not_requested_of_rest asked' rest sane onWay.1

/-! ## A run -/

/-- Whether the dispatcher sleeps. -/
def Dispatcher.isParked : Dispatcher → Bool
  | .parked => true
  | _ => false

/-- The small gate with the window of one client open, after which another asks for a write; the
owner closes its window, and before the dispatcher wakes a third client asks for the next. -/
def Gate.smallRaced (c : Control) : Gate Chip :=
  (((({ gate := ⟨c, Gate.small.2⟩ } : Session Chip).act Chip.transport 0 .openWindow).act
    Chip.transport 1 (.write 1 [0x0F])).gate.solo Chip.transport 0 .closeWindow 8).solo
      Chip.transport 2 .openWindow 8

/-- On the small gate the dispatcher parks for the third client once it has taken the write. -/
theorem parks_in_turn_small : ∃ c, Gate.small.1 = .ok (.ok c) ∧
    (Gate.smallRaced c).control.park = ⟨.requested, some 2⟩ ∧
    (Gate.smallRaced c).control.queue.length = 2 ∧
    Gate.ParkedBetween Chip.transport Gate.undisturbed 2 (Gate.smallRaced c)
      (Gate.rest Chip.transport 2 (Gate.smallRaced c)) := by
  obtain ⟨c, opened⟩ := Gate.small_opens
  have fresh : Gate.Reach Chip.transport Gate.undisturbed ⟨c, Gate.small.2⟩
      ({ gate := ⟨c, Gate.small.2⟩ } : Session Chip).gate := .refl
  have reach : Gate.Reach Chip.transport Gate.undisturbed ⟨c, Gate.small.2⟩ (Gate.smallRaced c) :=
    Gate.reach_solo 2 _ _ (Gate.reach_solo 0 _ _
      (Session.reach_act 1 _ (Session.reach_act 0 _ fresh)))
  have start := Gate.start_of_small opened
  have played : Gate.ofSmall (fun c => ((Gate.smallRaced c).control.park,
      (Gate.smallRaced c).control.queue.length, (Gate.smallRaced c).control.dispatcher.isParked,
      (Gate.rest Chip.transport 2 (Gate.smallRaced c)).control.dispatcher.isFaulted)) =
      some (⟨.requested, some 2⟩, 2, true, false) := by
    decide +kernel
  simp only [Gate.ofSmall, opened, Option.some.injEq, Prod.mk.injEq] at played
  obtain ⟨requested, queue, isParked, sane⟩ := played
  have asleep : (Gate.smallRaced c).control.dispatcher = .parked := by
    cases h : (Gate.smallRaced c).control.dispatcher <;> rw [h] at isParked <;>
      first | rfl | cases isParked
  obtain ⟨-, -, -, -, wakes⟩ := parks_in_turn _ 0 _ c _ start _ reach
  exact ⟨c, opened, requested, queue, (((wakes 2 asleep requested).2 _
    (Gate.reach_rest 2 .refl) sane).2 (Gate.rest_move? _ 2 _))⟩

end FlashGate

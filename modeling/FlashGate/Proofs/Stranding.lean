/-
Clients that wait for a dispatcher whose thread has ended. Main statement: `stranded_by_fault`, that
over any device and whatever the interleaving of the threads a reader is always released, and that a
client is left in the park handshake exactly where a fault ended the dispatcher while the client's
sentinel was on its way, which over a device that answers takes sums that run out. `asker_stranded`
is a client that is left so for ever.
-/
import FlashGate.PatternDevice
import FlashGate.Proofs.Gateway.Overrun
import FlashGate.Proofs.Parking

namespace FlashGate

variable {σ : Type} {T : Transport σ} {env : σ → σ → Prop}

/-- Whether the dispatcher's thread has ended and the process goes on. -/
def Dispatcher.HasEnded (d : Dispatcher) : Prop := d = .stopped ∨ d = .dead

theorem Dispatcher.HasEnded.isOver {d : Dispatcher} (h : d.HasEnded) :
    d.isOver = true ∧ d ≠ .aborted := by
  rcases h with rfl | rfl <;> simp [Dispatcher.isOver]

/-- Whether a client at the place waits for the dispatcher: for a place in the queue, for the bytes
of a read, for a park, or for the dispatcher's end. -/
def Task.waitsForDispatcher : Task → Bool
  | .sending _ => true
  | .awaiting .. => true
  | .waitingParked => true
  | .stopping => true
  | .joining => true
  | _ => false

namespace Control

variable {c next : Control} {id : ClientId} {events : List Event} {who : Actor}
  {taken : List Message}

/-- The client has sent the sentinel of the park that it asks for, and there is no dispatcher any
more to come upon it. -/
structure Stranded (c : Control) (id : ClientId) : Prop where
  sent : c.role id = .sent
  park : c.park = ⟨.requested, some id⟩
  dead : c.dispatcher = .dead

theorem Turn.sent_of_sent {e : Deed} {d : Client} (h : Turn c id e d events)
    (sent : c.role id = .sent) (state : c.park.state = .requested) : d.task.role = .sent := by
  have role := h.role
  rw [sent] at role
  cases e with
  | push m => cases m <;> simp_all [RoleTurn]
  | _ => simp_all [RoleTurn]

/-- Only a fault ends the dispatcher with a client waiting in the handshake. -/
theorem Handshake.dead_of_sent (hs : Handshake c) (sent : c.role id = .sent)
    (ended : c.dispatcher.HasEnded) : c.dispatcher = .dead := by
  rcases ended with stopped | dead
  · have roles := (hs.ending (.inr (by rw [stopped]; rfl))).2 id
    rw [sent] at roles
    rcases roles with h | h <;> cases h
  · exact dead

/-- Nobody sends a sentinel to a dispatcher that is dead. -/
theorem Turns.sent_of_dead {i : ClientId} (h : Turns c i next events)
    (dead : c.dispatcher = .dead) (sent : next.role id = .sent) : c.role id = .sent := by
  obtain ⟨e, d, turn, allowed, rfl⟩ := h
  rw [role_turned] at sent
  split at sent
  next same =>
    subst same
    rcases turn.sent sent with rfl | ⟨before, -⟩
    · have alive : c.dispatcher.isOver = false := allowed.1
      rw [dead] at alive
      cases alive
    · exact before
  · exact sent

/-- A client that is stranded stays so in every turn. -/
theorem Stranded.goes (h : Stranded c id) (goes : c.Goes who next events) (hs : Handshake c)
    (asked : Asked c taken) : Stranded next id := by
  have requested := h.park
  -- nobody but the client itself could take the request back, and it has sent its sentinel
  have park : next.park = c.park := by
    rcases goes.handover hs asked with
      same | ⟨i, -, before, -⟩ | ⟨i, there, -, before, -⟩ | ⟨i, -, before, -⟩ | ⟨i, -, before, -⟩ |
      ⟨i, o, -, -, before, -⟩
    · exact same
    · rw [requested] at before; cases before
    · rw [requested] at before
      cases before
      have sent := h.sent
      rw [role, there] at sent
      cases sent
    · cases goes with
      | dispatcher turn =>
        have alive := turn.isOver
        rw [h.dead] at alive
        cases alive
    · rw [requested] at before; cases before
    · rw [requested] at before; cases before
  cases goes with
  | dispatcher turn =>
    have alive := turn.isOver
    rw [h.dead] at alive
    cases alive
  | @client i _ _ turns =>
    refine ⟨?_, park.trans requested, turns.dispatcher.1.trans h.dead⟩
    obtain ⟨e, d, turn, allowed, rfl⟩ := turns
    rw [role_turned]
    split
    next same =>
      subst same
      exact turn.sent_of_sent h.sent (by rw [requested])
    · exact h.sent

/-- A client that is stranded has no way on from its wait. -/
theorem Stranded.stuck (h : Stranded c id) (there : (c.client id).task = .waitingParked) :
    c.move? (.client id) = none := by
  rw [move?_client_of_alive (by rw [h.dead]; simp), clientMove?, there]
  simp only [lockMove?, if_pos (show c.park.state = .requested by rw [h.park])]

/-! ## The end of the dispatcher -/

/-- Who waits for the dispatcher goes on after its end, but for a client whose park is still asked
for. -/
theorem move?_of_hasEnded (ended : c.dispatcher.HasEnded)
    (waits : (c.client id).task.waitsForDispatcher = true) (stuck : c.move? (.client id) = none) :
    (c.client id).task = .waitingParked ∧ c.park.state = .requested := by
  obtain ⟨halted, alive⟩ := ended.isOver
  rw [move?_client_of_alive alive, clientMove?] at stuck
  cases there : (c.client id).task with
  | sending s => simp [there, submissionMove?, halted] at stuck
  | awaiting t buffer =>
    simp only [there, submissionMove?, halted] at stuck
    split at stuck <;> cases stuck
  | waitingParked =>
    simp only [there, lockMove?] at stuck
    split at stuck
    next state => exact ⟨rfl, state⟩
    · cases stuck
  | stopping => simp [there, dropMove?, halted] at stuck
  | joining => rcases ended with h | h <;> simp [there, dropMove?, h] at stuck
  | _ => rw [there] at waits; cases waits

theorem Handshake.stranded (hs : Handshake c) (ended : c.dispatcher.HasEnded)
    (there : (c.client id).task = .waitingParked) (state : c.park.state = .requested) :
    Stranded c id := by
  have sent : c.role id = .sent := by rw [role, there]; rfl
  exact ⟨sent, by rw [← state, ← hs.sent id sent], hs.dead_of_sent sent ended⟩

end Control

namespace Gate

open Control

variable {g₀ g g' : Gate σ} {id : ClientId}

/-- The client's next move ends its read: with the bytes, if the dispatcher has handed them over, or
with the error that tells of the dispatcher's end. -/
def Releases (g : Gate σ) (id : ClientId) (t : Ticket) (buffer : List UInt8) : Prop :=
  ∃ next events a, g.control.move? (.client id) = some (.quiet next events) ∧
    (next.client id).task = .idle ∧ (next.client id).answer = some a ∧
    (a = .refused .disconnected buffer ∨
      ∃ bytes, a = .bytes bytes ∧ (t, bytes) ∈ answeredIn g.bus.journal.toList)

/-- A fault ended the dispatcher somewhere on a run, with the client's park asked for and its
sentinel on the queue. -/
def DiedAsked (T : Transport σ) (env : σ → σ → Prop) (id : ClientId) (g₀ g : Gate σ) : Prop :=
  ∃ last first, Reach T env g₀ last ∧ Step T last first ∧ Reach T env first g ∧
    last.control.dispatcher = .unwinding ∧ first.control.dispatcher = .dead ∧
    last.control.park = ⟨.requested, some id⟩ ∧ last.control.role id = .sent

/-- A reader is released by the end of the dispatcher. -/
theorem Balanced.releases (balanced : g.Balanced) (ended : g.control.dispatcher.HasEnded)
    {t : Ticket} {buffer : List UInt8} (there : (g.control.client id).task = .awaiting t buffer) :
    g.Releases id t buffer := by
  obtain ⟨halted, alive⟩ := ended.isOver
  have move := move?_client_of_alive alive id
  rw [clientMove?, there] at move
  simp only [submissionMove?] at move
  have finished (c : Control) (a : Answer) :
      ((c.finish id a).client id).task = .idle ∧ ((c.finish id a).client id).answer = some a := by
    simp [finish, client]
  split at move
  next bytes come =>
    have handed := (balanced.replies _ (mem_of_reply? come)).1
    obtain ⟨idle, answer⟩ := finished
      { g.control with replies := g.control.replies.filter fun r => r.1 != t } (.bytes bytes)
    exact ⟨_, _, _, move, idle, answer, .inr ⟨_, rfl, handed⟩⟩
  · rw [if_pos halted] at move
    obtain ⟨idle, answer⟩ := finished g.control (.refused .disconnected buffer)
    exact ⟨_, _, _, move, idle, answer, .inl rfl⟩

/-- A client that is stranded stays so for ever. -/
theorem Reach.stranded (reach : Reach T env g g') (sound : g.control.Sound)
    (asked : g.control.Asked g.taken) (h : g.control.Stranded id) : g'.control.Stranded id := by
  induction reach with
  | refl => exact h
  | step before move ih =>
    obtain ⟨sound', asked'⟩ := before.asked sound asked
    obtain ⟨who, events, goes, -⟩ := move.taken_eq
    exact ih.goes goes sound'.handshake asked'
  | outside _ _ ih => exact ih

theorem Step.stranded (h : Step T g g') (unwinds : g.control.dispatcher = .unwinding)
    (dead : g'.control.dispatcher = .dead) (park : g.control.park = ⟨.requested, some id⟩)
    (sent : g.control.role id = .sent) : g'.control.Stranded id := by
  obtain ⟨who, _, events, -, -, goes⟩ := h.goes
  generalize g'.control = next at goes dead
  cases goes with
  | client turns =>
    rw [turns.dispatcher.1, unwinds] at dead
    cases dead
  | dispatcher turn =>
    cases turn
    case die => exact ⟨sent, park, dead⟩
    all_goals simp_all

/-- A client that a step leaves stranded was so before, or the dispatcher has died in the step. -/
theorem Step.of_stranded (h : Step T g g') (sound : g.control.Sound)
    (asked : g.control.Asked g.taken) (stranded : g'.control.Stranded id) :
    g.control.Stranded id ∨ g.control.dispatcher = .unwinding ∧
      g.control.park = ⟨.requested, some id⟩ ∧ g.control.role id = .sent := by
  obtain ⟨who, _, events, -, -, goes⟩ := h.goes
  obtain ⟨sent, park, dead⟩ := stranded
  have handover := goes.handover sound.handshake asked
  generalize g'.control = next at goes sent park dead handover
  cases goes with
  | dispatcher turn =>
    cases turn
    case die unwinds => exact .inr ⟨unwinds, park, sent⟩
    case served j s bytes h =>
      unfold Control.served at dead
      split at dead <;> cases dead
    all_goals cases dead
  | @client i _ _ turns =>
    have dead' : g.control.dispatcher = .dead := by rw [← dead, turns.dispatcher.1]
    have sent' := turns.sent_of_dead dead' sent
    refine .inl ⟨sent', ?_, dead'⟩
    rcases handover with same | ⟨j, -, before, -⟩ | ⟨j, -, -, -, after⟩ | ⟨j, there, -⟩ |
      ⟨j, -, -, after⟩ | ⟨j, o, -, -, -, after⟩
    · rw [← same, park]
    · have owner := sound.handshake.sent id sent'
      rw [before] at owner
      cases owner
    · rw [park] at after; cases after
    · rw [park] at after; cases after
    · rw [park] at after; cases after

/-- Who is stranded on a gate that was opened has been left so by the death of the dispatcher, with
its sentinel on the way. -/
theorem stranded_iff {config : Config} {i : ClientId} {device : σ} {c : Control} {b : Bus σ}
    (start : Gate.start T config i ⟨device, #[]⟩ = (.ok (.ok c), b))
    (reach : Reach T env ⟨c, b⟩ g) :
    g.control.Stranded id ↔ DiedAsked T env id ⟨c, b⟩ g := by
  constructor
  · intro stranded
    induction reach with
    | refl =>
      obtain ⟨⟨s, rfl⟩, -⟩ := opened_of_start start
      cases stranded.dead
    | step before move ih =>
      obtain ⟨sound, asked⟩ := asked_of_start start before
      rcases move.of_stranded sound asked stranded with earlier | ⟨unwinds, park, sent⟩
      · obtain ⟨last, first, there, dies, on, rest⟩ := ih earlier
        exact ⟨last, first, there, dies, .step on move, rest⟩
      · exact ⟨_, _, before, move, .refl, unwinds, stranded.dead, park, sent⟩
    | outside before change ih =>
      obtain ⟨last, first, there, dies, on, rest⟩ := ih stranded
      exact ⟨last, first, there, dies, .outside on change, rest⟩
  · rintro ⟨last, first, there, dies, on, unwinds, dead, park, sent⟩
    obtain ⟨sound, asked⟩ := asked_of_start start (.step there dies)
    exact on.stranded sound asked (dies.stranded unwinds dead park sent)

end Gate

/-- Who waits for a dispatcher whose thread has ended, over any device, which may be changed from
outside at any time, and whatever the order in which the threads move. A reader is released, and so
is whoever waits for a place in the queue or for the dispatcher's end. Nobody is left but a client
in the park handshake, and that just where a fault ended the dispatcher with the client's sentinel
on the way; it is left there for ever. Over a device that answers every call there is no such fault,
but where nothing bounds the attempts of a connect or the last page of the device ends with the last
address. -/
theorem stranded_by_fault (config : Config) (id : ClientId) (device : σ) (c : Control) (b : Bus σ)
    (start : Gate.start T config id ⟨device, #[]⟩ = (.ok (.ok c), b)) (g : Gate σ)
    (reach : Gate.Reach T env ⟨c, b⟩ g) :
    (g.control.dispatcher.HasEnded →
      (∀ i t buffer, (g.control.client i).task = .awaiting t buffer → g.Releases i t buffer) ∧
      ∀ i, (g.control.client i).task.waitsForDispatcher = true →
        g.control.move? (.client i) = none →
          (g.control.client i).task = .waitingParked ∧ g.control.Stranded i) ∧
    (∀ i, g.control.Stranded i ↔ Gate.DiedAsked T env i ⟨c, b⟩ g) ∧
    (∀ i g', g.control.Stranded i → Gate.Reach T env g g' → g'.control.Stranded i ∧
      ((g'.control.client i).task = .waitingParked → g'.control.move? (.client i) = none)) ∧
    (T.Answers → ¬ c.setup.CanOverrun → ∀ i, ¬ g.control.Stranded i) := by
  obtain ⟨sound, asked⟩ := Gate.asked_of_start start reach
  obtain ⟨-, balanced⟩ := Gate.balanced_of_start start reach
  refine ⟨fun ended => ⟨fun i t buffer there => balanced.releases ended there,
    fun i waits stuck => ?_⟩, fun i => Gate.stranded_iff start reach,
    fun i g' stranded later => ?_, fun answers bounded i stranded =>
      bounded (overrun_of_reach answers start reach (.inr stranded.dead))⟩
  · obtain ⟨there, state⟩ := Control.move?_of_hasEnded ended waits stuck
    exact ⟨there, sound.handshake.stranded ended there state⟩
  · have stays := later.stranded sound asked stranded
    exact ⟨stays, stays.stuck⟩

/-- Nobody is stranded on a gate over a chip of whole pages and sectors with bounded connects. -/
theorem Chip.nobody_stranded {profile : Profile} (whole : profile.IsWhole) {data : List UInt8}
    {failures : UInt32} {config : Config} (bounded : config.retry.retries.toNat ≠ 2 ^ 32 - 1)
    {id : ClientId} {c : Control} {b : Bus Chip}
    (start : Gate.start transport config id ⟨(make profile data).failConnects failures, #[]⟩ =
      (.ok (.ok c), b)) {g : Gate Chip} (reach : Gate.Reach transport failing ⟨c, b⟩ g)
    (i : ClientId) : ¬ g.control.Stranded i := by
  intro stranded
  obtain ⟨s, -, -, retry, -, done, stands⟩ :=
    stands_of_start (isFresh_make profile data failures) start reach
  obtain ⟨f, notLost, lost | ⟨-, unbounded | partial'⟩⟩ := stands.fault (.inr stranded.dead)
  · exact notLost lost
  · exact bounded (by rw [← retry, unbounded])
  · exact partial' whole

/-! ## A fault -/

/-- A gate that is opened over a device one byte short of the whole address space. -/
def Gate.full : Except Fault (Except DeviceError Control) × Bus PatternDevice :=
  Gate.start PatternDevice.transport { fastRead := some ⟨.raw, 0⟩, queueDepth := 4 } 0
    ⟨{ size := 0xFFFFFFFF }, #[]⟩

/-- What is read off the control state that the gate opens with. -/
def Gate.ofFull {α : Type} (f : Control → α) : Option α :=
  match Gate.full.1 with
  | .ok (.ok c) => some (f c)
  | _ => none

theorem Gate.full_opens : ∃ c, Gate.full.1 = .ok (.ok c) := by
  have opens : Gate.ofFull (fun _ => ()) = some () := by decide +kernel
  unfold ofFull at opens
  split at opens
  next c opened => exact ⟨c, opened⟩
  · cases opens

theorem Gate.start_of_full {c : Control} (opened : Gate.full.1 = .ok (.ok c)) :
    Gate.start PatternDevice.transport { fastRead := some ⟨.raw, 0⟩, queueDepth := 4 } 0
      ⟨{ size := 0xFFFFFFFF }, #[]⟩ = (.ok (.ok c), Gate.full.2) := by
  rw [← opened]
  rfl

/-- On that gate one client writes the last bytes that have an address, another asks for a read and
a third for a low-level window; then the dispatcher makes its moves. -/
def Gate.fullEnded (c : Control) : Gate PatternDevice :=
  let asked := (((⟨c, Gate.full.2⟩ : Gate PatternDevice).solo PatternDevice.transport 0
    (.write 0xFFFFFFFE [0, 0]) 8).solo PatternDevice.transport 1 (.read 0 [0, 0]) 8).solo
      PatternDevice.transport 2 .openWindow 16
  (List.replicate 5 Actor.dispatcher).foldl (Gate.turn PatternDevice.transport) asked

theorem Gate.reach_fullEnded (c : Control) : Gate.Reach PatternDevice.transport Gate.undisturbed
    ⟨c, Gate.full.2⟩ (Gate.fullEnded c) :=
  reach_turns _ (reach_solo 2 _ _ (reach_solo 1 _ _ (reach_solo 0 _ _ .refl)))

/-- Whether a fault has ended the dispatcher. -/
def Dispatcher.isDead : Dispatcher → Bool
  | .dead => true
  | _ => false

theorem Dispatcher.eq_dead {d : Dispatcher} (h : d.isDead = true) : d = .dead := by
  cases d <;> first | rfl | cases h

/-- The fault ends the dispatcher: the second client waits for the bytes of its read, and the third
one in the handshake. -/
theorem Gate.fullEnded_eq {c : Control} (opened : Gate.full.1 = .ok (.ok c)) :
    (Gate.fullEnded c).control.dispatcher = .dead ∧
      ((Gate.fullEnded c).control.client 2).task = .waitingParked ∧
      (Gate.fullEnded c).control.park.state = .requested ∧
      ∃ t buffer, ((Gate.fullEnded c).control.client 1).task = .awaiting t buffer := by
  have played : Gate.ofFull (fun c => (((Gate.fullEnded c).control.dispatcher.isDead,
      ((Gate.fullEnded c).control.client 2).task matches .waitingParked,
      (Gate.fullEnded c).control.park.state,
      ((Gate.fullEnded c).control.client 1).task matches .awaiting ..) :
        Bool × Bool × ParkState × Bool)) = some (true, true, .requested, true) := by
    decide +kernel
  simp only [Gate.ofFull, opened, Option.some.injEq, Prod.mk.injEq] at played
  obtain ⟨dead, waits, state, reads⟩ := played
  refine ⟨?_, ?_, state, ?_⟩
  · exact Dispatcher.eq_dead dead
  · split at waits
    · assumption
    · cases waits
  · split at reads
    next t buffer there => exact ⟨t, buffer, there⟩
    · cases reads

/-- There the second client is released, and the third one is left by the dispatcher's death. -/
theorem stranded_by_fault_full : ∃ c, Gate.full.1 = .ok (.ok c) ∧
    (∃ t buffer, (Gate.fullEnded c).Releases 1 t buffer) ∧
    Gate.DiedAsked PatternDevice.transport Gate.undisturbed 2 ⟨c, Gate.full.2⟩
      (Gate.fullEnded c) := by
  obtain ⟨c, opened⟩ := Gate.full_opens
  obtain ⟨dead, waits, state, t, buffer, reads⟩ := Gate.fullEnded_eq opened
  obtain ⟨ends, strands, -⟩ := stranded_by_fault _ 0 _ c _ (Gate.start_of_full opened) _
    (Gate.reach_fullEnded c)
  obtain ⟨released, stuck⟩ := ends (.inr dead)
  refine ⟨c, opened, ⟨t, buffer, released 1 t buffer reads⟩, (strands 2).1 (stuck 2 ?_ ?_).2⟩
  · rw [waits]
    rfl
  · rw [Control.move?_client_of_alive (by rw [dead]; simp), Control.clientMove?, waits]
    simp only [Control.lockMove?, if_pos state]

/-- A client that waits for its park after the dispatcher's thread has ended, and waits for ever. -/
theorem asker_stranded : ∃ c g, Gate.full.1 = .ok (.ok c) ∧
    Gate.Reach PatternDevice.transport Gate.undisturbed ⟨c, Gate.full.2⟩ g ∧
    g.control.dispatcher.HasEnded ∧ (g.control.client 2).task = .waitingParked ∧
    g.control.park.state = .requested ∧
    ∀ g', Gate.Reach PatternDevice.transport Gate.undisturbed g g' →
      g'.control.park.state = .requested ∧
        ((g'.control.client 2).task = .waitingParked → g'.control.move? (.client 2) = none) := by
  obtain ⟨c, opened⟩ := Gate.full_opens
  obtain ⟨dead, waits, state, -⟩ := Gate.fullEnded_eq opened
  refine ⟨c, _, opened, Gate.reach_fullEnded c, .inr dead, waits, state, fun g' later => ?_⟩
  obtain ⟨sound, asked⟩ :=
    Gate.asked_of_start (Gate.start_of_full opened) (Gate.reach_fullEnded c)
  have stays := later.stranded sound asked
    (sound.handshake.stranded (.inr dead) waits state)
  exact ⟨by rw [stays.park], stays.stuck⟩

end FlashGate

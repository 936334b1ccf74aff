/-
The scripts that threads run on the device. A duty is a place in a thread's code where it runs a
script; with the script it is what the thread is on. Main statements: `move?_duty`, that a thread
that drives a script is on a duty, and `reach_rest`, that a gate let come to rest, where a script
runs as a whole, is also reached with one call at a time.
-/
import FlashGate.Gateway.Session
import FlashGate.Proofs.Gateway.Reach

namespace FlashGate

/-- A place in a thread's code where it runs a script on the device. -/
inductive Duty where
  /-- The dispatcher runs a job. -/
  | serve (j : Job)
  /-- The dispatcher releases the hardware. -/
  | release (l : Leave)
  /-- The client sets up a low-level window. -/
  | setUp (id : ClientId)
  /-- The client shuts a low-level window down. -/
  | shutDown (id : ClientId) (w : Closing)
  /-- The client reads past the queue. -/
  | read (id : ClientId) (r : Bypass)

namespace Duty

/-- The thread that has the duty. -/
def actor : Duty → Actor
  | .serve _ => .dispatcher
  | .release _ => .dispatcher
  | .setUp id => .client id
  | .shutDown id _ => .client id
  | .read id _ => .client id

/-- Whether the thread is on the duty, with so much of the script left. -/
def On (c : Control) (s : Script (List UInt8)) : Duty → Prop
  | .serve j => c.dispatcher = .serving j s
  | .release l => c.dispatcher = .releasing l s
  | .setUp id => (c.client id).task = .opening s
  | .shutDown id w => (c.client id).task = .shutting w s
  | .read id r => (c.client id).task = .bypassReading r s

/-- The control state with another script for the duty. -/
def resumed (c : Control) (s : Script (List UInt8)) : Duty → Control
  | .serve j => { c with dispatcher := .serving j s }
  | .release l => { c with dispatcher := .releasing l s }
  | .setUp id => c.place id (.opening s)
  | .shutDown id w => c.place id (.shutting w s)
  | .read id r => c.place id (.bypassReading r s)

/-- The control state after the end of the duty's script, and what is told about it. -/
def ended (c : Control) (d : Duty) (r : Except Fault (List UInt8)) : Control × List Event :=
  match d, r with
  | .serve j, .ok bytes => c.served j bytes
  | .serve _, .error f => (c.dispatcherFault f, [])
  | .release l, .ok _ => ({ c with mode := .released, dispatcher := .detachingRelease l }, [])
  | .release _, .error f => (c.dispatcherFault f, [])
  | .setUp id, .ok _ => (c.place id .detachingWindow, [])
  | .setUp id, .error f => ({ c with holder := none }.place id (.unspinning (.faulted f)), [])
  | .shutDown id w, .ok _ => (c.place id (.resuming w), [])
  | .shutDown id _, .error f => ({ c with holder := none }.finish id (.faulted f), [])
  | .read id _, .ok bytes => (c.place id (.bypassDetaching (.bytes bytes)), [])
  | .read id _, .error f => (c.place id (.bypassDetaching (.faulted f)), [])

/-- The control state after a turn of the duty's script, and what is told about it. -/
def after (c : Control) (d : Duty) : Script.Progress (List UInt8) → Control × List Event
  | .unfinished rest => (d.resumed c rest, [])
  | .finished r => d.ended c r

variable {c : Control} {d : Duty} {s : Script (List UInt8)} {m : Move}

theorem ended_resumed (r : Except Fault (List UInt8)) :
    d.ended (d.resumed c s) r = d.ended c r := by
  cases d <;> cases r <;>
    simp only [ended, resumed, Control.place, Control.finish, Control.client, Control.served,
      Roster.set_set, Roster.get_set_self]
  all_goals rfl

theorem after_resumed : d.after (d.resumed c s) = d.after c := by
  funext p
  cases p with
  | unfinished rest =>
    cases d <;>
      simp [after, resumed, Control.place, Control.client]
  | finished r => exact ended_resumed r

theorem on_resumed : d.On (d.resumed c s) s := by
  cases d <;> simp [On, resumed, Control.place, Control.client]

/-- What a duty goes on with is told by its three ways to go on. -/
theorem eq_after {resume : Script.Progress (List UInt8) → Control × List Event}
    (unfinished : ∀ rest, resume (.unfinished rest) = (d.resumed c rest, []))
    (finished : ∀ bytes, resume (.finished (.ok bytes)) = d.ended c (.ok bytes))
    (fault : ∀ f, resume (.finished (.error f)) = d.ended c (.error f)) :
    resume = d.after c := by
  funext p
  match p with
  | .unfinished rest => exact unfinished rest
  | .finished (.ok bytes) => exact finished bytes
  | .finished (.error f) => exact fault f

end Duty

/-! ## Moves with a script -/

/-- A move is quiet, or the thread is on a duty and the move is a turn of its script. -/
def Move.IsDuty (c : Control) (who : Actor) (m : Move) : Prop :=
  (∃ next events, m = .quiet next events) ∨
    ∃ (d : Duty) (s : Script (List UInt8)), d.actor = who ∧ d.On c s ∧ m = .drive s (d.after c)

namespace Control

variable {c : Control} {id : ClientId} {m : Move}

theorem dispatcherMove?_duty (h : c.dispatcherMove? = some m) : m.IsDuty c .dispatcher := by
  unfold dispatcherMove? at h
  cases hd : c.dispatcher with
  | serving j s =>
    simp only [hd] at h
    cases h
    refine .inr ⟨.serve j, s, rfl, hd, congrArg (Move.drive s)
      (Duty.eq_after (fun _ => rfl) (fun _ => rfl) (fun _ => rfl))⟩
  | releasing l s =>
    simp only [hd] at h
    cases h
    refine .inr ⟨.release l, s, rfl, hd, congrArg (Move.drive s)
      (Duty.eq_after (fun _ => rfl) (fun _ => rfl) (fun _ => rfl))⟩
  | receiving =>
    simp only [hd] at h
    cases hq : c.queue with
    | nil => simp [hq] at h
    | cons msg rest =>
      simp only [hq] at h
      cases msg <;> cases h <;> exact .inl ⟨_, _, rfl⟩
  | detachingRelease l => cases l <;> simp only [hd] at h <;> cases h <;> exact .inl ⟨_, _, rfl⟩
  | _ =>
    simp only [hd] at h
    try split at h
    all_goals cases h
    all_goals exact .inl ⟨_, _, rfl⟩

theorem claim?_quiet {t : Task} (h : c.claim? id t = some m) :
    ∃ next events, m = .quiet next events := by
  unfold claim? at h
  split at h
  · cases h
  · cases h; exact ⟨_, _, rfl⟩

theorem submissionMove?_quiet {t : Task} (h : c.submissionMove? id t = some m) :
    ∃ next events, m = .quiet next events := by
  unfold submissionMove? at h
  split at h
  · obtain ⟨a, -, rfl⟩ := Option.map_eq_some_iff.1 h; exact ⟨_, _, rfl⟩
  · repeat' split at h
    all_goals cases h
    all_goals exact ⟨_, _, rfl⟩
  · cases h; exact ⟨_, _, rfl⟩
  · repeat' split at h
    all_goals cases h
    all_goals exact ⟨_, _, rfl⟩
  · cases h

theorem lockMove?_duty {t : Task} (ht : (c.client id).task = t) (h : c.lockMove? id t = some m) :
    m.IsDuty c (.client id) := by
  unfold lockMove? at h
  split at h
  case h_8 s =>
    cases h
    refine .inr ⟨.setUp id, s, rfl, ht, congrArg (Move.drive s)
      (Duty.eq_after (fun _ => rfl) (fun _ => rfl) (fun _ => rfl))⟩
  case h_7 => exact .inl (claim?_quiet h)
  all_goals try (obtain ⟨a, -, rfl⟩ := Option.map_eq_some_iff.1 h; exact .inl ⟨_, _, rfl⟩)
  all_goals try split at h
  all_goals cases h
  all_goals exact .inl ⟨_, _, rfl⟩

theorem closeMove?_duty {t : Task} (ht : (c.client id).task = t) (h : c.closeMove? id t = some m) :
    m.IsDuty c (.client id) := by
  unfold closeMove? at h
  split at h
  case h_4 w s =>
    cases h
    refine .inr ⟨.shutDown id w, s, rfl, ht, congrArg (Move.drive s)
      (Duty.eq_after (fun _ => rfl) (fun _ => rfl) (fun _ => rfl))⟩
  case h_2 => exact .inl (claim?_quiet h)
  all_goals try split at h
  all_goals cases h
  all_goals exact .inl ⟨_, _, rfl⟩

theorem bypassMove?_duty {t : Task} (ht : (c.client id).task = t)
    (h : c.bypassMove? id t = some m) : m.IsDuty c (.client id) := by
  unfold bypassMove? at h
  split at h
  case h_5 r s =>
    cases h
    refine .inr ⟨.read id r, s, rfl, ht, congrArg (Move.drive s)
      (Duty.eq_after (fun _ => rfl) (fun _ => rfl) (fun _ => rfl))⟩
  all_goals try split at h
  all_goals cases h
  all_goals exact .inl ⟨_, _, rfl⟩

theorem outsideMove?_quiet {t : Task} (h : c.outsideMove? id t = some m) :
    ∃ next events, m = .quiet next events := by
  unfold outsideMove? at h
  split at h
  · split at h <;> cases h <;> exact ⟨_, _, rfl⟩
  · simp only at h
    split at h <;> cases h <;> exact ⟨_, _, rfl⟩
  · cases h

theorem dropMove?_quiet {t : Task} (h : c.dropMove? id t = some m) :
    ∃ next events, m = .quiet next events := by
  unfold dropMove? at h
  split at h
  · split at h <;> cases h <;> exact ⟨_, _, rfl⟩
  · repeat' split at h
    all_goals cases h
    all_goals exact ⟨_, _, rfl⟩
  · split at h <;> cases h <;> exact ⟨_, _, rfl⟩
  · cases h

theorem clientMove?_duty (h : c.clientMove? id = some m) : m.IsDuty c (.client id) := by
  unfold clientMove? at h
  split at h
  · cases h
  all_goals first
    | exact .inl (submissionMove?_quiet h)
    | exact closeMove?_duty ‹_› h
    | exact bypassMove?_duty ‹_› h
    | exact .inl (outsideMove?_quiet h)
    | exact .inl (dropMove?_quiet h)
    | exact lockMove?_duty rfl h

/-- A thread that drives a script is on a duty. -/
theorem move?_duty {who : Actor} (h : c.move? who = some m) : m.IsDuty c who := by
  unfold move? at h
  split at h
  · cases h
  · exact dispatcherMove?_duty h
  · exact clientMove?_duty h

/-- A thread on a duty drives its script, as long as the process has not ended. -/
theorem move?_of_on {d : Duty} {s : Script (List UInt8)} (h : d.On c s)
    (alive : c.dispatcher ≠ .aborted) : c.move? d.actor = some (.drive s (d.after c)) := by
  have client (id : ClientId) : c.move? (.client id) = c.clientMove? id := by
    unfold move?
    split
    · exact absurd ‹_› alive
    · contradiction
    next heq _ => cases heq; rfl
  cases d with
  | serve j =>
    have hd : c.dispatcher = .serving j s := h
    simp only [Duty.actor, move?, dispatcherMove?, hd]
    exact congrArg (fun r => some (Move.drive s r))
      (Duty.eq_after (fun _ => rfl) (fun _ => rfl) (fun _ => rfl))
  | release l =>
    have hd : c.dispatcher = .releasing l s := h
    simp only [Duty.actor, move?, dispatcherMove?, hd]
    exact congrArg (fun r => some (Move.drive s r))
      (Duty.eq_after (fun _ => rfl) (fun _ => rfl) (fun _ => rfl))
  | setUp id =>
    have ht : (c.client id).task = .opening s := h
    rw [Duty.actor, client]
    simp only [clientMove?, ht, lockMove?]
    exact congrArg (fun r => some (Move.drive s r))
      (Duty.eq_after (fun _ => rfl) (fun _ => rfl) (fun _ => rfl))
  | shutDown id w =>
    have ht : (c.client id).task = .shutting w s := h
    rw [Duty.actor, client]
    simp only [clientMove?, ht, closeMove?]
    exact congrArg (fun r => some (Move.drive s r))
      (Duty.eq_after (fun _ => rfl) (fun _ => rfl) (fun _ => rfl))
  | read id r =>
    have ht : (c.client id).task = .bypassReading r s := h
    rw [Duty.actor, client]
    simp only [clientMove?, ht, bypassMove?]
    exact congrArg (fun r => some (Move.drive s r))
      (Duty.eq_after (fun _ => rfl) (fun _ => rfl) (fun _ => rfl))

end Control

/-! ## Coming to rest -/

namespace Gate

variable {σ : Type} {T : Transport σ} {env : σ → σ → Prop} {g₀ : Gate σ} {P : Gate σ → Prop}

/-- What holds of a gate holds after each move of a thread, one call at a time. -/
def KeptByMoves (T : Transport σ) (P : Gate σ → Prop) : Prop :=
  ∀ {g : Gate σ} {who : Actor} {m : Move}, P g → g.control.move? who = some m →
    P (perform T .single who m g.bus)

namespace KeptByMoves

theorem whole (kept : KeptByMoves T P) {c : Control} {b : Bus σ} {who : Actor} {m : Move}
    (hp : P ⟨c, b⟩) (h : c.move? who = some m) : P (perform T .whole who m b) := by
  rcases Control.move?_duty h with ⟨next, events, rfl⟩ | ⟨d, s, rfl, on, rfl⟩
  · exact kept hp h
  -- all along its script the thread stays on the duty
  let I (s : Script (List UInt8)) (b : Bus σ) : Prop := ∃ c', P ⟨c', b⟩ ∧
    c'.move? d.actor = some (.drive s (d.after c))
  let Q (r : Except Fault (List UInt8)) (b : Bus σ) : Prop :=
    P ⟨(d.ended c r).1, b.record d.actor (d.ended c r).2⟩
  have alive (s : Script (List UInt8)) : (d.resumed c s).dispatcher ≠ .aborted := by
    intro ha
    unfold Control.move? at h
    cases d <;> simp_all [Duty.resumed, Control.place]
  have carries (s : Script (List UInt8)) (b : Bus σ) (hi : I s b) :
      Script.Carries I Q (s.step T d.actor b) := by
    obtain ⟨c', hp, hm⟩ := hi
    have turn := kept hp hm
    simp only [perform, Script.advance] at turn
    rcases hs : s.step T d.actor b with ⟨rest | r, b'⟩ <;> rw [hs] at turn
    · have hm := Control.move?_of_on (d := d) (c := d.resumed c rest) Duty.on_resumed (alive rest)
      rw [Duty.after_resumed] at hm
      exact ⟨_, turn, hm⟩
    · exact turn
  exact Script.run_of_step carries s b ⟨c, hp, h⟩

theorem rest (kept : KeptByMoves T P) (first : ClientId) {g : Gate σ} (hp : P g) :
    P (rest T first g) := by
  have moves : ∀ (n : Nat) (c : Control) (b : Bus σ), P ⟨c, b⟩ → P (moves T first n c b) := by
    intro n
    induction n with
    | zero => exact fun c b h => h
    | succ n ih =>
      intro c b h
      rw [Gate.moves]
      split
      · exact h
      next who m hm => exact ih _ _ (kept.whole h (Control.firstMove?_eq_some hm))
  exact moves _ _ _ hp

end KeptByMoves

theorem keptByMoves_reach : KeptByMoves T (Reach T env g₀) := fun hr h => .step hr (.move h)

/-- A move carried out to its end is also made one call at a time. -/
theorem reach_whole {c : Control} {b : Bus σ} {who : Actor} {m : Move}
    (hr : Reach T env g₀ ⟨c, b⟩) (h : c.move? who = some m) :
    Reach T env g₀ (perform T .whole who m b) := keptByMoves_reach.whole hr h

/-- A gate that is let come to rest is reached step by step. -/
theorem reach_rest {g : Gate σ} (first : ClientId) (hr : Reach T env g₀ g) :
    Reach T env g₀ (rest T first g) := keptByMoves_reach.rest first hr

/-! ## One thread alone -/

/-- Lets a thread make its move to the end, if it has one. -/
def turn (T : Transport σ) (g : Gate σ) (who : Actor) : Gate σ :=
  match g with
  | ⟨c, b⟩ =>
    match c.move? who with
    | none => ⟨c, b⟩
    | some m => perform T .whole who m b

/-- Turns a client to a command, and lets it alone make so many moves. -/
def solo (T : Transport σ) (id : ClientId) (k : FlashGate.Command) (n : Nat) (g : Gate σ) :
    Gate σ :=
  match g with
  | ⟨c, b⟩ =>
    match c.begin? id k with
    | none => ⟨c, b⟩
    | some c => (List.replicate n (Actor.client id)).foldl (turn T) ⟨c, b⟩

theorem reach_turn {g : Gate σ} (who : Actor) (h : Reach T env g₀ g) :
    Reach T env g₀ (g.turn T who) := by
  obtain ⟨c, b⟩ := g
  unfold turn
  cases hm : c.move? who with
  | none => simpa [hm] using h
  | some m => simpa [hm] using reach_whole h hm

theorem reach_turns {g : Gate σ} (turns : List Actor) (h : Reach T env g₀ g) :
    Reach T env g₀ (turns.foldl (turn T) g) := by
  induction turns generalizing g with
  | nil => exact h
  | cons who turns ih => exact ih (reach_turn who h)

theorem reach_solo {g : Gate σ} (id : ClientId) (k : FlashGate.Command) (n : Nat)
    (h : Reach T env g₀ g) : Reach T env g₀ (g.solo T id k n) := by
  obtain ⟨c, b⟩ := g
  unfold solo
  cases hb : c.begin? id k with
  | none => simpa [hb] using h
  | some c' =>
    simp only [hb]
    exact reach_turns _ (.step h (.begin hb))

end Gate

theorem Session.reach_act {σ : Type} {T : Transport σ} {env : σ → σ → Prop} {g₀ : Gate σ}
    {s : Session σ} (id : ClientId) (k : FlashGate.Command) (h : Gate.Reach T env g₀ s.gate) :
    Gate.Reach T env g₀ (s.act T id k).gate := by
  obtain ⟨⟨c, b⟩, shown, cleared, waiting, apart⟩ := s
  unfold Session.act
  cases hb : c.begin? id k with
  | none => simpa [hb] using h
  | some c' =>
    simp only [hb]
    exact Gate.reach_rest id (.step h (.begin hb))

end FlashGate

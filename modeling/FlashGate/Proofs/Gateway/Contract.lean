/-
What the scripts of a gate must guarantee for a property to hold along every run. A contract says
how device and journal are between two duties, while a duty's script runs, and at its end; it is
told about one duty at a time. Main statement: `Contract.reach`, that a contract which holds when
the gate is opened holds of every gate reached, whichever thread moves next.
-/
import FlashGate.Proofs.Gateway.Stage

namespace FlashGate

/-- The bytes that a job hands over, as the journal gets them. -/
def Job.answer (j : Job) (bytes : List UInt8) : List Event :=
  if j.operation.isRead then [.answered j.ticket bytes] else []

theorem answeredIn_answer (j : Job) (bytes : List UInt8) :
    answeredIn ((j.answer bytes).map (⟨.dispatcher, ·⟩)) =
      if j.operation.isRead then [(j.ticket, bytes)] else [] := by
  unfold Job.answer
  split <;> rfl

variable {σ : Type}

/-- A property of runs, told duty by duty: how device and journal are after the given messages,
between the duties (`Rest`), while a script runs (`Runs`), and when it has ended (`Ends`). -/
structure Contract (T : Transport σ) (env : σ → σ → Prop) (s : Setup) where
  /-- Holds after the given messages at all times, also after a fault of the dispatcher. -/
  Holds : List Message → Bus σ → Prop
  Rest : Stage → List Message → Bus σ → Prop
  Runs : Duty → List Message → Script (List UInt8) → Bus σ → Prop
  Ends : Duty → List Message → Except Fault (List UInt8) → Bus σ → Prop
  /-- The faults that may hit the dispatcher. -/
  May : Fault → Prop
  /-- The jobs that the contract is about. -/
  Admits : Job → Prop := fun _ => True
  holds_rest : ∀ {st done b}, Rest st done b → Holds done b
  holds_runs : ∀ {d done script b}, Runs d done script b → Holds done b
  holds_ends : ∀ {d done r b}, Ends d done r b → Holds done b
  -- what is told aside, and what happens to the device from outside
  aside_holds : ∀ {done b who events}, (∀ e ∈ events, e.isAside = true) → Holds done b →
    Holds done (b.record who events)
  aside_rest : ∀ {st done b who events}, (∀ e ∈ events, e.isAside = true) → Rest st done b →
    Rest st done (b.record who events)
  aside_runs : ∀ {d done script b who events}, (∀ e ∈ events, e.isAside = true) →
    Runs d done script b → Runs d done script (b.record who events)
  outside_holds : ∀ {done b device}, env b.device device → Holds done b →
    Holds done { b with device }
  outside_rest : ∀ {st done b device}, env b.device device → Rest st done b →
    Rest st done { b with device }
  outside_runs : ∀ {d done script b device}, env b.device device → Runs d done script b →
    Runs d done script { b with device }
  carries : ∀ {d done script b}, Runs d done script b →
    Script.Carries (Runs d done) (Ends d done) (script.step T d.actor b)
  -- how each duty begins and ends
  serve : ∀ {m done b j}, Rest (.held m) done b → j.operation.Fits s → Admits j →
    Runs (.serve j) done (Control.serve s m j.operation) b
  served : ∀ {done b j bytes}, Ends (.serve j) done (.ok bytes) b →
    Rest (.held (.serving j.operation.kind)) (done ++ [.job j])
      (b.record .dispatcher (j.answer bytes))
  serve_fault : ∀ {done b j f}, Ends (.serve j) done (.error f) b → May f
  release : ∀ {m done b l}, Rest (.held m) done b →
    Runs (.release l) done (Control.release s m) b
  released : ∀ {done b l bytes m}, Ends (.release l) done (.ok bytes) b → m.isSentinel = true →
    Rest (.held .released) (done ++ [m]) b
  release_fault : ∀ {done b l f}, Ends (.release l) done (.error f) b → May f
  setUp : ∀ {done b id}, Rest (.held .released) done b → s.strategy ≠ .standard →
    Runs (.setUp id) done Control.openWindow b
  -- a set-up that faults counts as done
  opened : ∀ {done b id r}, Ends (.setUp id) done r b → Rest .window done b
  read : ∀ {done b id r}, Rest .window done b →
    Runs (.read id r) done
      (Transfer.fastRead s.geometry s.readChunk r.address r.buffer (some r.submode)) b
  hasRead : ∀ {done b id r result}, Ends (.read id r) done result b → Rest .window done b
  shutDown : ∀ {done b id w}, Rest .window done b →
    Runs (.shutDown id w) done Control.shutWindow b
  shut : ∀ {done b id w bytes}, Ends (.shutDown id w) done (.ok bytes) b →
    Rest (.held .released) done b
  -- a shut-down that faults counts as not done
  shut_fault : ∀ {done b id w f}, Ends (.shutDown id w) done (.error f) b → Rest .window done b

namespace Contract

variable {T : Transport σ} {env : σ → σ → Prop} {s : Setup}

/-- The contract stands at a gate, after the given messages. -/
structure Stands (K : Contract T env s) (g : Gate σ) (done : List Message) : Prop where
  setup : g.control.setup = s
  holds : K.Holds done g.bus
  taken : ∃ current, takenIn g.bus.journal.toList = done ++ current ∧
    Control.Pending g.control.dispatcher current
  runs : ∀ (d : Duty) script, d.On g.control script → K.Runs d done script g.bus
  rest : (∀ (d : Duty) script, ¬ d.On g.control script) → ∀ st, g.control.Stands st →
    K.Rest st done g.bus
  hit : g.control.dispatcher.isFaulted = true →
    ∃ f, (f = .flashLost ↔ g.control.dispatcher = .aborted) ∧ K.May f

variable {K : Contract T env s} {g : Gate σ} {done : List Message}

theorem Stands.fault (h : K.Stands g done)
    (halted : g.control.dispatcher = .unwinding ∨ g.control.dispatcher = .dead) :
    ∃ f, f ≠ .flashLost ∧ K.May f := by
  obtain ⟨f, lost, may⟩ := h.hit (by rcases halted with h | h <;> rw [h] <;> rfl)
  refine ⟨f, fun hf => ?_, may⟩
  have aborted := lost.1 hf
  rcases halted with h | h <;> rw [h] at aborted <;> cases aborted

theorem begins {c : Control} {d : Duty} {script : Script (List UInt8)} {b : Bus σ}
    (h : c.Begins d script) (setup : c.setup = s) (rest : ∀ st, c.Stands st → K.Rest st done b)
    (admits : ∀ j, d = .serve j → K.Admits j) : K.Runs d done script b := by
  subst setup
  cases h with
  | serve j stands fits => exact K.serve (rest _ stands) fits (admits j rfl)
  | release l stands => exact K.release (rest _ stands)
  | setUp id stands fast => exact K.setUp (rest _ stands) fast
  | shutDown id w stands => exact K.shutDown (rest _ stands)
  | read id r stands => exact K.read (rest _ stands)

/-- A turn of a thread that is on no duty keeps the contract. -/
theorem Stands.quiet (h : K.Stands g done) {who : Actor} {next : Control} {events : List Event}
    (goes : g.control.Goes who next events) (sound : g.control.Sound)
    (off : ∀ (d : Duty) script, d.actor = who → ¬ d.On g.control script)
    (admits : ∀ j, .job j ∈ takenIn (g.bus.record who events).journal.toList → K.Admits j) :
    K.Stands ⟨next, g.bus.record who events⟩ done := by
  have locks : next.Locks := (goes.sound sound).locks
  obtain ⟨aside, turn⟩ := goes.quiet sound off
  have takes : ∃ current, takenIn (g.bus.record who events).journal.toList = done ++ current ∧
      Control.Pending next.dispatcher current := by
    obtain ⟨current, taken, pending⟩ := h.taken
    refine ⟨_, ?_, goes.pending off pending⟩
    rw [Bus.toList_journal_record, takenIn_append, taken, List.append_assoc]
  refine ⟨goes.setup.trans h.setup, K.aside_holds aside h.holds, takes, ?_, ?_, ?_⟩
  · intro d script on
    by_cases mine : d.actor = who
    · -- the thread has just taken up the duty, and before that nobody was on one
      rcases turn with ⟨d', script', -, on', begins⟩ | ⟨away, -⟩
      · obtain ⟨rfl, rfl⟩ := on.unique on' locks
        have nobody := goes.nobody_of_begun locks off on mine
        refine K.aside_runs aside (K.begins begins h.setup (h.rest nobody) ?_)
        rintro j rfl
        obtain ⟨current, taken, pending⟩ := takes
        have place : next.dispatcher = .serving j script' := on'
        rw [place] at pending
        obtain rfl : current = [.job j] := pending
        exact admits j (by rw [taken]; simp)
      · exact absurd on (away d script mine)
    · exact K.aside_runs aside (h.runs d script ((goes.on_iff mine).1 on))
  · intro nobody st stands
    rcases turn with ⟨d, script, -, on, -⟩ | ⟨-, stage⟩
    · exact absurd on (nobody d script)
    · have before := goes.nobody_before off fun d script _ => nobody d script
      exact K.aside_rest aside (h.rest before st (stage st stands))
  · intro halted
    obtain ⟨before, same⟩ := goes.fault off halted
    rw [← same]
    exact h.hit before

theorem takenIn_step (script : Script (List UInt8)) (who : Actor) (b : Bus σ) :
    takenIn (script.step T who b).2.journal.toList = takenIn b.journal.toList := by
  obtain ⟨traffic, ht, hj⟩ := script.addsTraffic_step T who b
  rw [hj, takenIn_append, Control.takenIn_eq_nil, List.append_nil]
  intro e he
  have := ht e he
  cases e <;> first | rfl | cases this

/-- A gate whose threads are all off duty, with the device at the stage that the dispatcher's place
tells. -/
theorem Stands.settled {next : Control} {b : Bus σ} (current : List Message)
    (setup : next.setup = s) (holds : K.Holds done b)
    (taken : takenIn b.journal.toList = done ++ current)
    (pending : Control.Pending next.dispatcher current)
    (nobody : ∀ (d : Duty) script, ¬ d.On next script)
    (rest : ∀ st, next.Stands st → K.Rest st done b)
    (hit : next.dispatcher.isFaulted = true →
      ∃ f, (f = .flashLost ↔ next.dispatcher = .aborted) ∧ K.May f) : K.Stands ⟨next, b⟩ done :=
  ⟨setup, holds, ⟨current, taken, pending⟩, fun d script on => absurd on (nobody d script),
    fun _ => rest, hit⟩

/-- A turn of a duty's script that does not end it keeps the contract. -/
theorem Stands.resumed (h : K.Stands g done) {d : Duty} {script rest : Script (List UInt8)}
    {b : Bus σ} (on : d.On g.control script) (locks : (d.resumed g.control rest).Locks)
    (setup : (d.resumed g.control rest).setup = s)
    (taken : takenIn b.journal.toList = takenIn g.bus.journal.toList)
    (runs : K.Runs d done rest b) :
    K.Stands ⟨d.resumed g.control rest, b⟩ done := by
  refine ⟨setup, K.holds_runs runs, ?_, ?_, ?_, ?_⟩
  · obtain ⟨current, old, pending⟩ := h.taken
    refine ⟨current, taken.trans old, ?_⟩
    cases d
    case serve j =>
      have hd : g.control.dispatcher = .serving j script := on
      rwa [hd] at pending
    case release l =>
      have hd : g.control.dispatcher = .releasing l script := on
      rwa [hd] at pending
    all_goals exact pending
  · intro d' script' on'
    obtain ⟨rfl, rfl⟩ := Duty.On.unique Duty.on_resumed on' locks
    exact runs
  · exact fun nobody => absurd Duty.on_resumed (nobody d rest)
  · intro halted
    cases d
    case serve j => cases halted
    case release l => cases halted
    all_goals exact h.hit halted

theorem nobody_of_dispatcher {c : Control} (locks : c.Locks)
    (holds : c.dispatcher.onTransport = true) (hs : ∀ j s, c.dispatcher ≠ .serving j s)
    (hr : ∀ l s, c.dispatcher ≠ .releasing l s) (d : Duty) (script : Script (List UInt8)) :
    ¬ d.On c script :=
  Duty.not_on_of_holder locks .dispatcher holds (Control.not_on_of_place hs hr) d script

theorem nobody_of_client {c : Control} (locks : c.Locks) (id : ClientId)
    (holds : (c.client id).task.onTransport = true) (off : (c.client id).task.isDuty = false)
    (d : Duty) (script : Script (List UInt8)) : ¬ d.On c script :=
  Duty.not_on_of_holder locks (.client id) holds (Duty.not_on_of_off off) d script

theorem nobody_of_free {c : Control} (locks : c.Locks) (free : c.holder = none) (d : Duty)
    (script : Script (List UInt8)) : ¬ d.On c script := by
  intro on
  have := (locks.transport _).2 on.onTransport
  rw [free] at this
  cases this

theorem takenIn_answer (b : Bus σ) (who : Actor) (j : Job) (bytes : List UInt8) :
    takenIn (b.record who (j.answer bytes)).journal.toList = takenIn b.journal.toList := by
  rw [Bus.toList_journal_record, takenIn_append, Control.takenIn_eq_nil, List.append_nil]
  intro e he
  unfold Job.answer at he
  split at he
  · rw [List.mem_singleton.1 he]
    rfl
  · cases he

/-- A fault of the dispatcher ends all duties. -/
theorem Stands.faulted (h : K.Stands g done) {f : Fault} {b : Bus σ} {current : List Message}
    (locks : (g.control.dispatcherFault f).Locks) (holds : K.Holds done b)
    (taken : takenIn b.journal.toList = done ++ current) (may : K.May f) :
    K.Stands ⟨g.control.dispatcherFault f, b⟩ done := by
  cases hf : f
  case flashLost =>
    subst hf
    exact .settled _ h.setup holds taken trivial
      (nobody_of_dispatcher locks rfl (by simp [Control.dispatcherFault])
        (by simp [Control.dispatcherFault])) (fun st stands => stands.elim)
      (fun _ => ⟨_, by simp [Control.dispatcherFault], may⟩)
  all_goals
    subst hf
    exact .settled _ h.setup holds taken trivial (nobody_of_free locks rfl)
      (fun st stands => stands.elim) (fun _ => ⟨_, by simp [Control.dispatcherFault], may⟩)

/-! ### The end of a duty's script -/

section Ended

variable {b : Bus σ} {script : Script (List UInt8)} {id : ClientId}

/-- A job that was served is done, and its bytes are handed over. -/
theorem Stands.ended_serve (h : K.Stands g done) {j : Job} {bytes : List UInt8}
    (locks : (g.control.served j bytes).1.Locks)
    (taken : takenIn b.journal.toList = done ++ [.job j])
    (ends : K.Ends (.serve j) done (.ok bytes) b) :
    K.Stands ⟨(g.control.served j bytes).1, b.record .dispatcher (g.control.served j bytes).2⟩
      (done ++ [.job j]) := by
  have served : (g.control.served j bytes).1.dispatcher = .detaching j ∧
      (g.control.served j bytes).1.setup = g.control.setup ∧
      (g.control.served j bytes).2 = j.answer bytes := by
    unfold Control.served Job.answer
    split <;> exact ⟨rfl, rfl, rfl⟩
  obtain ⟨place, setup, events⟩ := served
  rw [events]
  have rest := K.served ends
  refine .settled [] (setup.trans h.setup) (K.holds_rest rest) ?_ ?_ ?_ ?_ ?_
  · rw [takenIn_answer, taken, List.append_nil]
  · rw [place]
    rfl
  · exact nobody_of_dispatcher locks (by rw [place]; rfl) (by simp [place]) (by simp [place])
  · intro st stands
    simp only [Control.Stands, place] at stands
    subst stands
    exact rest
  · simp [place, Dispatcher.isFaulted]

/-- The sentinel of a release that went well is done. -/
theorem Stands.ended_release (h : K.Stands g done) {l : Leave} {bytes : List UInt8} {m : Message}
    (sentinel : m.isSentinel = true)
    (locks : ({ g.control with mode := .released, dispatcher := .detachingRelease l } :
      Control).Locks)
    (taken : takenIn b.journal.toList = done ++ [m])
    (ends : K.Ends (.release l) done (.ok bytes) b) :
    K.Stands ⟨{ g.control with mode := .released, dispatcher := .detachingRelease l }, b⟩
      (done ++ [m]) := by
  have rest := K.released ends sentinel
  refine .settled [] h.setup (K.holds_rest rest) (taken.trans (List.append_nil _).symm) rfl
    (nobody_of_dispatcher locks rfl (by simp) (by simp)) (fun st stands => ?_)
    (by simp [Dispatcher.isFaulted])
  cases stands
  exact rest

/-- While the dispatcher is parked and nobody is on duty, the device is as the window tells. -/
theorem Stands.of_parked (h : K.Stands g done) {n : Control} (setup : n.setup = g.control.setup)
    (same : n.dispatcher = g.control.dispatcher) (parked : g.control.dispatcher = .parked)
    (taken : takenIn b.journal.toList = takenIn g.bus.journal.toList)
    (nobody : ∀ (d : Duty) script, ¬ d.On n script)
    (isOpen : n.IsOpen → K.Rest .window done b)
    (shut : ¬ n.IsOpen → K.Rest (.held .released) done b) : K.Stands ⟨n, b⟩ done := by
  obtain ⟨current, before, pending⟩ := h.taken
  have holds : K.Holds done b := by
    by_cases opened : n.IsOpen
    · exact K.holds_rest (isOpen opened)
    · exact K.holds_rest (shut opened)
  refine .settled current (setup.trans h.setup) holds (taken.trans before) (by rwa [same]) nobody
    (fun st stands => ?_) (by rw [same]; exact h.hit)
  rcases (Control.stands_parked (same.trans parked) st).1 stands with ⟨opened, rfl⟩ | ⟨away, rfl⟩
  · exact isOpen opened
  · exact shut away

/-- The window is open after its set-up, also when the set-up has faulted. -/
theorem Stands.ended_setUp (h : K.Stands g done) {r : Except Fault (List UInt8)}
    (on : (g.control.client id).task = .opening script) (sound : g.control.Sound)
    (next : ((Duty.setUp id).ended g.control r).1.Sound)
    (taken : takenIn b.journal.toList = takenIn g.bus.journal.toList)
    (ends : K.Ends (.setUp id) done r b) :
    K.Stands ⟨((Duty.setUp id).ended g.control r).1, b⟩ done := by
  have parked := sound.handshake.parked (sound.fitting.parked id (by rw [on]; rfl))
  have rest := K.opened ends
  cases r with
  | ok bytes =>
    have place : ((g.control.place id .detachingWindow).client id).task = .detachingWindow := by
      simp [Control.place, Control.client]
    exact h.of_parked rfl rfl parked taken
      (nobody_of_client next.locks id (by simp [Duty.ended, place, Task.onTransport])
        (by simp [Duty.ended, place, Task.isDuty]))
      (fun _ => rest) (absurd (next.isOpen_of_setUp place))
  | error f =>
    have place : ((({ g.control with holder := none } : Control).place id
        (.unspinning (.faulted f))).client id).task = .unspinning (.faulted f) := by
      simp [Control.place, Control.client]
    obtain ⟨state, owner⟩ := sound.handshake.enters id (by rw [Control.role, on]; rfl)
    have isOpen := @Control.Sound.isOpen_of_owner _ id next state owner
      (by simp [Duty.ended, place, Task.isUnset]) fun j there => by
        cases (next.locks.transport (.client j)).2 there
    exact h.of_parked rfl rfl parked taken (nobody_of_free next.locks rfl) (fun _ => rest)
      (absurd isOpen)

/-- The window is shut after its shut-down, unless the shut-down has faulted. -/
theorem Stands.ended_shutDown (h : K.Stands g done) {w : Closing} {r : Except Fault (List UInt8)}
    (on : (g.control.client id).task = .shutting w script) (sound : g.control.Sound)
    (next : ((Duty.shutDown id w).ended g.control r).1.Sound)
    (taken : takenIn b.journal.toList = takenIn g.bus.journal.toList)
    (ends : K.Ends (.shutDown id w) done r b) :
    K.Stands ⟨((Duty.shutDown id w).ended g.control r).1, b⟩ done := by
  have state := sound.fitting.parked id (by rw [on]; rfl)
  have parked := sound.handshake.parked state
  cases r with
  | ok bytes =>
    have place : ((g.control.place id (.resuming w)).client id).task = .resuming w := by
      simp [Control.place, Control.client]
    refine h.of_parked rfl rfl parked taken
      (nobody_of_client next.locks id (by simp [Duty.ended, place, Task.onTransport])
        (by simp [Duty.ended, place, Task.isDuty])) (fun isOpen => ?_) fun _ => K.shut ends
    have set := isOpen.2 id
    simp [Duty.ended, place, Task.isUnset] at set
  | error f =>
    have isOpen : g.control.IsOpen := sound.isOpen_of_close (w := w)
      (by rw [Control.role, on]; rfl) (by simp [Control.onTransport, on, Task.onTransport])
      (by rw [on]; rfl) state
    have still : (({ g.control with holder := none } : Control).finish id (.faulted f)).IsOpen := by
      refine ⟨isOpen.1, fun j => ?_⟩
      by_cases hj : j = id
      · subst hj
        simp [Control.finish, Control.client, Task.isUnset]
      · have := isOpen.2 j
        simpa [Control.finish, Control.client, hj] using this
    exact h.of_parked rfl rfl parked taken (nobody_of_free next.locks rfl)
      (fun _ => K.shut_fault ends) (absurd still)

/-- A read past the queue leaves the window open, whatever comes of it. -/
theorem Stands.ended_read (h : K.Stands g done) {q : Bypass} {r : Except Fault (List UInt8)}
    {a : Answer} (on : (g.control.client id).task = .bypassReading q script)
    (sound : g.control.Sound) (next : (g.control.place id (.bypassDetaching a)).Sound)
    (taken : takenIn b.journal.toList = takenIn g.bus.journal.toList)
    (ends : K.Ends (.read id q) done r b) :
    K.Stands ⟨g.control.place id (.bypassDetaching a), b⟩ done := by
  have state := sound.fitting.parked id (by rw [on]; rfl)
  have place : ((g.control.place id (.bypassDetaching a)).client id).task =
      .bypassDetaching a := by
    simp [Control.place, Control.client]
  exact h.of_parked rfl rfl (sound.handshake.parked state) taken
    (nobody_of_client next.locks id (by rw [place]; rfl) (by rw [place]; rfl))
    (fun _ => K.hasRead ends)
    (absurd (next.isOpen_of_locks state (by rw [place]; rfl) (by rw [place]; rfl)))

/-- The end of a duty's script keeps the contract. -/
theorem Stands.ended (h : K.Stands g done) {d : Duty} {r : Except Fault (List UInt8)}
    (on : d.On g.control script) (sound : g.control.Sound) (next : (d.ended g.control r).1.Sound)
    (taken : takenIn b.journal.toList = takenIn g.bus.journal.toList) (ends : K.Ends d done r b) :
    ∃ done', K.Stands
      ⟨(d.ended g.control r).1, b.record d.actor (d.ended g.control r).2⟩ done' := by
  obtain ⟨current, old, pending⟩ := h.taken
  have now := taken.trans old
  cases d with
  | serve j =>
    cases r with
    | ok bytes =>
      have place : g.control.dispatcher = .serving j script := on
      rw [place] at pending
      obtain rfl : current = [.job j] := pending
      exact ⟨_, h.ended_serve next.locks now ends⟩
    | error f => exact ⟨done, h.faulted next.locks (K.holds_ends ends) now (K.serve_fault ends)⟩
  | release l =>
    cases r with
    | ok bytes =>
      have place : g.control.dispatcher = .releasing l script := on
      rw [place] at pending
      obtain ⟨m, rfl, sentinel⟩ := pending
      exact ⟨_, h.ended_release sentinel next.locks now ends⟩
    | error f => exact ⟨done, h.faulted next.locks (K.holds_ends ends) now (K.release_fault ends)⟩
  | setUp id => cases r <;> exact ⟨done, h.ended_setUp on sound next taken ends⟩
  | shutDown id w => cases r <;> exact ⟨done, h.ended_shutDown on sound next taken ends⟩
  | read id q => cases r <;> exact ⟨done, h.ended_read on sound next taken ends⟩

end Ended

/-- Every step of a gate keeps the contract. -/
theorem Stands.step {g' : Gate σ} (h : K.Stands g done) (sound : g.control.Sound)
    (move : Gate.Step T g g')
    (admits : ∀ j, .job j ∈ takenIn g'.bus.journal.toList → K.Admits j) :
    ∃ done', K.Stands g' done' := by
  cases move with
  | @begin id k c hb =>
    have goes : g.control.Goes (.client id) c [] := .client (Control.begin?_turn hb)
    have off : (g.control.client id).task.isDuty = false := by
      rw [Control.idle_of_begin? hb]
      rfl
    exact ⟨done, h.quiet goes sound (Duty.not_on_of_off off) admits⟩
  | @move who m hm =>
    have goes := Control.move?_goes hm
    rcases Control.move?_duty hm with ⟨next, events, rfl⟩ | ⟨d, script, rfl, on, rfl⟩
    · refine ⟨done, h.quiet goes sound (fun d script hd on => ?_) admits⟩
      have := Control.move?_of_on on (Control.alive_of_move? hm)
      rw [hd, hm] at this
      cases this
    · have taken := takenIn_step (T := T) script d.actor g.bus
      have carries := K.carries (h.runs d script on)
      simp only [Gate.perform, Script.advance]
      rcases hs : script.step T d.actor g.bus with ⟨rest | r, b⟩ <;> rw [hs] at taken carries
      · have goes : g.control.Goes d.actor (d.resumed g.control rest) [] := goes (.unfinished rest)
        have next := goes.sound sound
        exact ⟨done, h.resumed on next.locks (goes.setup.trans h.setup) taken carries⟩
      · exact h.ended on sound ((goes (.finished r)).sound sound) taken carries

theorem Stands.opened {b : Bus σ} (rest : K.Rest (.held .released) [] b)
    (taken : takenIn b.journal.toList = []) : K.Stands ⟨{ setup := s }, b⟩ [] := by
  refine .settled [] rfl (K.holds_rest rest) taken rfl (fun d script on => ?_)
    (fun st stands => ?_) (by simp [Dispatcher.isFaulted])
  · cases d <;> simp [Duty.On, Control.client, Roster.get, Roster.find] at on
  · obtain rfl : st = .held .released := stands
    exact rest

theorem taken_begins {g' : Gate σ} (move : Gate.Step T g g') :
    takenIn g.bus.journal.toList <+: takenIn g'.bus.journal.toList := by
  obtain ⟨who, traffic, events, -, journal, -⟩ := move.goes
  rw [journal, takenIn_append]
  exact List.prefix_append ..

/-- A contract that stands at a gate stands at every gate reached from it, as long as the dispatcher
takes no jobs but those that the contract is about. -/
theorem reach {g₀ : Gate σ} (h₀ : K.Stands g₀ done) (sound : g₀.control.Sound)
    (hr : Gate.Reach T env g₀ g)
    (admits : ∀ j, .job j ∈ takenIn g.bus.journal.toList → K.Admits j := by
      exact fun _ _ => trivial) : g.control.Sound ∧ ∃ done', K.Stands g done' := by
  have sounds {g : Gate σ} (hr : Gate.Reach T env g₀ g) : g.control.Sound :=
    hr.invariant sound fun _ _ _ _ hs goes => goes.sound hs
  refine ⟨sounds hr, ?_⟩
  induction hr with
  | refl => exact ⟨done, h₀⟩
  | step hr move ih =>
    obtain ⟨done', h⟩ := ih fun j taken => admits j ((taken_begins move).subset taken)
    exact h.step (sounds hr) move admits
  | outside hr change ih =>
    obtain ⟨done', h⟩ := ih admits
    exact ⟨done', h.setup, K.outside_holds change h.holds, h.taken,
      fun d script on => K.outside_runs change (h.runs d script on),
      fun nobody st stands => K.outside_rest change (h.rest nobody st stands), h.hit⟩

end Contract

theorem takenIn_start (T : Transport σ) (config : Config) (id : ClientId) (device : σ) :
    takenIn (Gate.start T config id ⟨device, #[]⟩).2.journal.toList = [] := by
  obtain ⟨traffic, plain, journal⟩ := Gate.addsTraffic_start T config id ⟨device, #[]⟩
  rw [journal, takenIn_append, Control.takenIn_eq_nil]
  · rfl
  · intro e he
    have := plain e he
    cases e <;> first | rfl | cases this

theorem Gate.opened_of_start {T : Transport σ} {config : Config} {id : ClientId} {device : σ}
    {c : Control} {b : Bus σ} (start : Gate.start T config id ⟨device, #[]⟩ = (.ok (.ok c), b)) :
    (∃ s : Setup, c = { setup := s }) ∧ ∃ traffic : List Event,
      (∀ e ∈ traffic, e.isTraffic = true) ∧
        b.journal.toList = traffic.map (⟨.client id, ·⟩) := by
  obtain ⟨traffic, plain, journal⟩ := Gate.addsTraffic_start T config id ⟨device, #[]⟩
  rw [start] at journal
  refine ⟨?_, traffic, plain, journal⟩
  unfold Gate.start at start
  rcases hr : (BringUp.script config).run T (.client id) ⟨device, #[]⟩ with
    ⟨f | ⟨e | ⟨g, st⟩⟩, b'⟩ <;> rw [hr] at start <;> cases start
  exact ⟨_, rfl⟩

/-! ## Contracts told in a world -/

/-- A contract told in a world: what is seen of device and journal after the given messages, and a
judgement about the script of each duty. -/
structure Judgement (T : Transport σ) (env : σ → σ → Prop) (s : Setup) (ω : Type) where
  W : Actor → World ω
  Seen : List Message → Bus σ → ω → Prop
  shows : ∀ done who, (W who).Shows T who (Seen done)
  aside : ∀ {done b w who events}, (∀ e ∈ events, e.isAside = true) → Seen done b w →
    Seen done (b.record who events) w
  outside : ∀ {done b w device}, env b.device device → Seen done b w →
    Seen done { b with device } w
  sentinel : ∀ {done b w} {m : Message}, m.isSentinel = true → Seen done b w →
    Seen (done ++ [m]) b w
  Rest : Stage → List Message → ω → Prop
  /-- How it is when a job is done, and its bytes not yet handed over. -/
  Served : List Message → Job → List UInt8 → ω → Prop
  May : Fault → Prop
  Admits : Job → Prop := fun _ => True
  serve : ∀ {m done w j}, Rest (.held m) done w → j.operation.Fits s → Admits j →
    (Control.serve s m j.operation).Always (W .dispatcher) (fun r w => match r with
      | .ok bytes => Served done j bytes w
      | .error f => May f) w
  served : ∀ {done j bytes b w}, Served done j bytes w → Seen done b w →
    Seen (done ++ [.job j]) (b.record .dispatcher (j.answer bytes)) w ∧
      Rest (.held (.serving j.operation.kind)) (done ++ [.job j]) w
  release : ∀ {m done w}, Rest (.held m) done w →
    (Control.release s m).Always (W .dispatcher) (fun r w => match r with
      | .ok _ => ∀ m : Message, m.isSentinel = true → Rest (.held .released) (done ++ [m]) w
      | .error f => May f) w
  setUp : ∀ {done w id}, Rest (.held .released) done w → s.strategy ≠ .standard →
    Control.openWindow.Always (W (.client id)) (fun _ w => Rest .window done w) w
  read : ∀ {done w id} {r : Bypass}, Rest .window done w →
    (Transfer.fastRead s.geometry s.readChunk r.address r.buffer (some r.submode)).Always
      (W (.client id)) (fun _ w => Rest .window done w) w
  shutDown : ∀ {done w id}, Rest .window done w →
    Control.shutWindow.Always (W (.client id)) (fun r w => match r with
      | .ok _ => Rest (.held .released) done w
      | .error _ => Rest .window done w) w

namespace Judgement

variable {T : Transport σ} {env : σ → σ → Prop} {s : Setup} {ω : Type}

/-- How it is at the end of a duty's script. -/
def Ends (J : Judgement T env s ω) (d : Duty) (done : List Message)
    (r : Except Fault (List UInt8)) (w : ω) : Prop :=
  match d with
  | .serve j =>
    match r with
    | .ok bytes => J.Served done j bytes w
    | .error f => J.May f
  | .release _ =>
    match r with
    | .ok _ => ∀ m : Message, m.isSentinel = true → J.Rest (.held .released) (done ++ [m]) w
    | .error f => J.May f
  | .setUp _ => J.Rest .window done w
  | .shutDown .. =>
    match r with
    | .ok _ => J.Rest (.held .released) done w
    | .error _ => J.Rest .window done w
  | .read .. => J.Rest .window done w

/-- The contract of a judgement. -/
def contract (J : Judgement T env s ω) : Contract T env s where
  Holds done b := ∃ w, J.Seen done b w
  Rest st done b := ∃ w, J.Seen done b w ∧ J.Rest st done w
  Runs d done script b := ∃ w, J.Seen done b w ∧ script.Always (J.W d.actor) (J.Ends d done) w
  Ends d done r b := ∃ w, J.Seen done b w ∧ J.Ends d done r w
  May := J.May
  Admits := J.Admits
  holds_rest := fun ⟨w, seen, _⟩ => ⟨w, seen⟩
  holds_runs := fun ⟨w, seen, _⟩ => ⟨w, seen⟩
  holds_ends := fun ⟨w, seen, _⟩ => ⟨w, seen⟩
  aside_holds := fun h ⟨w, seen⟩ => ⟨w, J.aside h seen⟩
  aside_rest := fun h ⟨w, seen, rest⟩ => ⟨w, J.aside h seen, rest⟩
  aside_runs := fun h ⟨w, seen, runs⟩ => ⟨w, J.aside h seen, runs⟩
  outside_holds := fun h ⟨w, seen⟩ => ⟨w, J.outside h seen⟩
  outside_rest := fun h ⟨w, seen, rest⟩ => ⟨w, J.outside h seen, rest⟩
  outside_runs := fun h ⟨w, seen, runs⟩ => ⟨w, J.outside h seen, runs⟩
  carries := by
    rintro d done script b ⟨w, seen, runs⟩
    obtain ⟨w', seen', h⟩ := Script.Always.step (J.shows done d.actor) runs seen
    rcases hs : script.step T d.actor b with ⟨rest | r, b'⟩ <;> rw [hs] at seen' h <;>
      exact ⟨w', seen', h⟩
  serve := fun ⟨w, seen, rest⟩ fits admits => ⟨w, seen, J.serve rest fits admits⟩
  served := by
    rintro done b j bytes ⟨w, seen, ends⟩
    obtain ⟨seen', rest⟩ := J.served ends seen
    exact ⟨w, seen', rest⟩
  serve_fault := fun ⟨_, _, may⟩ => may
  release := fun ⟨w, seen, rest⟩ => ⟨w, seen, J.release rest⟩
  released := fun ⟨w, seen, ends⟩ sentinel => ⟨w, J.sentinel sentinel seen, ends _ sentinel⟩
  release_fault := fun ⟨_, _, may⟩ => may
  setUp := fun ⟨w, seen, rest⟩ fast => ⟨w, seen, J.setUp rest fast⟩
  opened := fun ⟨w, seen, rest⟩ => ⟨w, seen, rest⟩
  read := fun ⟨w, seen, rest⟩ => ⟨w, seen, J.read rest⟩
  hasRead := fun ⟨w, seen, rest⟩ => ⟨w, seen, rest⟩
  shutDown := fun ⟨w, seen, rest⟩ => ⟨w, seen, J.shutDown rest⟩
  shut := fun ⟨w, seen, rest⟩ => ⟨w, seen, rest⟩
  shut_fault := fun ⟨w, seen, rest⟩ => ⟨w, seen, rest⟩

end Judgement

end FlashGate

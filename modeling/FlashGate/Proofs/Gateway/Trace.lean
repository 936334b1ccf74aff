/-
The trace of a gate: the calls that its threads make on the device, in order. Whatever the device
answers, a trace is made of calls of the dispatcher and of low-level windows, each of which starts
with all hardware released. Main statements: `Trace.judgement`, that the scripts of all threads
keep to this; `released_of_start`, that bring-up leaves all hardware released; and
`traced_of_reach`, that the judgement stands all along a run.
-/
import FlashGate.Proofs.Gateway.Contract
import FlashGate.Proofs.Transfer

namespace FlashGate

open Transfer (Pins)

/-- Whether a low-level window makes the call, or the call is a poll. These answer with no error of
their own. -/
def Call.isWindow : Call → Bool
  | .fastReadSetup => true
  | .fastReadApplyCalibration => true
  | .fastReadSetMode _ => true
  | .fastRead .. => true
  | .fastReadShutdown => true
  | c => c.isPoll

/-- The calls of low-level windows come back. -/
def Transport.Returns {σ : Type} (T : Transport σ) : Prop :=
  ∀ d c, c.isWindow = true → (T.perform d c).reply.isOk = true

/-! ## Traces -/

/-- Calls in order, with the threads that made them. Polls are left out. -/
abbrev Trace := List (Actor × Call)

/-- The call in an entry of the journal, unless it is a poll. -/
def Entry.traced? (e : Entry) : Option (Actor × Call) :=
  match e.event with
  | .call c _ => if c.isPoll = true then none else some (e.actor, c)
  | _ => none

/-- The trace that a journal tells. -/
def tracedIn (journal : List Entry) : Trace := journal.filterMap Entry.traced?

@[simp] theorem tracedIn_append (a b : List Entry) : tracedIn (a ++ b) = tracedIn a ++ tracedIn b :=
  List.filterMap_append ..

theorem tracedIn_aside {who : Actor} {events : List Event}
    (h : ∀ e ∈ events, ∀ c r, e ≠ .call c r) : tracedIn (events.map (⟨who, ·⟩)) = [] := by
  rw [tracedIn, List.filterMap_eq_nil_iff]
  intro x hx
  obtain ⟨e, he, rfl⟩ := List.mem_map.1 hx
  have := h e he
  cases e with
  | call c r => exact absurd rfl (this c r)
  | _ => rfl

namespace Trace

/-- The trace with one more call; a poll leaves it as it is. -/
def add (t : Trace) (who : Actor) (c : Call) : Trace :=
  if c.isPoll = true then t else t ++ [(who, c)]

theorem add_of_poll {t : Trace} {who : Actor} {c : Call} (h : c.isPoll = true) :
    t.add who c = t := if_pos h

theorem add_eq {t : Trace} {who : Actor} {c : Call} (h : c.isPoll = false) :
    t.add who c = t ++ [(who, c)] := if_neg (by simp [h])

theorem tracedIn_call {σ : Type} (T : Transport σ) (who : Actor) (c : Call) (b : Bus σ) :
    tracedIn (b.call T who c).2.journal.toList = add (tracedIn b.journal.toList) who c := by
  have breaches : tracedIn (((T.perform b.device c).breaches.map Event.breach).map (⟨who, ·⟩)) =
      [] := by
    refine tracedIn_aside fun e he c r => ?_
    obtain ⟨x, -, rfl⟩ := List.mem_map.1 he
    simp
  rw [Bus.toList_journal_call, tracedIn_append, List.map_cons, ← List.singleton_append,
    tracedIn_append, breaches, List.append_nil]
  unfold add
  split <;> simp_all [tracedIn, Entry.traced?]

end Trace

/-! ## Pins -/

/-- The pins after a call. A connect takes them whatever it answers. -/
def Transfer.Pins.after (p : Pins) : Call → Pins
  | .connect => ⟨true, p.fast⟩
  | .disconnect => ⟨false, p.fast⟩
  | .fastReadSetup => ⟨p.connected, true⟩
  | .fastReadShutdown => ⟨p.connected, false⟩
  | _ => p

namespace Trace

/-- Which hardware is held after the calls of a trace. -/
def pins (t : Trace) : Pins := t.foldl (fun p e => p.after e.2) {}

theorem pins_append (t u : Trace) : pins (t ++ u) = u.foldl (fun p e => p.after e.2) t.pins :=
  List.foldl_append ..

theorem pins_add (t : Trace) (who : Actor) (c : Call) : (t.add who c).pins = t.pins.after c := by
  unfold add
  split
  next h => cases c <;> first | rfl | cases h
  next h => exact pins_append t [(who, c)]

theorem after_of_stays {c : Call} (h : Transfer.stays c) (p : Pins) : p.after c = p := by
  cases c <;> first | rfl | cases h

/-! ## Windows -/

/-- A read past the queue, as its calls tell it: each piece is fetched in the read's submode. -/
structure PastRead where
  reader : ClientId
  submode : Submode
  pieces : List (UInt32 × List UInt8)

/-- The calls of a read past the queue. -/
def PastRead.calls (r : PastRead) : Trace :=
  r.pieces.flatMap fun p =>
    [(.client r.reader, .fastReadSetMode r.submode), (.client r.reader, .fastRead p.1 p.2)]

/-- A low-level window: who opened it, the reads, and who shut it down. -/
structure Window where
  opener : ClientId
  reads : List PastRead
  closer : ClientId

/-- The calls of a window that is still open. -/
def opened (opener : ClientId) (reads : List PastRead) : Trace :=
  [(.client opener, .fastReadSetup), (.client opener, .fastReadApplyCalibration)] ++
    reads.flatMap PastRead.calls

/-- The calls of a window, from its set-up to its shut-down. -/
def Window.calls (w : Window) : Trace :=
  opened w.opener w.reads ++ [(.client w.closer, .fastReadShutdown)]

theorem foldl_stays {l : Trace} (h : ∀ e ∈ l, Transfer.stays e.2) (p : Pins) :
    l.foldl (fun p e => p.after e.2) p = p := by
  induction l generalizing p with
  | nil => rfl
  | cons e rest ih =>
    rw [List.foldl_cons, after_of_stays (h e (List.mem_cons_self ..))]
    exact ih (fun e he => h e (List.mem_cons_of_mem _ he)) p

/-- A window leaves the pins as it found them. -/
theorem pins_window {t : Trace} (released : t.pins = {}) (w : Window) :
    (t ++ w.calls).pins = {} := by
  have stay : ∀ e ∈ w.reads.flatMap PastRead.calls, Transfer.stays e.2 := by
    intro e he
    obtain ⟨r, -, hr⟩ := List.mem_flatMap.1 he
    obtain ⟨p, -, hp⟩ := List.mem_flatMap.1 hr
    rcases List.mem_cons.1 hp with rfl | hp
    · rfl
    · rw [List.mem_singleton.1 hp]
      rfl
  rw [pins_append, released, Window.calls, opened, List.foldl_append, List.foldl_append,
    foldl_stays stay]
  rfl

/-- After the given start, the trace is made of calls of the dispatcher and of whole windows; a
window starts with all hardware released. -/
inductive Blocks (start : Trace) : Trace → Prop
  | start : Blocks start start
  | dispatcher {t : Trace} (c : Call) (h : Blocks start t) : Blocks start (t ++ [(.dispatcher, c)])
  | window {t : Trace} (w : Window) (h : Blocks start t) (released : t.pins = {}) :
    Blocks start (t ++ w.calls)

/-- The trace is made of blocks, and at its end there may be a part of a window. -/
def Shaped (start t : Trace) : Prop :=
  ∃ u part, Blocks start u ∧ t = u ++ part ∧
    (part = [] ∨ u.pins = {} ∧ ∃ w : Window, part <+: w.calls)

variable {start t u part : Trace}

theorem Blocks.shaped (h : Blocks start t) : Shaped start t :=
  ⟨t, [], h, (List.append_nil t).symm, .inl rfl⟩

theorem Blocks.shaped_window (h : Blocks start u) (released : u.pins = {}) {w : Window}
    (hp : part <+: w.calls) : Shaped start (u ++ part) :=
  ⟨u, part, h, rfl, .inr ⟨released, w, hp⟩⟩

theorem Blocks.add (h : Blocks start t) (c : Call) : Blocks start (t.add .dispatcher c) := by
  unfold Trace.add
  split
  · exact h
  · exact h.dispatcher c

/-! ## The scripts of the dispatcher -/

open Script

/-- The world of a thread that keeps to the shape: the dispatcher calls while no window is under
way, a client as its window goes on. -/
def world (start : Trace) (who : Actor) : World Trace where
  permits t c :=
    match who with
    | .dispatcher => Blocks start t
    | .client _ => Shaped start (t.add who c)
  reacts t c r t' := t' = t.add who c ∧ (c.isWindow = true → r.isOk = true)

theorem isWindow_of_isPoll {c : Call} (h : c.isPoll = true) : c.isWindow = true := by
  cases c <;> first | rfl | cases h

/-- Blocks, with the given pins held. -/
def At (start : Trace) (p : Pins) (t : Trace) : Prop := Blocks start t ∧ t.pins = p

theorem At.add {p : Pins} (h : At start p t) (c : Call) :
    At start (p.after c) (t.add .dispatcher c) :=
  ⟨h.1.add c, by rw [pins_add, h.2]⟩

theorem always_call {p : Pins} (h : At start p t) (c : Call) :
    (ask c).Always (world start .dispatcher) (fun _ => At start (p.after c)) t := by
  refine always_ask.2 ⟨h.1, ?_⟩
  rintro r t' ⟨rfl, -⟩
  exact h.add c

theorem moves : Transfer.Moves (world start .dispatcher) (At start) fun _ _ => True where
  disconnect := by
    intro p t h
    refine Always.mono ?_ (always_call h .disconnect)
    rintro (f | ⟨⟩) t' h
    · trivial
    · exact h
  shutdown := by
    intro p t h
    refine Always.mono ?_ (always_call h .fastReadShutdown)
    rintro (f | ⟨⟩) t' h
    · trivial
    · exact h
  claim := by
    rintro ⟨connected, fast⟩ t ⟨⟩ h
    refine always_bind.2 (Always.mono ?_ (always_call h .fastReadSetup))
    rintro (f | ⟨⟩) t' h
    · trivial
    · refine Always.mono ?_ (always_call h .fastReadApplyCalibration)
      rintro (f | ⟨⟩) t' h
      · trivial
      · exact h

theorem connects {policy : RetryPolicy} {p : Pins} (free : p.fast = false) (h : At start p t) :
    (Transfer.connect policy).Always (world start .dispatcher)
      (Transfer.Arrives (At start) (fun _ _ => True) ⟨true, false⟩) t := by
  have done {t : Trace} (attempts : Nat) (h : At start ⟨true, false⟩ t) :
      (Transfer.connectFrom.connected attempts).Always (world start .dispatcher)
        (Transfer.Arrives (At start) (fun _ _ => True) ⟨true, false⟩) t := by
    unfold Transfer.connectFrom.connected
    split <;> exact h
  suffices ∀ (left attempts : Nat) {p : Pins} {t : Trace}, p.fast = false → At start p t →
      (Transfer.connectFrom policy.delay left attempts).Always (world start .dispatcher)
        (Transfer.Arrives (At start) (fun _ _ => True) ⟨true, false⟩) t from this _ _ free h
  intro left
  induction left with
  | zero =>
    intro attempts p t free h
    refine always_bind.2 (Always.mono ?_ (always_call h .connect))
    rintro (f | ⟨e | ⟨⟩⟩) t' h
    · trivial
    · trivial
    · exact done attempts (by rwa [Pins.after, free] at h)
  | succ left ih =>
    intro attempts p t free h
    refine always_bind.2 (Always.mono ?_ (always_call h .connect))
    rintro (f | ⟨e | ⟨⟩⟩) t' h
    · trivial
    · refine always_bind.2 (always_log.2 (always_bind.2
        (Always.mono ?_ (always_call h (.delay policy.delay)))))
      rintro (f | x) t' h
      · trivial
      · simp only [Then]
        split
        · exact ih _ (by exact free) h
        · trivial
    · exact done attempts (by rwa [Pins.after, free] at h)

theorem always_serve {s : Setup} {m : Mode} {o : Operation} (h : At start (.ofMode m) t) :
    (Control.serve s m o).Always (world start .dispatcher) (fun r t => match r with
      | .ok _ => At start (.of o.kind) t
      | .error _ => True) t := by
  refine always_bind.2 (Always.mono ?_ (Transfer.always_reconfigure_to moves (fun _ _ h => h)
    connects o.kind h))
  rintro (f | ⟨e | ⟨⟩⟩) t' h
  · trivial
  · exact always_bind.2 (always_log.2 trivial)
  · refine Always.mono ?_
      (Only.always (I := At start (.of o.kind)) ?_ ?_ (Transfer.only_perform s o) h)
    · rintro (f | bytes) t' h
      · trivial
      · exact h
    · rintro t c h stays
      refine ⟨h.1, ?_⟩
      rintro r t' ⟨rfl, -⟩
      have := h.add c
      rwa [after_of_stays stays] at this
    · intro t h c hc
      refine ⟨h.1, ?_⟩
      rintro (f | x) t' ⟨rfl, -⟩
      · rwa [add_of_poll hc]
      · exact add_of_poll hc

theorem always_release {s : Setup} {m : Mode} (h : At start (.ofMode m) t) :
    (Control.release s m).Always (world start .dispatcher) (fun r t => match r with
      | .ok _ => At start {} t
      | .error _ => True) t := by
  refine always_bind.2 (Always.mono ?_ (Transfer.always_reconfigure_release moves h))
  rintro (f | ⟨e | ⟨⟩⟩) t' h
  · trivial
  · exact h.elim
  · exact h

/-! ## The scripts of a window -/

variable {id opener : ClientId} {reads : List PastRead}

theorem polls_client {E : Fault → Trace → Prop} (h : Shaped start t) :
    (world start (.client id)).Polls E t := by
  refine fun c hc => ⟨by simpa only [world, add_of_poll hc] using h, ?_⟩
  rintro (f | x) t' ⟨rfl, comes⟩
  · cases comes (isWindow_of_isPoll hc)
  · exact add_of_poll hc

/-- A call that goes on with a window comes back. -/
theorem always_window_call (part : Trace) {c : Call} {w : Window} (h : At start {} u)
    (hp : part ++ [(.client id, c)] <+: w.calls) (window : c.isWindow = true)
    (traced : c.isPoll = false) : (ask c).Always (world start (.client id))
      (fun r t => r.isOk = true ∧ t = u ++ (part ++ [(.client id, c)])) (u ++ part) := by
  have added : Trace.add (u ++ part) (.client id) c = u ++ (part ++ [(.client id, c)]) := by
    rw [add_eq traced, List.append_assoc]
  refine always_ask.2 ⟨?_, ?_⟩
  · simp only [world, added]
    exact h.1.shaped_window h.2 hp
  · rintro r t' ⟨rfl, comes⟩
    exact ⟨comes window, added⟩

/-- So does a masked one. -/
theorem always_masked_window_call {c : Call} {w : Window} (h : At start {} u)
    (hp : part ++ [(.client id, c)] <+: w.calls) (window : c.isWindow = true)
    (traced : c.isPoll = false) : (masked c).Always (world start (.client id))
      (fun r t => r.isOk = true ∧ t = u ++ (part ++ [(.client id, c)])) (u ++ part) := by
  have before : Shaped start (u ++ part) :=
    h.1.shaped_window h.2 ((List.prefix_append _ _).trans hp)
  obtain ⟨permitted, reacts⟩ := always_ask.1 (always_window_call part h hp window traced)
  refine always_masked (polls_client before) permitted fun r t' hr => ?_
  obtain ⟨ok, rfl⟩ := reacts r t' hr
  cases r with
  | error f => cases ok
  | ok x => exact ⟨polls_client (h.1.shaped_window h.2 hp), rfl, rfl⟩

/-- A window is open after blocks with free pins. -/
def Open (start t : Trace) : Prop :=
  ∃ u opener reads, At start {} u ∧ t = u ++ opened opener reads

theorem always_openWindow (h : At start {} t) :
    Control.openWindow.Always (world start (.client id))
      (fun _ => Open start) t := by
  let w : Window := ⟨id, [], id⟩
  have setUp := always_window_call [] (c := .fastReadSetup) h
    (show _ <+: w.calls from ⟨[(.client id, .fastReadApplyCalibration),
      (.client id, .fastReadShutdown)], rfl⟩) rfl rfl
  rw [List.append_nil] at setUp
  refine always_bind.2 (Always.mono ?_ setUp)
  rintro (f | x) t' ⟨ok, rfl⟩
  · cases ok
  have apply := always_window_call _ (c := .fastReadApplyCalibration) h
    (show [(.client id, .fastReadSetup)] ++ [(.client id, .fastReadApplyCalibration)] <+: w.calls
      from ⟨[(.client id, .fastReadShutdown)], rfl⟩) rfl rfl
  refine always_bind.2 (Always.mono ?_ apply)
  rintro (f | x) t' ⟨ok, rfl⟩
  · cases ok
  exact always_bind.2 (always_log.2 ⟨t, id, [], h, rfl⟩)

theorem always_shutWindow (h : Open start t) :
    Control.shutWindow.Always (world start (.client id))
      (fun r t => r.isOk = true ∧ At start {} t) t := by
  obtain ⟨u, opener, reads, h, rfl⟩ := h
  let w : Window := ⟨opener, reads, id⟩
  refine always_bind.2 (Always.mono ?_ (always_window_call _ (w := w) (c := .fastReadShutdown) h
    (List.prefix_refl _) rfl rfl))
  rintro (f | x) t' ⟨ok, rfl⟩
  · cases ok
  exact ⟨rfl, h.1.window w h.2, pins_window h.2 w⟩

theorem PastRead.calls_append (r : PastRead) (p : UInt32 × List UInt8) :
    PastRead.calls { r with pieces := r.pieces ++ [p] } = r.calls ++
      [(.client r.reader, .fastReadSetMode r.submode), (.client r.reader, .fastRead p.1 p.2)] := by
  simp [PastRead.calls]

theorem opened_append (opener : ClientId) (reads : List PastRead) (r : PastRead) :
    opened opener (reads ++ [r]) = opened opener reads ++ r.calls := by
  simp [opened]

theorem always_fastRead (h : Open start t) (g : Geometry) (chunk : Nat) (address : UInt32)
    (buffer : List UInt8) (m : Submode) :
    (Transfer.fastRead g chunk address buffer (some m)).Always (world start (.client id))
      (fun _ => Open start) t := by
  obtain ⟨u, opener, reads, h, rfl⟩ := h
  let I (fetched : List (UInt32 × List UInt8)) : Trace :=
    opened opener (reads ++ [⟨id, m, fetched⟩])
  refine always_bind.2 (always_log.2 (Always.mono ?_ (Transfer.always_readChunked
    (I := fun _ _ t => ∃ fetched, t = u ++ I fetched) (E := fun _ _ => False) ?_ ?_ ?_)))
  · rintro (f | bytes) t' hr
    · exact hr.elim
    · obtain ⟨fetched, rfl⟩ := hr
      exact ⟨u, opener, _, h, rfl⟩
  · exact fun _ _ _ _ hi _ => hi
  · rintro p rest bytes _ buffer ⟨fetched, rfl⟩ - -
    -- the next piece is two more calls of the read
    let next := fetched ++ [(p.address, buffer)]
    have grown : I next = I fetched ++
        [(.client id, .fastReadSetMode m)] ++ [(.client id, .fastRead p.address buffer)] := by
      simp only [I, next, opened_append]
      rw [PastRead.calls_append ⟨id, m, fetched⟩]
      simp
    let w : Window := ⟨opener, reads ++ [⟨id, m, next⟩], id⟩
    have within : I next <+: w.calls := List.prefix_append _ _
    rw [grown] at within
    have select := always_window_call (I fetched) h
      ((List.prefix_append _ _).trans within) rfl rfl
    refine always_bind.2 (Always.mono ?_ select)
    rintro (f | x) t' ⟨ok, rfl⟩
    · cases ok
    refine Always.mono ?_ (always_masked_window_call h within rfl rfl)
    rintro (f | part) t' ⟨ok, rfl⟩
    · cases ok
    · exact ⟨next, by rw [grown]⟩
  · exact ⟨[], by simp [I, opened_append, PastRead.calls]⟩

/-! ## The judgement -/

variable {σ : Type} {T : Transport σ}

/-- Every thread keeps the trace of a journal to the shape. -/
theorem shows (returns : T.Returns) (who : Actor) : (world start who).Shows T who
    fun b t => t = tracedIn b.journal.toList ∧ Shaped start t where
  call := by
    rintro b t c ⟨rfl, shaped⟩ permitted
    refine ⟨_, ⟨rfl, fun hc => returns b.device c hc⟩, (tracedIn_call T who c b).symm, ?_⟩
    cases who with
    | dispatcher => exact (Blocks.add permitted c).shaped
    | client id => exact permitted
  log := by
    rintro b t l ⟨rfl, shaped⟩
    refine ⟨?_, shaped⟩
    rw [Bus.log, Bus.toList_journal_record, tracedIn_append]
    exact (List.append_nil _).symm

/-- Where the device stands tells where the trace does. -/
def Rests (start : Trace) : Stage → Trace → Prop
  | .held m => At start (.ofMode m)
  | .window => Open start

/-- The judgement of the traces of a gate, over a device that may answer what it likes. -/
def judgement (start : Trace) (returns : T.Returns) (env : σ → σ → Prop) (s : Setup) :
    Judgement T env s Trace where
  W := world start
  Seen _ b t := t = tracedIn b.journal.toList ∧ Shaped start t
  shows _ := shows returns
  aside := by
    rintro done b t who events aside ⟨rfl, shaped⟩
    refine ⟨?_, shaped⟩
    rw [Bus.toList_journal_record, tracedIn_append, tracedIn_aside, List.append_nil]
    rintro e he c r rfl
    cases aside _ he
  outside _ seen := seen
  sentinel _ seen := seen
  Rest st _ t := Rests start st t
  Served _ j _ t := At start (.of j.operation.kind) t
  May _ := True
  serve h _ _ := always_serve h
  served := by
    rintro done j bytes b t h ⟨rfl, shaped⟩
    refine ⟨⟨?_, shaped⟩, h⟩
    rw [Bus.toList_journal_record, tracedIn_append, tracedIn_aside, List.append_nil]
    rintro e he c r rfl
    unfold Job.answer at he
    split at he
    · cases List.mem_singleton.1 he
    · cases he
  release h := by
    refine Always.mono ?_ (always_release h)
    rintro (f | bytes) t h
    · trivial
    · exact fun _ _ => h
  setUp h _ := always_openWindow h
  read h := always_fastRead h ..
  shutDown h := by
    refine Always.mono ?_ (always_shutWindow h)
    rintro (f | bytes) t ⟨ok, h⟩
    · cases ok
    · exact h

/-! ## Bring-up -/

/-- The world of an observer of one thread's trace. -/
def told (who : Actor) : World Trace where
  permits _ _ := True
  reacts t c _ t' := t' = t.add who c

theorem told_shows (T : Transport σ) (who : Actor) :
    (told who).Shows T who fun b t => t = tracedIn b.journal.toList where
  call := by
    rintro b t c rfl -
    exact ⟨_, rfl, (tracedIn_call T who c b).symm⟩
  log := by
    rintro b t l rfl
    rw [Bus.log, Bus.toList_journal_record, tracedIn_append]
    exact (List.append_nil _).symm

/-- A call goes on with the pins as it moves them; a fault promises nothing. -/
theorem always_told {α : Type} {who : Actor} {p : Pins} {Q : α → Trace → Prop} {c : Call}
    {rest : c.Reply → Script α} (ht : t.pins = p)
    (h : ∀ x t, t.pins = p.after c →
      (rest x).Always (told who) (fun r t => ∀ a, r = .ok a → Q a t) t) :
    (ask c >>= rest).Always (told who) (fun r t => ∀ a, r = .ok a → Q a t) t := by
  refine always_bind.2 (always_ask.2 ⟨trivial, ?_⟩)
  rintro (f | x) t' rfl
  · exact fun a ha => by cases ha
  · exact h x _ (by rw [pins_add, ht])

theorem always_calibrate {who : Actor} (config : FastReadConfig) (free : t.pins = {}) :
    (BringUp.calibrate config).Always (told who) (fun r t => ∀ a, r = .ok a → t.pins = {}) t := by
  have released (st : Strategy) {t : Trace} (ht : t.pins = ⟨false, true⟩) :
      Always (told who) (fun r t => ∀ a, r = .ok a → t.pins = {})
        (do ask .fastReadShutdown; return st) t :=
    always_told ht fun _ _ h _ _ => h
  refine always_told free fun _ t ht => ?_
  refine always_told (c := .fastReadCalibrate config.calibrationAddress) ht fun x t ht => ?_
  obtain e | ⟨⟩ := (x : Except DeviceError Unit)
  · exact always_bind.2 (always_log.2 (released _ ht))
  · exact released _ ht

/-- A bring-up that succeeds leaves all hardware released. -/
theorem always_bringUp {who : Actor} (config : Config) (free : t.pins = {}) :
    (BringUp.script config).Always (told who)
      (fun r t => ∀ a, r = .ok a → ∀ x, a = .ok x → t.pins = {}) t := by
  have failed {e : DeviceError} {t : Trace} : Always (told who)
      (fun r t => ∀ a, r = .ok a → ∀ x, a = .ok x → t.pins = {})
      (pure (.error e) : Script (Except DeviceError (Geometry × Strategy))) t := by
    intro a ha x hx
    cases ha
    cases hx
  refine always_bind.2 (always_bind.2 (always_ask.2 ⟨trivial, ?_⟩))
  rintro (f | ⟨e | ⟨⟩⟩) t' rfl
  · exact fun a ha => by cases ha
  · exact failed
  have taken : (t.add who .connect).pins = ⟨true, false⟩ := by
    rw [pins_add, free]
    rfl
  refine always_told (c := .flashSize) taken fun total t ht => ?_
  refine always_told (c := .pageSize) ht fun page t ht => ?_
  refine always_told (c := .sectorSize) ht fun sector t ht => ?_
  cases Geometry.ofSizes total page sector with
  | error e => exact failed
  | ok g =>
    refine always_told (c := .quadEnable) ht fun x t ht => ?_
    obtain e | ⟨⟩ := (x : Except DeviceError Unit)
    · exact failed
    refine always_told (c := .disconnect) ht fun _ t ht => ?_
    show Always (told who) _ (do
      let st ← BringUp.strategy config
      return (Except.ok (g, st) : Except DeviceError (Geometry × Strategy))) t
    unfold BringUp.strategy
    split
    · refine always_bind.2 (Always.mono ?_ (always_calibrate _ ht))
      rintro (f | st) t' released
      · exact fun a ha => by cases ha
      · exact fun _ _ _ _ => released st rfl
    · exact fun _ _ _ _ => ht

end Trace

theorem released_of_start {σ : Type} {T : Transport σ} {config : Config} {id : ClientId}
    {device : σ} {c : Control} {b : Bus σ}
    (start : Gate.start T config id ⟨device, #[]⟩ = (.ok (.ok c), b)) :
    (∃ s : Setup, c = { setup := s }) ∧ (tracedIn b.journal.toList).pins = {} := by
  obtain ⟨t, rfl, released⟩ := Script.Always.run (Trace.told_shows T (.client id))
    (Trace.always_bringUp (t := []) config rfl) (b := ⟨device, #[]⟩) rfl
  unfold Gate.start at start
  rcases hr : (BringUp.script config).run T (.client id) ⟨device, #[]⟩ with
    ⟨f | ⟨e | ⟨g, st⟩⟩, b'⟩ <;> rw [hr] at start released
  · cases start
  · cases start
  · cases start
    refine ⟨⟨_, rfl⟩, ?_⟩
    rw [Bus.log, Bus.toList_journal_record, tracedIn_append]
    exact (congrArg Trace.pins (List.append_nil _)).trans (released _ rfl _ rfl)

/-- At every moment of a run from the start of a gate the judgement of its trace stands. -/
theorem traced_of_reach {σ : Type} {T : Transport σ} (returns : T.Returns) {env : σ → σ → Prop}
    {config : Config} {id : ClientId} {device : σ} {c : Control} {b : Bus σ}
    (start : Gate.start T config id ⟨device, #[]⟩ = (.ok (.ok c), b)) {g : Gate σ}
    (reach : Gate.Reach T env ⟨c, b⟩ g) : g.control.Sound ∧ ∃ s done,
      (Trace.judgement (tracedIn b.journal.toList) returns env s).contract.Stands g done := by
  obtain ⟨⟨s, rfl⟩, released⟩ := released_of_start start
  have nothing := takenIn_start T config id device
  rw [start] at nothing
  have opened := Contract.Stands.opened (K := (Trace.judgement (tracedIn b.journal.toList) returns
    env s).contract) ⟨_, ⟨rfl, Trace.Blocks.start.shaped⟩, .start, released⟩ nothing
  obtain ⟨sound, stands⟩ := Contract.reach opened (Control.sound_opened s) reach
  exact ⟨sound, s, stands⟩

end FlashGate

/-
Priority inheritance. Main statement: `inherits_priorities`, that the dispatcher sets its own
priority to the baseline once, and then for each operation in the order of the queue to what its
submitter had at the submission and back to the baseline; that sentinels and the end add nothing;
and that every call of the dispatcher is made at the priority of the message that it has taken.
-/
import FlashGate.Proofs.Linearization
import Mathlib.Data.List.Induction

namespace FlashGate

/-! ## What a journal tells -/

/-- The priority in an entry in which the dispatcher sets its own. -/
def Entry.priority? : Entry → Option Priority
  | ⟨.dispatcher, .priority p⟩ => some p
  | _ => none

/-- The priorities that the dispatcher has set for itself, in order. -/
def prioritiesIn (journal : List Entry) : List Priority := journal.filterMap Entry.priority?

@[simp] theorem prioritiesIn_append (a b : List Entry) :
    prioritiesIn (a ++ b) = prioritiesIn a ++ prioritiesIn b := List.filterMap_append ..

theorem prioritiesIn_traffic {who : Actor} {traffic : List Event}
    (plain : ∀ e ∈ traffic, e.isTraffic = true) : prioritiesIn (toldBy who traffic) = [] := by
  rw [prioritiesIn, List.filterMap_eq_nil_iff]
  intro x hx
  obtain ⟨e, he, rfl⟩ := List.mem_map.1 hx
  have := plain e he
  cases who <;> cases e <;> first | rfl | cases this

theorem prioritiesIn_client (id : ClientId) (events : List Event) :
    prioritiesIn (toldBy (.client id) events) = [] := by
  rw [prioritiesIn, List.filterMap_eq_nil_iff]
  intro x hx
  obtain ⟨e, -, rfl⟩ := List.mem_map.1 hx
  rfl

/-! ## What is to be set -/

/-- The priority at which the dispatcher does what a message asks for. -/
def Message.priority (baseline : Priority) : Message → Priority
  | .job j => j.priority
  | .park _ => baseline
  | .stop => baseline

/-- The priorities that the dispatcher sets for a message, to the end of what it asks for. -/
def Message.inherits (baseline : Priority) : Message → List Priority
  | .job j => [j.priority, baseline]
  | .park _ => []
  | .stop => []

/-- The priorities that the dispatcher sets from its start to the end of the last message. -/
def inheritance (baseline : Priority) (executed : List Message) : List Priority :=
  baseline :: executed.flatMap (Message.inherits baseline)

variable (baseline : Priority) in
/-- One more message adds what is set for it. -/
theorem inheritance_concat (executed : List Message) (m : Message) :
    inheritance baseline (executed ++ [m]) =
      inheritance baseline executed ++ m.inherits baseline := by
  simp [inheritance]

variable (baseline : Priority) in
/-- After the end of a message the dispatcher is at its baseline. -/
theorem getLast?_inheritance (executed : List Message) :
    (inheritance baseline executed).getLast? = some baseline := by
  induction executed using List.reverseRecOn with
  | nil => rfl
  | append_singleton executed m ih =>
    rw [inheritance_concat, List.getLast?_append, ih]
    cases m <;> rfl

/-- The job at whose priority the dispatcher is. -/
def Dispatcher.lent? : Dispatcher → Option Job
  | .claiming j => some j
  | .serving j _ => some j
  | .detaching j => some j
  | .restoring j => some j
  | _ => none

namespace Control

variable {c next : Control} {who : Actor} {events : List Event} {m : Move}

/-- The priorities that the dispatcher has set are those for the messages it has taken, as far as
it has come. -/
def Inherited (c : Control) (taken : List Message) (set : List Priority) : Prop :=
  match c.dispatcher with
  | .starting => taken = [] ∧ set = []
  | .claiming j => ∃ executed, taken = executed ++ [.job j] ∧
      set = inheritance c.setup.baseline executed ++ [j.priority]
  | .serving j _ => ∃ executed, taken = executed ++ [.job j] ∧
      set = inheritance c.setup.baseline executed ++ [j.priority]
  | .detaching j => ∃ executed, taken = executed ++ [.job j] ∧
      set = inheritance c.setup.baseline executed ++ [j.priority]
  | .restoring j => ∃ executed, taken = executed ++ [.job j] ∧
      set = inheritance c.setup.baseline executed ++ [j.priority]
  | .claimingRelease _ => set = inheritance c.setup.baseline taken ∧
      ∃ m, taken.getLast? = some m ∧ m.isSentinel = true
  | .releasing .. => set = inheritance c.setup.baseline taken ∧
      ∃ m, taken.getLast? = some m ∧ m.isSentinel = true
  | .unwinding => set <+: inheritance c.setup.baseline taken
  | .dead => set <+: inheritance c.setup.baseline taken
  | .aborted => set <+: inheritance c.setup.baseline taken
  | _ => set = inheritance c.setup.baseline taken

/-- At any place the dispatcher has set a part of what it sets for the messages it has taken. -/
theorem Inherited.begun {taken : List Message} {set : List Priority} (so : c.Inherited taken set) :
    set <+: inheritance c.setup.baseline taken := by
  have within {j : Job} (so : ∃ executed, taken = executed ++ [.job j] ∧
      set = inheritance c.setup.baseline executed ++ [j.priority]) :
      set <+: inheritance c.setup.baseline taken := by
    obtain ⟨executed, rfl, rfl⟩ := so
    rw [inheritance_concat]
    exact (List.prefix_append_right_inj _).2 (List.prefix_append [j.priority] [_])
  unfold Inherited at so
  split at so
  case h_1 => exact so.2 ▸ List.nil_prefix
  case h_2 | h_3 | h_4 | h_5 => exact within so
  case h_6 | h_7 => exact so.1 ▸ List.prefix_rfl
  case h_8 | h_9 | h_10 => exact so
  case h_11 => exact so ▸ List.prefix_rfl

/-! ## One move -/

/-- The priorities that the dispatcher sets with its next move. -/
def sets (c : Control) : List Priority :=
  match c.dispatcher, c.queue with
  | .starting, _ => [c.setup.baseline]
  | .receiving, .job j :: _ => [j.priority]
  | .restoring _, _ => [c.setup.baseline]
  | _, _ => []

/-- A move of the dispatcher is a turn that sets these. -/
theorem dispatcherMove?_sets (h : c.dispatcherMove? = some m) :
    m.Leads fun _ events => prioritiesIn (toldBy .dispatcher events) = c.sets := by
  unfold dispatcherMove? at h
  cases hd : c.dispatcher with
  | receiving =>
    simp only [hd] at h
    cases hq : c.queue with
    | nil => simp [hq] at h
    | cons msg rest =>
      simp only [hq, Option.some.injEq] at h
      subst h
      cases msg <;> simp only [take, Move.Leads, sets, hd, hq] <;> rfl
  | serving j s =>
    simp only [hd, Option.some.injEq] at h
    subst h
    rintro (rest | f | bytes)
    · simp [sets, hd, prioritiesIn, toldBy]
    · simp [sets, hd, prioritiesIn, toldBy]
    · simp only [sets, hd, served]
      split <;> simp [prioritiesIn, toldBy, Entry.priority?]
  | releasing l s =>
    simp only [hd, Option.some.injEq] at h
    subst h
    rintro (rest | f | bytes) <;> simp [sets, hd, prioritiesIn, toldBy]
  | detachingRelease l =>
    cases l <;> simp only [hd, Option.some.injEq] at h <;> subst h <;>
      simp [Move.Leads, sets, hd, prioritiesIn, toldBy, Entry.priority?]
  | _ =>
    simp only [hd] at h
    try split at h
    all_goals cases h
    all_goals simp [Move.Leads, sets, hd, prioritiesIn, toldBy, Entry.priority?]

/-- A turn of the dispatcher that sets these keeps what has been set in step with what has been
taken. -/
theorem DispatcherTurn.inherited (h : DispatcherTurn c next events) {taken : List Message}
    {set : List Priority} (so : c.Inherited taken set) :
    next.Inherited (taken ++ takenIn (toldBy .dispatcher events)) (set ++ c.sets) := by
  have plain (h : ∀ e ∈ events, e.isPlain = true) : takenIn (toldBy .dispatcher events) = [] :=
    (told_unbooked _ fun e he => Event.unbooked_of_plain (h e he)).2.1
  have keeps (stays : next.Inherited taken set) (hs : c.sets = [])
      (ht : takenIn (toldBy .dispatcher events) = []) :
      next.Inherited (taken ++ takenIn (toldBy .dispatcher events)) (set ++ c.sets) := by
    rwa [hs, ht, List.append_nil, List.append_nil]
  -- a fault leaves the job at its own priority
  have faulted (h : (∃ j s, c.dispatcher = .serving j s) ∨ ∃ l s, c.dispatcher = .releasing l s) :
      c.sets = [] := by
    rcases h with ⟨j, s, h⟩ | ⟨l, s, h⟩ <;> simp [sets, h]
  cases h
  case start h told =>
    simp only [Inherited, h] at so
    obtain ⟨rfl, rfl⟩ := so
    simp [Inherited, sets, h, plain told, inheritance]
  case takeJob j rest h queue =>
    simp only [Inherited, h] at so
    exact ⟨taken, rfl, by rw [so]; simp [sets, h, queue]⟩
  case takePark id rest h queue line =>
    simp only [Inherited, h] at so
    simp [Inherited, so, sets, h, queue, takenIn, toldBy, Event.taken?, inheritance_concat,
      Message.inherits, Message.isSentinel]
  case takeStop rest h queue =>
    simp only [Inherited, h] at so
    simp [Inherited, so, sets, h, queue, takenIn, toldBy, Event.taken?, inheritance_concat,
      Message.inherits, Message.isSentinel]
  case restore j h told =>
    simp only [Inherited, h] at so
    obtain ⟨executed, rfl, rfl⟩ := so
    simp [Inherited, sets, h, plain told, inheritance_concat, Message.inherits]
  case served j s bytes h =>
    simp only [Inherited, h] at so
    unfold Control.served
    split <;> simpa [Inherited, sets, h, takenIn, toldBy, Event.taken?] using so
  case released l s h =>
    exact keeps (by simp only [Inherited, h] at so ⊢; exact so.1) (by simp [sets, h]) rfl
  case abort h => exact keeps so.begun (faulted h) rfl
  case unwind h => exact keeps so.begun (faulted h) rfl
  case stop h told =>
    exact keeps (by simpa [Inherited, h] using so) (by simp [sets, h]) (plain told)
  case wake h _ told =>
    exact keeps (by simpa [Inherited, h] using so) (by simp [sets, h]) (plain told)
  all_goals exact keeps (by simpa [Inherited, *] using so) (by simp [sets, *]) rfl

/-- What the dispatcher tells beside the traffic of its scripts is no call. -/
theorem DispatcherTurn.no_call (h : DispatcherTurn c next events) (call : Call)
    (reply : Except Fault call.Reply) : .call call reply ∉ events := by
  intro he
  have plain (h : ∀ e ∈ events, e.isPlain = true) : False := by cases h _ he
  cases h
  case served j s bytes h =>
    unfold Control.served at he
    split at he <;> simp at he
  all_goals first
    | exact plain ‹_›
    | simp at he

/-- While the dispatcher runs a script it is at the priority of the message taken last. -/
theorem Inherited.of_duty {taken : List Message} {set : List Priority} (so : c.Inherited taken set)
    {d : Duty} {script : Script (List UInt8)} (own : d.actor = .dispatcher) (on : d.On c script) :
    ∃ m, taken.getLast? = some m ∧ set.getLast? = some (m.priority c.setup.baseline) := by
  cases d with
  | serve j =>
    have on : c.dispatcher = .serving j script := on
    simp only [Inherited, on] at so
    obtain ⟨executed, rfl, rfl⟩ := so
    exact ⟨.job j, List.getLast?_concat, List.getLast?_concat⟩
  | release l =>
    have on : c.dispatcher = .releasing l script := on
    simp only [Inherited, on] at so
    obtain ⟨rfl, m, last, sentinel⟩ := so
    refine ⟨m, last, ?_⟩
    rw [getLast?_inheritance]
    cases m <;> first | rfl | cases sentinel
  | _ => cases own

theorem Turn.priority {id : ClientId} {e : Deed} {d : Client} (h : Turn c id e d events)
    (busy : (c.client id).task ≠ .idle) : d.priority = (c.client id).priority := by
  cases h
  case answers h _ => exact absurd h busy
  case rehold p _ => cases p <;> rfl
  case hold p _ => cases p <;> rfl
  all_goals rfl

theorem dispatcherMove?_of_move? (h : c.move? .dispatcher = some m) :
    c.dispatcherMove? = some m := by
  unfold move? at h
  split at h
  · cases h
  · assumption
  · cases ‹Actor.dispatcher = .client _›

/-- A move keeps what the dispatcher has set in step with what it has taken, and what is told beside
the traffic of its script is no call of the dispatcher. -/
theorem move?_inherited (h : c.move? who = some m) {taken : List Message} {set : List Priority}
    (so : c.Inherited taken set) :
    m.Leads fun next events => next.setup = c.setup ∧
      next.Inherited (taken ++ takenIn (toldBy who events))
        (set ++ prioritiesIn (toldBy who events)) ∧
      ∀ call reply, who = .dispatcher → .call call reply ∉ events := by
  have sets : m.Leads fun _ events => who = .dispatcher →
      prioritiesIn (toldBy .dispatcher events) = c.sets := by
    cases who with
    | dispatcher => exact (dispatcherMove?_sets (dispatcherMove?_of_move? h)).mono fun _ _ h _ => h
    | client id => cases m <;> simp [Move.Leads]
  refine (Move.Leads.and (move?_goes h) sets).mono ?_
  · rintro next events ⟨goes, own⟩
    refine ⟨goes.setup, ?_⟩
    cases goes with
    | dispatcher turn =>
      rw [own rfl]
      exact ⟨turn.inherited so, fun call reply _ => turn.no_call call reply⟩
    | client turn =>
      obtain ⟨place, -, setup⟩ := turn.dispatcher
      rw [turn.books.1, prioritiesIn_client, List.append_nil, List.append_nil]
      refine ⟨?_, nofun⟩
      simp only [Inherited, place, setup]
      exact so

theorem Goes.priority (h : c.Goes who next events) (id : ClientId)
    (busy : (c.client id).task ≠ .idle) : (next.client id).priority = (c.client id).priority := by
  cases h with
  | dispatcher h => rw [h.client]
  | @client j _ _ h =>
    obtain ⟨e, d, turn, -, rfl⟩ := h
    rw [client_turned]
    split
    next same =>
      subst same
      exact turn.priority busy
    · rfl

end Control

/-- Every call of the dispatcher was made at the priority of the message that it had taken last. -/
def CallsInherit (baseline : Priority) (journal : List Entry) : Prop :=
  ∀ (i : Nat) call reply, journal[i]? = some ⟨.dispatcher, .call call reply⟩ →
    ∃ m, (takenIn (journal.take i)).getLast? = some m ∧
      (prioritiesIn (journal.take i)).getLast? = some (m.priority baseline)

/-- So it stays when traffic is added at the priority of the message taken last, and after it what
is no call. -/
theorem CallsInherit.append {baseline : Priority} {before after : List Entry} {who : Actor}
    {traffic events : List Event} (so : CallsInherit baseline before)
    (journal : after = before ++ (traffic ++ events).map (⟨who, ·⟩))
    (plain : ∀ e ∈ traffic, e.isTraffic = true)
    (others : ∀ call reply, who = .dispatcher → .call call reply ∉ events)
    (last : traffic ≠ [] → who = .dispatcher → ∃ m, (takenIn before).getLast? = some m ∧
      (prioritiesIn before).getLast? = some (m.priority baseline)) :
    CallsInherit baseline after := by
  intro i call reply there
  subst journal
  rcases Nat.lt_or_ge i before.length with early | late
  · rw [List.getElem?_append_left early] at there
    rw [List.take_append_of_le_length (Nat.le_of_lt early)]
    exact so i call reply there
  · rw [List.getElem?_append_right late, List.getElem?_map, Option.map_eq_some_iff] at there
    obtain ⟨e, there, same⟩ := there
    obtain ⟨rfl, rfl⟩ := Entry.mk.inj same
    -- the call is part of the traffic, before which there is none but traffic
    have inside : i - before.length < traffic.length := by
      by_contra beyond
      rw [List.getElem?_append_right (Nat.le_of_not_lt beyond)] at there
      exact others call reply rfl (List.mem_of_getElem? there)
    have earlier : ∀ e ∈ traffic.take (i - before.length), e.isTraffic = true :=
      fun e he => plain e (List.mem_of_mem_take he)
    have cut : (before ++ toldBy .dispatcher (traffic ++ events)).take i =
        before ++ toldBy .dispatcher (traffic.take (i - before.length)) := by
      rw [toldBy, List.take_append, List.take_of_length_le late, ← List.map_take,
        List.take_append_of_le_length (Nat.le_of_lt inside), toldBy]
    rw [show (traffic ++ events).map (⟨.dispatcher, ·⟩) =
        toldBy .dispatcher (traffic ++ events) from rfl, cut, takenIn_append,
      prioritiesIn_append, prioritiesIn_traffic earlier,
      (told_unbooked _ fun e he => Event.unbooked_of_traffic (earlier e he)).2.1, List.append_nil,
      List.append_nil]
    exact last (fun none => by rw [none] at inside; cases inside) rfl

namespace Gate

variable {σ : Type} {T : Transport σ} {env : σ → σ → Prop} {g g' : Gate σ}

/-! ## Runs -/

/-- The dispatcher has inherited its priorities so far, and made its calls at them. -/
def HasInherited (g : Gate σ) : Prop :=
  g.control.Inherited (takenIn g.bus.journal.toList) (prioritiesIn g.bus.journal.toList) ∧
    CallsInherit g.control.setup.baseline g.bus.journal.toList

/-- So it has after one more step. -/
theorem Step.hasInherited (h : Step T g g') (so : g.HasInherited) : g'.HasInherited := by
  cases h with
  | @begin id k c h =>
    obtain ⟨place, -, setup⟩ := (Control.begin?_turn h).dispatcher
    obtain ⟨inherited, calls⟩ := so
    refine ⟨?_, by simpa only [setup] using calls⟩
    simp only [Control.Inherited, place, setup]
    exact inherited
  | @move who m h =>
    obtain ⟨inherited, calls⟩ := so
    obtain ⟨traffic, events, plain, driven, journal, setup, next, others⟩ :=
      perform_leads (T := T) (Control.move?_inherited h inherited) g.bus
    have none : prioritiesIn (toldBy who traffic) = [] := prioritiesIn_traffic plain
    have told : (perform T .single who m g.bus).bus.journal.toList =
        g.bus.journal.toList ++ toldBy who traffic ++ toldBy who events := by
      rw [journal, List.map_append, List.append_assoc, toldBy, toldBy]
    refine ⟨?_, ?_⟩
    · rw [(booked_append plain journal).2.1, told, prioritiesIn_append, prioritiesIn_append, none,
        List.append_nil]
      exact next
    · rw [setup]
      refine calls.append journal plain others fun some own => ?_
      -- who leaves traffic is on a duty
      obtain ⟨script, resume, rfl⟩ := driven.resolve_left some
      rcases Control.move?_duty h with ⟨_, _, quiet⟩ | ⟨d, script', same, on, -⟩
      · cases quiet
      · exact inherited.of_duty (same.trans own) on

/-- So it has all along a run from its start. -/
theorem hasInherited_of_start {config : Config} {id : ClientId} {device : σ} {c : Control}
    {b : Bus σ} (start : Gate.start T config id ⟨device, #[]⟩ = (.ok (.ok c), b))
    (reach : Reach T env ⟨c, b⟩ g) :
    g.HasInherited ∧ g.control.setup.baseline = config.priority := by
  induction reach with
  | refl =>
    have baseline : c.setup.baseline = config.priority := by
      unfold Gate.start at start
      rcases hr : (BringUp.script config).run T (.client id) ⟨device, #[]⟩ with
        ⟨f | ⟨e | ⟨g, st⟩⟩, b'⟩ <;> rw [hr] at start <;> cases start
      rfl
    obtain ⟨⟨s, rfl⟩, traffic, plain, journal⟩ := opened_of_start start
    refine ⟨⟨⟨?_, ?_⟩, ?_⟩, baseline⟩
    · rw [journal]
      exact (told_unbooked _ fun e he => Event.unbooked_of_traffic (plain e he)).2.1
    · rw [journal]
      exact prioritiesIn_client id traffic
    · intro i call reply there
      rw [journal, List.getElem?_map, Option.map_eq_some_iff] at there
      obtain ⟨e, -, same⟩ := there
      cases same
  | step _ move ih =>
    obtain ⟨_, _, _, _, _, goes⟩ := move.goes
    exact ⟨move.hasInherited ih.1, by rw [goes.setup, ih.2]⟩
  | outside _ _ ih => exact ih

/-- A gate inherits the priorities of its clients. -/
structure Inherits (T : Transport σ) (baseline : Priority) (g : Gate σ) : Prop where
  /-- Messages are taken in the order in which they were accepted. -/
  order : takenIn g.bus.journal.toList <+: acceptedIn g.bus.journal.toList
  /-- A job carries the priority that its submitter has when the job is accepted. -/
  captured : ∀ g' j, Step T g g' →
    acceptedIn g'.bus.journal.toList = acceptedIn g.bus.journal.toList ++ [.job j] →
    j.priority = (g.control.client j.client).priority
  /-- Which is what it had when it turned to the command, whatever it sets afterwards. -/
  kept : ∀ g' id, Step T g g' → (g.control.client id).task ≠ .idle →
    (g'.control.client id).priority = (g.control.client id).priority
  /-- Before its start the dispatcher has set nothing. -/
  begins : g.control.dispatcher = .starting → prioritiesIn g.bus.journal.toList = []
  /-- Between two messages it has set the baseline, and for each job taken the job's priority and
  the baseline again. -/
  between : g.control.dispatcher ≠ .starting → g.control.dispatcher.lent? = none →
    g.control.dispatcher.isFaulted = false →
    prioritiesIn g.bus.journal.toList = inheritance baseline (takenIn g.bus.journal.toList)
  /-- Within a job it has done so for the jobs before, and set the priority of this one. -/
  within : ∀ j, g.control.dispatcher.lent? = some j → ∃ executed,
    takenIn g.bus.journal.toList = executed ++ [.job j] ∧
      prioritiesIn g.bus.journal.toList = inheritance baseline executed ++ [j.priority]
  /-- After a fault it has set a part of this. -/
  broken : prioritiesIn g.bus.journal.toList <+:
    inheritance baseline (takenIn g.bus.journal.toList)
  /-- At its end it has done so for all that was accepted. -/
  ended : g.control.dispatcher = .stopped →
    prioritiesIn g.bus.journal.toList = inheritance baseline (acceptedIn g.bus.journal.toList)
  /-- While it sleeps it is at its baseline. -/
  parked : g.control.park.state = .parked →
    (prioritiesIn g.bus.journal.toList).getLast? = some baseline
  /-- Every call is made at the priority of the job that it serves, and at the baseline for a
  sentinel. -/
  calls : CallsInherit baseline g.bus.journal.toList

end Gate

/-- Priority inheritance, for any device, configuration and number of clients, and whatever the
order in which the threads move. The dispatcher sets its priority to the baseline once, and for each
job in the order of the queue to what its submitter had at the submission and back to the baseline.
Sentinels add nothing. The calls for a job, those that reconfigure the hardware included, are made
at the priority of the job; the calls for a sentinel, the end included, and a park at the
baseline. -/
theorem inherits_priorities {σ : Type} (T : Transport σ) (env : σ → σ → Prop) (config : Config)
    (id : ClientId) (device : σ) (c : Control) (b : Bus σ) (g : Gate σ)
    (start : Gate.start T config id ⟨device, #[]⟩ = (.ok (.ok c), b))
    (reach : Gate.Reach T env ⟨c, b⟩ g) : g.Inherits T config.priority := by
  obtain ⟨sound, balanced⟩ := Gate.balanced_of_start start reach
  obtain ⟨⟨inherited, calls⟩, baseline⟩ := Gate.hasInherited_of_start start reach
  rw [baseline] at calls
  have between (begun : g.control.dispatcher ≠ .starting)
      (free : g.control.dispatcher.lent? = none) (sane : g.control.dispatcher.isFaulted = false) :
      prioritiesIn g.bus.journal.toList =
        inheritance config.priority (takenIn g.bus.journal.toList) := by
    rw [← baseline]
    unfold Control.Inherited at inherited
    cases hd : g.control.dispatcher <;> rw [hd] at begun free sane inherited <;> first
      | exact absurd rfl begun
      | cases sane; done
      | cases free; done
      | exact inherited
      | exact inherited.1
  have within (j : Job) (lent : g.control.dispatcher.lent? = some j) : ∃ executed,
      takenIn g.bus.journal.toList = executed ++ [.job j] ∧
        prioritiesIn g.bus.journal.toList =
          inheritance config.priority executed ++ [j.priority] := by
    rw [← baseline]
    unfold Control.Inherited at inherited
    cases hd : g.control.dispatcher <;> rw [hd] at lent inherited <;> cases lent <;> exact inherited
  refine ⟨balanced.begun, fun g' j step more => ?_, fun g' i step busy => ?_, fun first => ?_,
    between, within, ?_, fun halted => ?_, fun parked => ?_, calls⟩
  · rcases step.admitted sound with same | ⟨m, last, what⟩
    · rw [same] at more
      exact absurd more (by simp)
    · rw [last, List.append_cancel_left_eq, List.singleton_inj] at more
      subst more
      obtain ⟨stop, -⟩ | ⟨i, s, submitted, -⟩ := what
      · cases stop
      · cases s <;> cases submitted
        rfl
  · obtain ⟨_, _, _, _, _, goes⟩ := step.goes
    exact goes.priority i busy
  · simp only [Control.Inherited, first] at inherited
    exact inherited.2
  · rw [← baseline]
    exact inherited.begun
  · have settled := between (by simp [halted]) (by simp [halted, Dispatcher.lent?])
      (by simp [halted, Dispatcher.isFaulted])
    have empty := sound.handshake.ended (by rw [halted]; rfl)
    rw [balanced.queued (by simp [halted]), empty, List.append_nil]
    exact settled
  · have place := sound.handshake.parked parked
    rw [between (by simp [place]) (by simp [place, Dispatcher.lent?])
      (by simp [place, Dispatcher.isFaulted])]
    exact getLast?_inheritance _ _

open Chip

/-- The small gate after a read of one client at priority 7 and a write of another at priority 3,
who is at 5 as soon as the write is queued; then a low-level window, and the end. -/
def Gate.smallLent (c : Control) : Gate Chip :=
  (((((((((({ gate := ⟨c, Gate.small.2⟩ } : Session Chip).act transport 0 (.setPriority 7)).act
    transport 0 (.read 0 [0, 0])).act transport 1 (.setPriority 3)).act transport 1
      (.write 1 [0x0F])).act transport 1 (.setPriority 5)).act transport 0 .openWindow).act
        transport 0 (.bypassRead 0 [0])).act transport 0 .closeWindow).act transport 0 .drop).gate

/-- The dispatcher of the small gate ends with the priorities of the two jobs set and taken back. -/
theorem inherits_priorities_small : ∃ c, Gate.small.1 = .ok (.ok c) ∧
    (Gate.smallLent c).Inherits transport 0 ∧
    prioritiesIn (Gate.smallLent c).bus.journal.toList = [0, 7, 0, 3, 0] := by
  obtain ⟨c, opened⟩ := Gate.small_opens
  have fresh : Gate.Reach transport Gate.undisturbed ⟨c, Gate.small.2⟩
      ({ gate := ⟨c, Gate.small.2⟩ } : Session Chip).gate := .refl
  have reach : Gate.Reach transport Gate.undisturbed ⟨c, Gate.small.2⟩ (Gate.smallLent c) :=
    Session.reach_act 0 _ (Session.reach_act 0 _ (Session.reach_act 0 _ (Session.reach_act 0 _
      (Session.reach_act 1 _ (Session.reach_act 1 _ (Session.reach_act 1 _ (Session.reach_act 0 _
        (Session.reach_act 0 _ fresh))))))))
  have played : Gate.ofSmall (fun c => prioritiesIn (Gate.smallLent c).bus.journal.toList) =
      some [0, 7, 0, 3, 0] := by
    decide +kernel
  simp only [Gate.ofSmall, opened, Option.some.injEq] at played
  exact ⟨c, opened, inherits_priorities _ _ _ 0 _ c _ _ (Gate.start_of_small opened) reach, played⟩

end FlashGate

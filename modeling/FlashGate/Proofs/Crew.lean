/-
Crews of workers that share a gate over the emulated chip, each with a plan that a flat memory
fulfils, in sectors of its own, but for orders that are known to be bad. Main statements:
`Works.step` and `Closes.step`, that every step keeps each worker on its plan, with just the bad
orders not answered as wanted, until the gate is dropped and after; `Thrives.exists_step`, that a
crew without an outcome can go on; and `acc_step`, that none goes on for ever.
-/
import FlashGate.Proofs.Rounds
import FlashGate.Proofs.Teardown
import FlashGate.Simulator.Crew

namespace FlashGate

/-! ## Orders that a flat memory fulfils -/

namespace Flat

open Simulator

variable {s : Setup} {f : Flat} {bad : Order → Bool}

theorem answers_concat (f : Flat) (operations : List Operation) (o : Operation) :
    f.answers (operations ++ [o]) =
      f.answers operations ++ if o.isRead then [(f.perform operations).reply o] else [] := by
  induction operations generalizing f with
  | nil => simp [answers, perform]
  | cons x rest ih =>
    rw [List.cons_append, answers, answers, ih, List.append_assoc]
    rfl

theorem reply_of_not_read {o : Operation} (h : o.isRead = false) : f.reply o = [] := by
  cases o <;> first | rfl | cases h

theorem exists_reply {f : Flat} {messages : List Message} {j : Job} (h : .job j ∈ messages)
    (read : j.operation.isRead = true) : ∃ bytes, (j.ticket, bytes) ∈ f.replies messages := by
  induction messages generalizing f with
  | nil => cases h
  | cons x rest ih =>
    rcases List.mem_cons.1 h with rfl | h
    · exact ⟨f.reply j.operation, by simp [replies, read]⟩
    · obtain ⟨bytes, later⟩ := ih (f := f.step x) h
      exact ⟨bytes, List.mem_append_right _ later⟩

/-- An order among those that are fulfilled asks for an operation, and its reply is as wanted, but
for a bad order. -/
theorem Fulfils.at {before after : List Order} {o : Order}
    (h : f.Fulfils s bad (before ++ o :: after)) :
    ∃ operation, o.command.operation? s = some operation ∧
      o.isMet ((f.perform (operationsFor s before)).reply operation) = !bad o := by
  obtain ⟨operation, asks, met, -⟩ := (fulfils_append.1 h).2
  exact ⟨operation, asks, met⟩

end Flat

theorem mem_operationsOf {j : Job} {messages : List Message} (h : .job j ∈ messages) :
    j.operation ∈ operationsOf j.client messages :=
  List.mem_filterMap.2 ⟨.job j, h, by simp [Message.operationOf?]⟩

namespace Gate

variable {σ : Type} {T : Transport σ} {g g' : Gate σ}

/-- A gate that is dropped accepts no more jobs. -/
theorem Step.accepted_of_dropped (h : Step T g g') (sound : g.control.Sound)
    (dropped : g.control.dropped = true) {j : Job}
    (hj : .job j ∈ acceptedIn g'.bus.journal.toList) :
    .job j ∈ acceptedIn g.bus.journal.toList := by
  obtain ⟨who, traffic, events, plain, journal, goes⟩ := h.goes
  obtain ⟨accepted, -, -, -⟩ := booked_append plain journal
  rw [accepted, List.mem_append] at hj
  refine hj.resolve_right fun more => ?_
  generalize g'.control = next at goes
  cases goes with
  | dispatcher h =>
    rw [h.books.1] at more
    cases more
  | @client id _ _ h =>
    obtain ⟨e, d, turn, -, -⟩ := h
    have told := turn.told
    cases e with
    | push m =>
      obtain rfl : events = [.accepted m] := told
      obtain rfl : .job j = m := List.mem_singleton.1 more
      rcases turn.sends with ⟨s, sending, -⟩ | ⟨none, -⟩
      · have role := sound.handshake.gone dropped id
        rw [Control.role, sending] at role
        cases s <;> rcases role with h | h | h <;> cases h
      · cases none
    | collect t =>
      obtain ⟨bytes, -, rfl⟩ := told
      cases more
    | _ =>
      obtain ⟨none, -⟩ := told_unbooked (.client id) fun e he =>
        Event.unbooked_of_plain (told e he)
      rw [none] at more
      cases more

end Gate

namespace Simulator

open Stress Chip

/-! ## Plans -/

/-- Plans for so many clients: each keeps to sectors of its own inside of the device, and a flat
memory as large as the device fulfils it, but for its bad orders. -/
structure Plans (s : Setup) (bad : Order → Bool) (owns : ClientId → Nat → Prop) (clients : Nat)
    (plan : Nat → List Order) : Prop where
  apart : ∀ i j k, owns i k → owns j k → i = j
  inside : ∀ i < clients, ∀ o ∈ operationsFor s (plan i), o.StaysInside s.geometry ∧
    o.Within (owns (thread i))
  fulfilled : ∀ i < clients, ∀ f : Flat, f.size = s.geometry.totalSize.toNat →
    f.Fulfils s bad (plan i)

/-- The gate has accepted no jobs but those that the plans ask for. -/
def Planned (s : Setup) (clients : Nat) (plan : Nat → List Order) (g : Gate Chip) : Prop :=
  ∀ j, .job j ∈ acceptedIn g.bus.journal.toList →
    ∃ i < clients, j.client = thread i ∧ j.operation ∈ operationsFor s (plan i)

section Opened

variable {s : Setup} {bad : Order → Bool} {owns : ClientId → Nat → Prop} {clients : Nat}
  {plan : Nat → List Order} {profile : Profile} {data : List UInt8} {config : Config} {b : Bus Chip}
  {g : Gate Chip}

/-- What holds on a gate that has accepted no jobs but those that the plans ask for. -/
structure Fares (owns : ClientId → Nat → Prop) (f : Flat) (g : Gate Chip) : Prop where
  sound : g.control.Sound
  balanced : g.Balanced
  sane : g.control.dispatcher.isFaulted = false
  quiet : breachesIn g.bus.journal.toList = []
  serves : ∀ i, g.Serves i (owns i) f (operationsOf i (acceptedIn g.bus.journal.toList))
  answered : g.control.dispatcher = .receiving → ∀ j, .job j ∈ takenIn g.bus.journal.toList →
    j.operation.isRead = true → ∃ bytes, (j.ticket, bytes) ∈ answeredIn g.bus.journal.toList

theorem fares_of_planned (plans : Plans s bad owns clients plan)
    (ready : profile.connectFailures = 0)
    (start : Gate.start transport config 0 ⟨make profile data, #[]⟩ =
      (.ok (.ok { setup := s }), b))
    (reach : Gate.Reach transport Gate.undisturbed ⟨{ setup := s }, b⟩ g)
    (planned : Planned s clients plan g) : Fares owns (.initial profile.size.toNat data) g := by
  obtain ⟨sound, balanced⟩ := Gate.balanced_of_start start reach
  have inside {j : Job} (accepted : .job j ∈ acceptedIn g.bus.journal.toList) :
      j.operation.StaysInside s.geometry ∧ j.operation.Within (owns j.client) := by
    obtain ⟨i, one, mine, asked⟩ := planned j accepted
    rw [mine]
    exact plans.inside i one _ asked
  have begun {j : Job} (taken : .job j ∈ takenIn g.bus.journal.toList) :=
    inside (balanced.begun.subset taken)
  obtain ⟨sane, quiet⟩ := faultless_of_start ready start reach fun j taken => (begun taken).1
  have reach : Gate.Reach transport failing ⟨{ setup := s }, b⟩ g := reach.mono fun _ _ h => h.elim
  have fresh : (make profile data).IsFresh := isFresh_make profile data profile.connectFailures
  obtain ⟨_, same, -, -, -, nothing, rest⟩ := start_opened fresh start
  cases same
  obtain ⟨-, done, stands⟩ := Contract.reach (Contract.Stands.opened rest nothing)
    (Control.sound_opened s) reach
  obtain ⟨current, taken, pending⟩ := stands.taken
  have size : s.geometry.totalSize = profile.size := (setup_of_start fresh ready start).1
  have refines : g.Refines (.initial profile.size.toNat data) done :=
    refines_of_stands (Flat.shows_initial profile data) (by rw [size]; rfl)
      (fun j hj => (begun (by rw [taken]; exact List.mem_append_left _ hj)).1) stands
  refine ⟨sound, balanced, sane, quiet, fun i => Gate.serves_of_refines owns plans.apart balanced
    (Gate.inbox_of_start start reach sane) sane
    (fun j accepted => (inside accepted).2) taken pending
    refines, fun waits j hj read => ?_⟩
  obtain rfl : current = [] := by rw [waits] at pending; exact pending
  rw [taken, List.append_nil] at hj
  rw [refines.answered]
  exact Flat.exists_reply hj read

theorem Fares.idle {f : Flat} {issued : ClientId → List Operation} (fares : Fares owns f g)
    (on : g.OnErrands issued) (rest : ∀ who, g.control.move? who = none) (id : ClientId) :
    (g.control.client id).task = .idle :=
  on.idle_of_rest fares.sound fares.balanced fares.sane fares.answered rest id

end Opened

/-! ## Workers -/

namespace Worker

variable {w : Worker}

theorem result?_eq_ok : w.result? = some (.ok ()) ↔
    w.error = none ∧ w.todo = [] ∧ w.current = none := by
  unfold result?
  cases w.error with
  | some e => simp
  | none => simp

theorem noted_of_judge {bad : Order → Bool} {o : Order} {a : Answer}
    (judged : o.judge a = .ok (!bad o)) :
    w.noted o a = { w with current := none, wrong := w.wrong + [o].countP bad } := by
  unfold noted
  rw [judged]
  cases h : bad o <;> simp [h]

/-- A worker that has turned to the first orders of its plan, and has got answers as wanted to all
but the bad ones. -/
structure Follows (w : Worker) (bad : Order → Bool) (plan done : List Order) : Prop where
  ahead : done ++ w.todo = plan
  last : ∀ o, w.current = some o → done.getLast? = some o
  wrong : w.wrong + w.current.toList.countP bad = done.countP bad
  error : w.error = none

end Worker

theorem joined?_eq_ok {workers : List Worker} :
    joined? workers = some (.ok ()) ↔ ∀ w ∈ workers, w.result? = some (.ok ()) := by
  induction workers with
  | nil => simp [joined?]
  | cons w rest ih =>
    rw [List.forall_mem_cons, ← ih, joined?]
    split
    next h => simp [h]
    next h => exact ⟨fun same => absurd same (h ·), fun both => absurd both.1 h⟩

/-- The error that waiting for the workers ends with is that of one of them. -/
theorem error_of_joined? {workers : List Worker} {e : GateError}
    (h : joined? workers = some (.error e)) : ∃ w ∈ workers, w.error = some e := by
  induction workers with
  | nil => cases h
  | cons w rest ih =>
    rw [joined?] at h
    split at h
    · obtain ⟨v, hv, failed⟩ := ih h
      exact ⟨v, List.mem_cons_of_mem _ hv, failed⟩
    · refine ⟨w, List.mem_cons_self .., ?_⟩
      unfold Worker.result? at h
      split at h
      next failed => cases h; exact failed
      · split at h <;> cases h

/-! ## Crews at work -/

/-- The operations of the orders that the clients have turned to. -/
def issuedBy (s : Setup) (done : Nat → List Order) : ClientId → List Operation
  | 0 => []
  | i + 1 => operationsFor s (done i)

/-- The workers of a crew go by their plans, and have turned to the given orders so far. -/
structure Works (s : Setup) (bad : Order → Bool) (clients : Nat) (plan done : Nat → List Order)
    (crew : Crew) : Prop where
  setup : crew.gate.control.setup = s
  errands : crew.gate.OnErrands (issuedBy s done)
  count : crew.workers.length = clients
  follows : ∀ (i : Nat) (w : Worker), crew.workers[i]? = some w →
    w.Follows bad (plan i) (done i)
  others : ∀ i, clients ≤ i → done i = []

/-- The workers of a crew have carried out their plans, and the gate is being dropped. -/
structure Closes (s : Setup) (bad : Order → Bool) (clients : Nat) (plan : Nat → List Order)
    (crew : Crew) : Prop where
  planned : Planned s clients plan crew.gate
  count : crew.workers.length = clients
  ended : ∀ (i : Nat) (w : Worker), crew.workers[i]? = some w →
    w.result? = some (.ok ()) ∧ w.wrong = (plan i).countP bad
  dropping : ∃ opened added, Control.Dropping 0 opened crew.gate.control added

section Crew

variable {s : Setup} {bad : Order → Bool} {owns : ClientId → Nat → Prop} {clients : Nat}
  {plan done : Nat → List Order} {f : Flat} {crew crew' : Crew}

/-- Crews at work have asked for nothing but what their plans ask for. -/
theorem Works.planned (works : Works s bad clients plan done crew) :
    Planned s clients plan crew.gate := by
  intro j accepted
  have asked : j.operation ∈ issuedBy s done j.client :=
    (works.errands.along j.client).begins.subset (mem_operationsOf accepted)
  cases mine : j.client with
  | zero => rw [mine] at asked; cases asked
  | succ i =>
    rw [mine] at asked
    have asked : j.operation ∈ operationsFor s (done i) := asked
    have one : i < clients := by
      by_contra beyond
      rw [works.others i (Nat.le_of_not_lt beyond)] at asked
      cases asked
    have there := List.getElem?_eq_getElem (l := crew.workers) (by rw [works.count]; exact one)
    refine ⟨i, one, rfl, ?_⟩
    rw [← (works.follows i _ there).ahead, operationsFor_append]
    exact List.mem_append_left _ asked

theorem Works.lt (works : Works s bad clients plan done crew) {i : Nat} {w : Worker}
    (worker : crew.workers[i]? = some w) : i < clients :=
  works.count ▸ (List.getElem?_eq_some_iff.1 worker).1

theorem Closes.lt (closes : Closes s bad clients plan crew) {i : Nat} {w : Worker}
    (worker : crew.workers[i]? = some w) : i < clients :=
  closes.count ▸ (List.getElem?_eq_some_iff.1 worker).1

/-- The order that a worker comes to asks for an operation, whose reply is as wanted or not. -/
theorem Plans.at (plans : Plans s bad owns clients plan) {i : Nat} (one : i < clients)
    {before after : List Order} {o : Order} (split : plan i = before ++ o :: after)
    (size : f.size = s.geometry.totalSize.toNat) :
    ∃ operation, o.command.operation? s = some operation ∧
      o.isMet ((f.perform (operationsFor s before)).reply operation) = !bad o := by
  have fulfilled := plans.fulfilled i one f size
  rw [split] at fulfilled
  exact fulfilled.at

/-- The order that a worker has next asks for an operation. -/
theorem Works.asks (works : Works s bad clients plan done crew)
    (plans : Plans s bad owns clients plan) {i : Nat} {w : Worker} {o : Order} {rest : List Order}
    (worker : crew.workers[i]? = some w) (next : w.todo = o :: rest) :
    ∃ operation, o.command.operation? crew.gate.control.setup = some operation := by
  have ahead := (works.follows i w worker).ahead
  rw [next] at ahead
  let f : Flat := ⟨s.geometry.totalSize.toNat, fun _ => 0⟩
  have size : f.size = s.geometry.totalSize.toNat := rfl
  obtain ⟨operation, asks, -⟩ := plans.at (works.lt worker) ahead.symm size
  exact ⟨operation, by rw [works.setup]; exact asks⟩

/-- Turning to an order puts its operation behind those that were issued. -/
theorem issuedBy_update {i : Nat} {o : Order} {operation : Operation}
    (asks : o.command.operation? s = some operation) :
    Function.update (issuedBy s done) (thread i) (issuedBy s done (thread i) ++ [operation]) =
      issuedBy s (Function.update done i (done i ++ [o])) := by
  have more : operationsFor s (done i ++ [o]) = operationsFor s (done i) ++ [operation] := by
    rw [operationsFor_append, operationsFor_cons asks]
    rfl
  funext id
  by_cases mine : id = thread i
  · subst mine
    rw [Function.update_self]
    show _ = operationsFor s (Function.update done i (done i ++ [o]) i)
    rw [Function.update_self, more]
    rfl
  · rw [Function.update_of_ne mine]
    cases id with
    | zero => rfl
    | succ k =>
      have other : k ≠ i := fun same => mine (congrArg thread same)
      show operationsFor s (done k) = operationsFor s (Function.update done i _ k)
      rw [Function.update_of_ne other]

/-- An idle worker that waits for an answer has it, as its order wants it but for a bad order. -/
theorem Works.answered (works : Works s bad clients plan done crew)
    (plans : Plans s bad owns clients plan) (fares : Fares owns f crew.gate)
    (size : f.size = s.geometry.totalSize.toNat) {i : Nat} {w : Worker} {o : Order}
    (worker : crew.workers[i]? = some w) (waits : w.current = some o)
    (idle : (crew.gate.control.client (thread i)).task = .idle) :
    ∃ a, (crew.gate.control.client (thread i)).answer = some a ∧ o.judge a = .ok (!bad o) := by
  have follows := works.follows i w worker
  obtain ⟨before, split⟩ := List.getLast?_eq_some_iff.1 (follows.last o waits)
  have ahead := follows.ahead
  rw [split, List.append_assoc] at ahead
  obtain ⟨operation, asks, met⟩ := plans.at (works.lt worker) ahead.symm size
  have issued : issuedBy s done (thread i) = operationsFor s before ++ [operation] := by
    show operationsFor s (done i) = _
    rw [split, operationsFor_append, operationsFor_cons asks]
    rfl
  have along := works.errands.along (thread i)
  rw [issued] at along
  cases along with
  | rests there all finished bytes =>
    have last : (operationsFor s before ++ [operation]).getLast? = some operation :=
      List.getLast?_concat
    cases read : operation.isRead with
    | false =>
      rw [Flat.reply_of_not_read read] at met
      exact ⟨.done, finished operation last read, congrArg Except.ok met⟩
    | true =>
      obtain ⟨got, newest, answer⟩ := bytes operation last read
      -- the newest bytes are those that the flat memory replies
      have served := (fares.serves (thread i)).served (by rw [idle]; rfl)
      rw [all, Flat.answers_concat, if_pos read] at served
      rw [served, List.getLast?_concat] at newest
      cases newest
      exact ⟨_, answer, congrArg Except.ok met⟩
  | sends _ _ there => rw [idle] at there; rcases there with there | there <;> cases there
  | leaves _ _ _ there => rw [idle] at there; cases there
  | awaits _ _ _ there => rw [idle] at there; cases there

theorem follows_set {done' : Nat → List Order} {workers : List Worker} {i : Nat} {w w' : Worker}
    (worker : workers[i]? = some w)
    (follows : ∀ (j : Nat) (v : Worker), workers[j]? = some v → v.Follows bad (plan j) (done j))
    (other : ∀ j, j ≠ i → done' j = done j) (here : w'.Follows bad (plan i) (done' i)) (j : Nat)
    (v : Worker) (place : (workers.set i w')[j]? = some v) : v.Follows bad (plan j) (done' j) := by
  by_cases same : i = j
  · subst same
    rw [List.getElem?_set_self (List.getElem?_eq_some_iff.1 worker).1] at place
    cases place
    exact here
  · rw [List.getElem?_set_ne same] at place
    rw [other j (Ne.symm same)]
    exact follows j v place

/-- Every step keeps the workers on their plans, with all answers as they are to be, or begins the
end. -/
theorem Works.step (works : Works s bad clients plan done crew)
    (plans : Plans s bad owns clients plan) (fares : Fares owns f crew.gate)
    (size : f.size = s.geometry.totalSize.toNat)
    (step : Crew.Step crew crew') :
    (∃ done', Works s bad clients plan done' crew') ∨ Closes s bad clients plan crew' := by
  cases step with
  | @move who m h =>
    obtain ⟨_, _, _, _, goes⟩ := Gate.perform_goes (T := transport) h
    exact .inl ⟨done, goes.setup.trans works.setup,
      works.errands.perform fares.sound fares.sane h, works.count, works.follows, works.others⟩
  | @order i w o rest c worker free well next begins =>
    have follows := works.follows i w worker
    have ahead := follows.ahead
    rw [next] at ahead
    obtain ⟨operation, asks⟩ := works.asks plans worker next
    have errands := works.errands.begins asks begins
    rw [works.setup] at asks
    rw [issuedBy_update asks] at errands
    have other (j : Nat) (hj : j ≠ i) : Function.update done i (done i ++ [o]) j = done j :=
      Function.update_of_ne hj ..
    refine .inl ⟨Function.update done i (done i ++ [o]), ?_, errands, ?_,
      follows_set worker works.follows other ?_, fun j beyond => ?_⟩
    · exact (Control.Goes.client (Control.begin?_turn begins)).setup.trans works.setup
    · rw [List.length_set, works.count]
    · rw [Function.update_self]
      refine ⟨by rw [← ahead, List.append_assoc]; rfl, fun o' waits => ?_, ?_, follows.error⟩
      · cases waits
        exact List.getLast?_concat
      · have wrong := follows.wrong
        rw [free] at wrong
        rw [List.countP_append, ← wrong]
        rfl
    · have apart : j ≠ i := Nat.ne_of_gt (Nat.lt_of_lt_of_le (works.lt worker) beyond)
      rw [other j apart, works.others j beyond]
  | @note i w o a worker waits idle answer =>
    have follows := works.follows i w worker
    obtain ⟨a', same, met⟩ := works.answered plans fares size worker waits idle
    rw [answer] at same
    cases same
    refine .inl ⟨done, works.setup, works.errands, ?_, follows_set worker works.follows
      (fun _ _ => rfl) ?_, works.others⟩
    · rw [List.length_set, works.count]
    · rw [Worker.noted_of_judge met]
      refine ⟨follows.ahead, fun _ none => ?_, ?_, follows.error⟩
      · cases none
      · rw [← follows.wrong, waits]
        rfl
  | @drop c joined begins =>
    refine .inr ⟨works.planned, works.count, fun i w worker => ?_, _, _,
      Control.dropping_begin begins⟩
    have follows := works.follows i w worker
    have ended := joined?_eq_ok.1 joined w (List.mem_of_getElem? worker)
    obtain ⟨-, todo, current⟩ := Worker.result?_eq_ok.1 ended
    refine ⟨ended, ?_⟩
    rw [← follows.ahead, todo, List.append_nil, ← follows.wrong, current]
    rfl

/-- Every step on a gate that is being dropped goes on with the end. -/
theorem Closes.step (closes : Closes s bad clients plan crew) (sound : crew.gate.control.Sound)
    (step : Crew.Step crew crew') : Closes s bad clients plan crew' := by
  obtain ⟨opened, added, dropping⟩ := closes.dropping
  cases step with
  | @move who m h =>
    have step : Gate.Step transport crew.gate
        (Gate.perform transport .single who m crew.gate.bus) := .move h
    obtain ⟨more, -, later⟩ := step.dropping shuts sound dropping
    exact ⟨fun j accepted => closes.planned j (step.accepted_of_dropped sound dropping.dropped
      accepted), closes.count, closes.ended, opened, _, later⟩
  | order _ _ _ _ begins =>
    rw [dropping.begin?] at begins
    cases begins
  | note worker waits =>
    obtain ⟨-, -, none⟩ := Worker.result?_eq_ok.1 (closes.ended _ _ worker).1
    rw [none] at waits
    cases waits
  | drop _ begins =>
    rw [dropping.begin?] at begins
    cases begins

/-! ## Going on -/

/-- A crew at work can go on. -/
theorem Works.exists_step (works : Works s bad clients plan done crew)
    (plans : Plans s bad owns clients plan) (fares : Fares owns f crew.gate)
    (size : f.size = s.geometry.totalSize.toNat) : ∃ crew', Crew.Step crew crew' := by
  by_cases moving : ∃ who m, crew.gate.control.move? who = some m
  · obtain ⟨who, m, h⟩ := moving
    exact ⟨_, .move h⟩
  have rest (who : Actor) : crew.gate.control.move? who = none :=
    Option.eq_none_iff_forall_ne_some.2 fun m h => moving ⟨who, m, h⟩
  have idle := fares.idle works.errands rest
  by_cases ended : ∀ w ∈ crew.workers, w.result? = some (.ok ())
  · obtain ⟨c, begins⟩ := works.errands.begin?_drop idle 0
    exact ⟨_, .drop (joined?_eq_ok.2 ended) begins⟩
  obtain ⟨w, hw, unfinished⟩ : ∃ w ∈ crew.workers, ¬ w.result? = some (.ok ()) := by
    simpa using ended
  obtain ⟨i, worker⟩ := List.getElem?_of_mem hw
  have follows := works.follows i w worker
  cases waits : w.current with
  | some o =>
    obtain ⟨a, answer, -⟩ := works.answered plans fares size worker waits (idle (thread i))
    exact ⟨_, .note worker waits (idle (thread i)) answer⟩
  | none =>
    cases next : w.todo with
    | nil => exact absurd (Worker.result?_eq_ok.2 ⟨follows.error, next, waits⟩) unfinished
    | cons o later =>
      obtain ⟨operation, asks⟩ := works.asks plans worker next
      obtain ⟨c, begins⟩ := works.errands.begin? asks (idle (thread i))
      exact ⟨_, .order worker waits follows.error next begins⟩

/-- A crew at its end can go on, until the gate has been dropped. -/
theorem Closes.exists_step (closes : Closes s bad clients plan crew)
    (fares : Fares owns f crew.gate)
    (open' : crew.isDropped = false) : ∃ crew', Crew.Step crew crew' := by
  by_contra stuck
  have rest (who : Actor) : crew.gate.control.move? who = none :=
    Option.eq_none_iff_forall_ne_some.2 fun m h => stuck ⟨_, .move h⟩
  obtain ⟨opened, added, dropping⟩ := closes.dropping
  have idle := dropping.idle_of_rest fares.sound fares.sane rest
  rw [Crew.isDropped, dropping.dropped, idle] at open'
  cases open'

end Crew

/-! ## Coming to an end -/

/-- A step of a crew is a step of its gate, or leaves the gate alone. -/
theorem Crew.Step.gate {crew crew' : Crew} (step : Crew.Step crew crew') :
    crew'.gate = crew.gate ∨ Gate.Step transport crew.gate crew'.gate := by
  cases step with
  | move h => exact .inr (.move h)
  | order _ _ _ _ begins => exact .inr (.begin begins)
  | note => exact .inl rfl
  | drop _ begins => exact .inr (.begin begins)

theorem Crew.Step.sound {crew crew' : Crew} (step : Crew.Step crew crew')
    (sound : crew.gate.control.Sound) : crew'.gate.control.Sound := by
  rcases step.gate with same | move
  · rwa [same]
  · obtain ⟨_, _, _, _, _, goes⟩ := move.goes
    exact goes.sound sound

/-- Number of steps that a worker has ahead. -/
def Worker.left (w : Worker) : Nat := 2 * w.todo.length + if w.current.isSome then 1 else 0

/-- Number of steps that a crew has ahead, but for the moves in the gate. -/
def Crew.left (crew : Crew) : Nat :=
  (crew.workers.map Worker.left).sum + if crew.gate.control.dropped then 0 else 1

theorem sum_map_set_lt {α : Type} {size : α → Nat} {l : List α} {i : Nat} {x y : α}
    (h : l[i]? = some x) (less : size y < size x) :
    ((l.set i y).map size).sum < (l.map size).sum := by
  induction l generalizing i with
  | nil => cases h
  | cons z rest ih =>
    cases i with
    | zero =>
      cases h
      simpa using less
    | succ i => simpa using ih (i := i) (by simpa using h)

/-- A step takes away from what is left to do, or it is a move in the gate. -/
theorem Crew.Step.lowers {crew crew' : Crew} (step : Crew.Step crew crew') :
    crew'.left < crew.left ∨
      crew'.left = crew.left ∧ Gate.Moves transport failing crew.gate crew'.gate := by
  have stays {c c' : Control} (h : c.dropped = true → c'.dropped = true) :
      (if c'.dropped then 0 else 1) ≤ if c.dropped then 0 else 1 := by
    cases hc : c.dropped with
    | true => simp [h hc]
    | false => split <;> simp
  cases step with
  | @move who m h =>
    obtain ⟨_, _, _, _, goes⟩ := Gate.perform_goes (T := transport) h
    have less := stays goes.dropped
    rcases Nat.lt_or_eq_of_le less with less | same
    · exact .inl (Nat.add_lt_add_left less _)
    · exact .inr ⟨congrArg (_ + ·) same, .move .still h⟩
  | @order i w o rest c worker free well next begins =>
    have less : ({ w with todo := rest, current := some o } : Worker).left < w.left := by
      simp [Worker.left, free, next]
      omega
    exact .inl (Nat.add_lt_add_of_lt_of_le (sum_map_set_lt worker less)
      (stays (Control.Goes.client (Control.begin?_turn begins)).dropped))
  | @note i w o a worker waits idle answer =>
    have less : (w.noted o a).left < w.left := by
      unfold Worker.noted
      split <;> simp [Worker.left, waits]
    exact .inl (Nat.add_lt_add_right (sum_map_set_lt worker less) _)
  | @drop c joined begins =>
    refine .inl (Nat.add_lt_add_left ?_ _)
    simp [Control.there_of_begin? begins, (Control.dropping_begin begins).dropped]

/-- No crew goes on for ever. -/
theorem acc_step {crew : Crew} (sound : crew.gate.control.Sound) :
    Acc (fun crew' crew => Crew.Step crew crew') crew := by
  generalize hn : crew.left = n
  induction n using Nat.strongRecOn generalizing crew with
  | ind n ih =>
    -- with as much left to do, there are only moves in the gate, and these come to an end
    have moving (g : Gate Chip) (acc : Acc (fun g' g => Gate.Moves transport failing g g') g) :
        ∀ crew : Crew, crew.gate = g → crew.gate.control.Sound → crew.left = n →
          Acc (fun crew' crew => Crew.Step crew crew') crew := by
      induction acc with
      | intro g _ goOn =>
        rintro crew rfl sound left
        refine Acc.intro _ fun crew' step => ?_
        rcases step.lowers with less | ⟨same, moves⟩
        · exact ih _ (by rw [← left]; exact less) (step.sound sound) rfl
        · exact goOn _ moves crew' rfl (step.sound sound) (same.trans left)
    exact moving _ (Gate.acc_moves calms sound) crew rfl sound hn

/-! ## Runs -/

/-- A crew that goes by its plans or has carried them out, on a gate that fares well. -/
structure Thrives (s : Setup) (bad : Order → Bool) (owns : ClientId → Nat → Prop) (clients : Nat)
    (plan : Nat → List Order) (f : Flat) (crew : Crew) : Prop where
  fares : Fares owns f crew.gate
  place : (∃ done, Works s bad clients plan done crew) ∨ Closes s bad clients plan crew

section Run

variable {s : Setup} {bad : Order → Bool} {owns : ClientId → Nat → Prop} {clients : Nat}
  {plan : Nat → List Order} {profile : Profile} {data : List UInt8} {config : Config} {b : Bus Chip}
  {f : Flat} {crew₀ crew : Crew} {headline : String} {total : Nat}

/-- A crew that begins with plans of such a kind thrives all along its run. -/
theorem thrives_of_reach (plans : Plans s bad owns clients plan)
    (ready : profile.connectFailures = 0)
    (start : Gate.start transport config 0 ⟨make profile data, #[]⟩ =
      (.ok (.ok { setup := s }), b)) (gate : crew₀.gate = ⟨{ setup := s }, b⟩)
    (works : Works s bad clients plan (fun _ => []) crew₀) (reach : Crew.Reach crew₀ crew) :
    Gate.Reach transport Gate.undisturbed ⟨{ setup := s }, b⟩ crew.gate ∧
      Thrives s bad owns clients plan (.initial profile.size.toNat data) crew := by
  have fresh : (make profile data).IsFresh := isFresh_make profile data profile.connectFailures
  have size : (Flat.initial profile.size.toNat data).size = s.geometry.totalSize.toNat :=
    congrArg UInt32.toNat (setup_of_start fresh ready start).1.symm
  induction reach with
  | refl =>
    rw [gate]
    exact ⟨.refl, gate ▸ fares_of_planned plans ready start .refl (gate ▸ works.planned),
      .inl ⟨_, works⟩⟩
  | @step crew crew' before step ih =>
    obtain ⟨reach, fares, place⟩ := ih
    have reach' : Gate.Reach transport Gate.undisturbed ⟨{ setup := s }, b⟩ crew'.gate := by
      rcases step.gate with same | move
      · rwa [same]
      · exact .step reach move
    have place' : (∃ done, Works s bad clients plan done crew') ∨
      Closes s bad clients plan crew' := by
      rcases place with ⟨done, works⟩ | closes
      · exact works.step plans fares size step
      · exact .inr (closes.step fares.sound step)
    have planned : Planned s clients plan crew'.gate := by
      rcases place' with ⟨done, works⟩ | closes
      · exact works.planned
      · exact closes.planned
    exact ⟨reach', fares_of_planned plans ready start reach' planned, place'⟩

theorem Thrives.lt (thrives : Thrives s bad owns clients plan f crew) {i : Nat} {w : Worker}
    (worker : crew.workers[i]? = some w) : i < clients := by
  rcases thrives.place with ⟨done, works⟩ | closes
  · exact works.lt worker
  · exact closes.lt worker

theorem Thrives.well (thrives : Thrives s bad owns clients plan f crew) {i : Nat} {w : Worker}
    (worker : crew.workers[i]? = some w) : w.error = none ∧ w.wrong ≤ (plan i).countP bad := by
  rcases thrives.place with ⟨done, works⟩ | closes
  · have follows := works.follows i w worker
    have wrong := follows.wrong
    rw [← follows.ahead, List.countP_append]
    exact ⟨follows.error, by omega⟩
  · obtain ⟨ended, wrong⟩ := closes.ended i w worker
    exact ⟨(Worker.result?_eq_ok.1 ended).1, Nat.le_of_eq wrong⟩

theorem Closes.wrong (closes : Closes s bad clients plan crew) :
    crew.wrong = ((List.range clients).map fun i => (plan i).countP bad).sum := by
  have sum : crew.wrong = (crew.workers.map (·.wrong)).sum := (List.foldr_map ..).symm
  rw [sum]
  congr 1
  refine List.ext_getElem? fun i => ?_
  rw [List.getElem?_map, List.getElem?_map]
  cases worker : crew.workers[i]? with
  | none =>
    rw [List.getElem?_eq_none_iff, closes.count] at worker
    rw [List.getElem?_eq_none (by simpa using worker)]
    rfl
  | some w =>
    rw [List.getElem?_range (closes.lt worker)]
    exact congrArg some (closes.ended i w worker).2

/-- The run has an outcome once the gate has been dropped: that of the report. -/
theorem Thrives.outcome?_eq (thrives : Thrives s bad owns clients plan f crew) :
    crew.outcome? headline total = if crew.isDropped then
      some (Part.outcome
        (report ((List.range clients).map fun i => (plan i).countP bad).sum total)
        { session := { gate := crew.gate }, printed := [headline] }) else none := by
  rcases thrives.place with ⟨done, works⟩ | closes
  · -- the gate is not dropped, and no error ends the wait for the workers
    have dropped : crew.isDropped = false := by simp [Crew.isDropped, works.errands.there]
    cases joined : joined? crew.workers with
    | none => simp [Crew.outcome?, joined, dropped]
    | some r =>
      cases r with
      | error e =>
        obtain ⟨w, hw, failed⟩ := error_of_joined? joined
        obtain ⟨i, worker⟩ := List.getElem?_of_mem hw
        rw [(thrives.well worker).1] at failed
        cases failed
      | ok => simp [Crew.outcome?, joined, dropped]
  · have joined : joined? crew.workers = some (.ok ()) := joined?_eq_ok.2 fun w hw => by
      obtain ⟨i, worker⟩ := List.getElem?_of_mem hw
      exact (closes.ended i w worker).1
    rw [← closes.wrong]
    simp only [Crew.outcome?, joined]

/-- A run without an outcome goes on. -/
theorem Thrives.exists_step (thrives : Thrives s bad owns clients plan f crew)
    (plans : Plans s bad owns clients plan) (size : f.size = s.geometry.totalSize.toNat)
    (unfinished : crew.outcome? headline total = none) : ∃ crew', Crew.Step crew crew' := by
  rcases thrives.place with ⟨done, works⟩ | closes
  · exact works.exists_step plans thrives.fares size
  · refine closes.exists_step thrives.fares ?_
    rw [thrives.outcome?_eq] at unfinished
    simpa using unfinished

end Run

end Simulator

end FlashGate

/-
The bytes that a command reads, through the queue or past it. Main statement: `Course.gets`, that a
client's read ends with the bytes which it shows of those stored at a moment between the client's
call and its answer, or is refused, whatever the other threads do.
-/
import FlashGate.Proofs.Device.Fetch
import FlashGate.Proofs.Gateway.Course
import FlashGate.Proofs.Linearization

namespace FlashGate

/-! ## Commands that read -/

namespace Command

/-- The read that a command asks for. -/
def reading? (s : Setup) : Command → Option Operation
  | .read address buffer => some (.ofReadKind address buffer.length s.strategy.readKind)
  | .readMode address buffer submode =>
    some (.ofReadKind address buffer.length (s.strategy.readKindFor submode))
  | .bypassRead address buffer =>
    some (.fastRead (s.strategy.submode?.getD .raw) address buffer.length)
  | .bypassReadMode address buffer submode => some (.fastRead submode address buffer.length)
  | _ => none

/-- Whether the command reads past the queue. -/
def isBypass : Command → Bool
  | .bypassRead .. => true
  | .bypassReadMode .. => true
  | _ => false

/-- The command with the same arguments that reads through the queue. -/
def queued : Command → Command
  | .bypassRead address buffer => .read address buffer
  | .bypassReadMode address buffer submode => .readMode address buffer submode
  | k => k

theorem isBypass_queued (k : Command) : k.queued.isBypass = false := by
  cases k <;> rfl

theorem isRead_of_reading? {s : Setup} {k : Command} {o : Operation} (h : k.reading? s = some o) :
    o.isRead = true := by
  cases k <;> simp only [reading?, Option.some.injEq, reduceCtorEq] at h
  case read => subst h; unfold Operation.ofReadKind; split <;> rfl
  case readMode => subst h; unfold Operation.ofReadKind; split <;> rfl
  case bypassRead => subst h; rfl
  case bypassReadMode => subst h; rfl

theorem reading?_queued {s : Setup} (fast : s.strategy ≠ .standard) (k : Command) :
    k.queued.reading? s = k.reading? s := by
  obtain ⟨m, calibrated⟩ : ∃ m, s.strategy = .fast m := by
    cases h : s.strategy with
    | standard => exact absurd h fast
    | fast m => exact ⟨m, rfl⟩
  cases k <;> simp only [queued, reading?, calibrated] <;> rfl

end Command

/-- What is submitted is the operation. -/
def Submission.Asks (o : Operation) : Submission → Prop
  | .job o' _ => o' = o
  | .park => False

/-- What stands in the way of a read, past the queue or through it, as its error tells. -/
def Control.Bars (c : Control) (past : Bool) : GateError → Prop
  | .disconnected => past = false ∧ c.dispatcher.isOver = true
  | .notParked => past = true ∧ c.park.state ≠ .parked
  | .lockUnavailable => past = true ∧ (c.spin.count ≠ 0 ∨ c.holder ≠ none)
  | _ => False

/-- How far the client of a read has come, past the queue or through it: its request is under way,
where tickets that are `due` are those of such a request, or it has an answer, and this is `shown`.
-/
def Client.Gets (o : Operation) (past : Bool) (due : Ticket → Prop) (shown : Answer → Prop)
    (d : Client) : Prop :=
  match d.task with
  | .idle => ∃ a, d.answer = some a ∧ shown a
  | .admitting s => s.Asks o ∧ past = false
  | .sending s => s.Asks o ∧ past = false
  | .leaving s (some t) => s.Asks o ∧ past = false ∧ due t
  | .leaving s none => s.Asks o ∧ ∀ buffer, shown (.refused .disconnected buffer)
  | .awaiting t _ => due t ∧ past = false
  | .bypassChecking r => r.operation = o ∧ past = true
  | .bypassSpinning r => r.operation = o ∧ past = true
  | .bypassClaiming r => r.operation = o ∧ past = true
  | .bypassRechecking r => r.operation = o ∧ past = true
  | .bypassReading r _ => r.operation = o
  | .bypassDetaching a => shown a
  | .bypassUnspinning a => shown a
  | _ => False

theorem Client.Gets.mono {o : Operation} {past : Bool} {due due' : Ticket → Prop}
    {shown shown' : Answer → Prop} {d : Client} (h : d.Gets o past due shown)
    (later : ∀ t, due t → due' t) (still : ∀ a, shown a → shown' a) :
    d.Gets o past due' shown' := by
  unfold Client.Gets at h ⊢
  split at h
  case h_1 => exact h.imp fun a ⟨answer, shows⟩ => ⟨answer, still a shows⟩
  case h_4 => exact ⟨h.1, h.2.1, later _ h.2.2⟩
  case h_5 => exact ⟨h.1, fun buffer => still _ (h.2 buffer)⟩
  case h_6 => exact ⟨later _ h.1, h.2⟩
  case h_12 => exact still _ h
  case h_13 => exact still _ h
  all_goals exact h

namespace Control

variable {c next : Control} {id : ClientId} {e : Deed} {d : Client} {events : List Event}
  {k : Command} {o : Operation} {past : Bool} {due : Ticket → Prop} {shown : Answer → Prop}

theorem begin?_gets (h : c.begin? id k = some next) (reading : k.reading? c.setup = some o) :
    (next.client id).Gets o k.isBypass due shown := by
  unfold begin? at h
  split at h
  · cases h
    cases k <;> cases reading <;>
      simp [begin, place, client, Client.Gets, Submission.Asks, Bypass.operation, Command.isBypass]
  · cases h

/-- A turn of a client at a read: the ticket of its message is due, and its answer is shown. -/
theorem Turn.gets (h : Turn c id e d events) (gets : (c.client id).Gets o past due shown)
    (reads : o.isRead = true) (busy : (c.client id).task.isIdle = false)
    (refused : ∀ x buffer, c.Bars past x → shown (.refused x buffer))
    (sent : ∀ buffer, e = .push (c.message id (.job o buffer)) → due c.issued)
    (taken : ∀ t bytes, due t → c.reply? t = some bytes → shown (.bytes bytes))
    (read : ∀ r script a, (c.client id).task = .bypassReading r script → r.operation = o →
      d.task = .bypassDetaching a → shown a) : d.Gets o past due shown := by
  cases h <;>
    simp_all [Client.Gets, Submission.Asks, Client.goTo, Client.answered, Task.isIdle]
  case refuse s there halted =>
    exact fun buffer => refused .disconnected buffer ⟨rfl, halted⟩
  case send s there =>
    cases s with
    | job o' buffer => exact sent buffer (by rw [show o' = o from gets.1])
    | park => exact gets.1.elim
  case collect t buffer bytes there come => exact taken t bytes gets.1 come
  case unanswered t buffer there unmet halted =>
    exact refused .disconnected buffer ⟨rfl, halted⟩
  case noBypass r there parked plain => exact refused .notParked r.buffer ⟨rfl, parked⟩
  case noBypassSpin r there busy =>
    exact refused .lockUnavailable r.buffer ⟨rfl, .inl busy⟩
  case noBypassClaim r there busy =>
    exact refused .lockUnavailable r.buffer ⟨rfl, .inr busy⟩
  case noBypassRead r there parked => exact refused .notParked r.buffer ⟨rfl, parked⟩

end Control

namespace Gate

/-! ## Moments of a run -/

section Meanwhile

variable {σ : Type} {T : Transport σ} {env : σ → σ → Prop} {g₀ g g' : Gate σ} {P : Gate σ → Prop}

/-- On the way from one gate to another the gate had the property. -/
def Meanwhile (T : Transport σ) (env : σ → σ → Prop) (g₀ g : Gate σ) (P : Gate σ → Prop) : Prop :=
  ∃ h, Reach T env g₀ h ∧ Reach T env h g ∧ P h

theorem Meanwhile.now (way : Reach T env g₀ g) (h : P g) : Meanwhile T env g₀ g P :=
  ⟨g, way, .refl, h⟩

theorem Meanwhile.later (h : Meanwhile T env g₀ g P) (way : Reach T env g g') :
    Meanwhile T env g₀ g' P := by
  obtain ⟨h, before, after, holds⟩ := h
  exact ⟨h, before, after.trans way, holds⟩

end Meanwhile

open Chip

/-- What is known of a gate over the emulated chip whose reads are looked at. -/
structure Observed (s : Setup) (profile : Profile) (m : Memory) (g : Gate Chip) : Prop where
  setup : g.control.setup = s
  sound : g.control.Sound
  balanced : g.Balanced
  fetches : fetchWatch.Stands g
  reads : (readWatch s profile m).Stands g

/-- A gate opened over a fresh chip is observed at every moment of its run. -/
theorem observed_of_start {chip : Chip} (fresh : chip.IsFresh) {config : Config} {id : ClientId}
    {c : Control} {b : Bus Chip}
    (start : Gate.start transport config id ⟨chip, #[]⟩ = (.ok (.ok c), b)) {g : Gate Chip}
    (reach : Reach transport failing ⟨c, b⟩ g) :
    Observed c.setup chip.profile chip.memory g ∧
      ∃ done, (judgement c.setup chip.profile chip.memory).contract.Stands g done := by
  obtain ⟨sound, balanced⟩ := balanced_of_start start reach
  obtain ⟨s, rfl, -, -, -, taken, rest⟩ := start_opened fresh start
  have stands {g : Gate Chip} (reach : Reach transport failing ⟨{ setup := s }, b⟩ g) :
      ∃ done, (judgement s chip.profile chip.memory).contract.Stands g done :=
    (Contract.reach (Contract.Stands.opened rest taken) (Control.sound_opened s) reach).2
  obtain ⟨done, here⟩ := stands reach
  exact ⟨⟨here.setup, sound, balanced,
    Watch.reach (.opened trivial) (Control.sound_opened s) (fun _ _ => trivial) reach,
    Watch.reach (.opened trivial) (Control.sound_opened s) (fun _ way => stands way) reach⟩,
    done, here⟩

variable {s : Setup} {profile : Profile} {m : Memory} {g₀ g g' : Gate Chip} {o : Operation}

/-- What the read shows of the bytes stored at a moment on the way. -/
def Shown (s : Setup) (o : Operation) (g₀ g : Gate Chip) (bytes : List UInt8) : Prop :=
  Meanwhile transport failing g₀ g fun h => bytes = o.reply s.geometry h.bus.device.memory

/-! ## Answers of the dispatcher -/

theorem getElem?_grown {α : Type} {l l' : List α} (h : l <+: l') {i : Nat} {x : α}
    (place : l[i]? = some x) : l'[i]? = some x := by
  obtain ⟨more, rfl⟩ := h
  obtain ⟨bound, -⟩ := List.getElem?_eq_some_iff.1 place
  rwa [List.getElem?_append_left bound]

/-- What is told at the end of a script hands over bytes only if it was a job that reads. -/
theorem answered_ended {d : Duty} {c : Control} {r : Except Fault (List UInt8)}
    {x : Ticket × List UInt8} (answered : x ∈ answeredIn (toldBy d.actor (d.ended c r).2)) :
    ∃ j, d = .serve j ∧ r = .ok x.2 ∧ j.operation.isRead = true ∧ x.1 = j.ticket := by
  cases d <;> cases r <;> simp only [Duty.ended, toldBy, List.map_nil, answeredIn,
    List.filterMap_nil, List.not_mem_nil] at answered
  case serve.ok j bytes =>
    unfold Control.served at answered
    split at answered
    next read =>
      simp only [List.map_cons, List.map_nil, List.filterMap_cons, List.filterMap_nil,
        Event.answered?, List.mem_singleton] at answered
      subst answered
      exact ⟨j, rfl, rfl, read, rfl⟩
    next => simp at answered

/-- Bytes that are handed over in a step are those that the job at hand shows of the bytes stored
after it. -/
theorem Step.answers (move : Step transport g g') (observed : g.Observed s profile m)
    {x : Ticket × List UInt8} (answered : x ∈ answeredIn g'.bus.journal.toList) :
    x ∈ answeredIn g.bus.journal.toList ∨ ∃ j, g.control.dispatcher.job? = some j ∧
      x.1 = j.ticket ∧ x.2 = j.operation.reply s.geometry g'.bus.device.memory := by
  cases move with
  | begin h => exact .inl answered
  | @move who step h =>
    rcases Control.move?_duty h with ⟨next, events, rfl⟩ | ⟨d, script, rfl, on, rfl⟩
    · -- who changes the control state only, hands over nothing
      have off (d : Duty) (script : Script (List UInt8)) (mine : d.actor = who) :
          ¬ d.On g.control script := by
        intro on
        have := Control.move?_of_on on (Control.alive_of_move? h)
        rw [mine, h] at this
        cases this
      obtain ⟨aside, -⟩ := (Control.move?_goes h).quiet observed.sound off
      rw [perform, Bus.toList_journal_record, answeredIn_append, answeredIn_aside aside,
        List.append_nil] at answered
      exact .inl answered
    · have silent : answeredIn (script.step transport d.actor g.bus).2.journal.toList =
          answeredIn g.bus.journal.toList := by
        obtain ⟨traffic, plain, journal⟩ := script.addsTraffic_step transport d.actor g.bus
        rw [journal, answeredIn_append, answeredIn_traffic plain, List.append_nil]
      simp only [perform, Script.advance] at answered ⊢
      rcases hs : script.step transport d.actor g.bus with ⟨rest | r, b⟩ <;>
        rw [hs] at answered silent <;>
        rw [Bus.toList_journal_record, answeredIn_append, List.mem_append, silent] at answered
      · exact .inl (answered.resolve_right (by simp [Duty.after, answeredIn]))
      · refine answered.imp_right fun told => ?_
        obtain ⟨j, rfl, rfl, read, ticket⟩ := answered_ended told
        have reading : (Duty.serve j).reading? = some j.operation := if_pos read
        refine ⟨j, ?_, ticket, brings_of_watch observed.reads on reading hs⟩
        rw [show g.control.dispatcher = .serving j script from on]
        rfl

/-- The bytes that a ticket issued later on is answered with are those that its read shows of the
bytes stored at a moment in between. -/
theorem shown_of_answered (observed : ∀ g, Reach transport failing g₀ g → g.Observed s profile m)
    (way : Reach transport failing g₀ g) {t : Ticket} {bytes : List UInt8}
    (answered : (t, bytes) ∈ answeredIn g.bus.journal.toList)
    (issued : g₀.control.issued ≤ t) : ∃ j,
      (acceptedIn g.bus.journal.toList)[t]? = some (.job j) ∧ Shown s j.operation g₀ g bytes := by
  induction way with
  | refl =>
    -- no ticket is answered before it was issued
    have ledger := (observed _ .refl).balanced
    have late := ledger.behind _ answered
    have begun := ledger.begun.length_le
    rw [ledger.issued] at issued
    exact absurd (Nat.lt_of_lt_of_le late begun) (Nat.not_lt.2 issued)
  | @step g g' before move ih =>
    have here := observed _ before
    have accepts := (Reach.refl.step move : Reach transport failing g g').accepts here.sound
    rcases move.answers here answered with old | ⟨j, serving, ticket, shown⟩
    · obtain ⟨j, accepted, shown⟩ := ih old
      exact ⟨j, getElem?_grown accepts accepted, shown.later (.step .refl move)⟩
    · obtain ⟨earlier, last, -⟩ := here.balanced.serving j serving
      have accepted : (acceptedIn g.bus.journal.toList)[earlier.length]? = some (.job j) :=
        getElem?_grown here.balanced.begun (by rw [last]; simp)
      have place : t = earlier.length := ticket.trans (here.balanced.tickets _ j accepted)
      exact ⟨j, by rw [place]; exact getElem?_grown accepts accepted,
        .now (.step before move) shown⟩
  | outside before change ih =>
    obtain ⟨j, accepted, shown⟩ := ih answered
    exact ⟨j, accepted, shown.later (.outside .refl change)⟩

/-! ## The run of a read -/

/-- The ticket was issued to the read since the first gate. -/
def Due (o : Operation) (g₀ g : Gate Chip) (t : Ticket) : Prop :=
  g₀.control.issued ≤ t ∧
    ∃ j, (acceptedIn g.bus.journal.toList)[t]? = some (.job j) ∧ j.operation = o

/-- The answer to a read, past the queue or through it: the bytes that it shows, or a refusal for
what stood in its way at a moment on the way. -/
def Answered (s : Setup) (o : Operation) (past : Bool) (g₀ g : Gate Chip) : Answer → Prop
  | .bytes bytes => Shown s o g₀ g bytes
  | .refused e _ => Meanwhile transport failing g₀ g fun h => h.control.Bars past e
  | _ => False

variable {past : Bool}

theorem Answered.later {a : Answer} (h : Answered s o past g₀ g a)
    (way : Reach transport failing g g') : Answered s o past g₀ g' a := by
  cases a with
  | bytes _ => exact Meanwhile.later h way
  | refused _ _ => exact Meanwhile.later h way
  | _ => exact h

/-- How far a read has come at its client, since the first gate. -/
def Gets (s : Setup) (o : Operation) (past : Bool) (g₀ g : Gate Chip) (d : Client) : Prop :=
  d.Gets o past (Due o g₀ g) (Answered s o past g₀ g)

theorem Gets.later {d : Client} (h : Gets s o past g₀ g d) (way : Reach transport failing g g')
    (sound : g.control.Sound) : Gets s o past g₀ g' d :=
  h.mono (fun _ ⟨issued, j, accepted, same⟩ =>
    ⟨issued, j, getElem?_grown (way.accepts sound) accepted, same⟩) fun _ answered =>
    answered.later way

variable {id : ClientId} {step : Move}

/-- A client that ends its read past the queue has what the read shows of the bytes stored then. -/
theorem brings_own (reads : (readWatch s profile m).Stands g) {r : Bypass}
    {script : Script (List UInt8)} (there : (g.control.client id).task = .bypassReading r script)
    (move : g.control.move? (.client id) = some step) {a : Answer}
    (next : ((perform transport .single (.client id) step g.bus).control.client id).task =
      .bypassDetaching a) : a = .bytes (r.operation.reply s.geometry
        (perform transport .single (.client id) step g.bus).bus.device.memory) := by
  have on : (Duty.read id r).On g.control script := there
  have drives := Control.move?_of_on on (Control.alive_of_move? move)
  rw [Duty.actor, move] at drives
  obtain rfl := Option.some.inj drives
  simp only [perform, Script.advance] at next ⊢
  rcases hs : script.step transport (.client id) g.bus with ⟨rest | f | bytes, b⟩ <;>
    rw [hs] at next <;>
    simp only [Duty.after, Duty.resumed, Duty.ended, Control.place, Control.client,
      Roster.get_set_self] at next
  · cases next
  · cases brings_of_watch reads on rfl hs
  · cases next
    exact congrArg Answer.bytes (brings_of_watch reads on rfl hs)

/-- A job of the read that is accepted has a ticket behind all tickets of the first gate. -/
theorem due_of_accepted (observed : ∀ g, Reach transport failing g₀ g → g.Observed s profile m)
    (way : Reach transport failing g₀ g) {buffer : List UInt8}
    (told : acceptedIn g'.bus.journal.toList =
      acceptedIn g.bus.journal.toList ++ [g.control.message id (.job o buffer)]) :
    Due o g₀ g' g.control.issued := by
  have issued := (observed g way).balanced.issued
  have before := (way.accepts (observed g₀ .refl).sound).length_le
  rw [← issued, ← (observed g₀ .refl).balanced.issued] at before
  have last : (acceptedIn g'.bus.journal.toList)[g.control.issued]? =
      some (g.control.message id (.job o buffer)) := by
    rw [told, issued]
    simp
  exact ⟨before, _, last, rfl⟩

/-- The bytes that have come for a ticket of the read are those that it shows. -/
theorem shown_of_reply (observed : ∀ g, Reach transport failing g₀ g → g.Observed s profile m)
    (way : Reach transport failing g₀ g) (on : Reach transport failing g g') {t : Ticket}
    (due : Due o g₀ g' t) {bytes : List UInt8} (come : g.control.reply? t = some bytes) :
    Shown s o g₀ g' bytes := by
  obtain ⟨issued, j, accepted, rfl⟩ := due
  have here := observed g way
  have answered := (here.balanced.replies _ (Control.mem_of_reply? come)).1
  obtain ⟨j', accepted', shown⟩ := shown_of_answered observed way answered issued
  rw [getElem?_grown (on.accepts here.sound) accepted'] at accepted
  cases accepted
  exact shown.later on

/-- A move of its own carries a client's read on. -/
theorem Gets.own (gets : Gets s o past g₀ g (g.control.client id)) (reads : o.isRead = true)
    (observed : ∀ g, Reach transport failing g₀ g → g.Observed s profile m)
    (way : Reach transport failing g₀ g) (move : g.control.move? (.client id) = some step) :
    Gets s o past g₀ (perform transport .single (.client id) step g.bus)
      ((perform transport .single (.client id) step g.bus).control.client id) := by
  have here := observed g way
  have on : Reach transport failing g (perform transport .single (.client id) step g.bus) :=
    .step .refl (.move move)
  obtain ⟨moved, busy⟩ := busy_of_move? move
  have gets := gets.later on here.sound
  have read (r : Bypass) (script : Script (List UInt8)) (a : Answer)
      (there : (g.control.client id).task = .bypassReading r script) (same : r.operation = o)
      (next : ((perform transport .single (.client id) step g.bus).control.client id).task =
        .bypassDetaching a) :
      Answered s o past g₀ (perform transport .single (.client id) step g.bus) a := by
    rw [brings_own here.reads there move next, same]
    exact .now (way.trans on) rfl
  obtain ⟨traffic, events, plain, -, journal, e, d, turn, allowed, next⟩ :=
    perform_leads (T := transport) (Control.clientMove?_turn moved) g.bus
  have told := (booked_append plain journal).1
  have refused (x : GateError) (buffer : List UInt8) (bars : g.control.Bars past x) :
      Answered s o past g₀ (perform transport .single (.client id) step g.bus)
        (.refused x buffer) := ⟨g, way, on, bars⟩
  generalize perform transport .single (.client id) step g.bus = g' at *
  have there : g'.control.client id = d := by
    rw [next, Control.client_turned, if_pos rfl]
  rw [there] at read ⊢
  refine turn.gets gets reads busy refused ?_ (fun t bytes due come =>
    shown_of_reply observed way on due come) read
  rintro buffer rfl
  obtain rfl : events = _ := turn.told
  exact due_of_accepted observed way told

/-- A client that has turned to a read ends it with bytes that the read shows of what was stored at
a moment of its run, or is refused. -/
theorem Course.gets {k : FlashGate.Command} {moves : List (Gate Chip × Gate Chip)}
    (course : Course transport failing id k g₀ moves g)
    (observed : ∀ g, Reach transport failing g₀ g → g.Observed s profile m)
    (reading : k.reading? s = some o) : Gets s o k.isBypass g₀ g (g.control.client id) := by
  induction course with
  | begin h => exact Control.begin?_gets h (by rwa [(observed g₀ .refl).setup])
  | own before move ih =>
    exact ih.own (Command.isRead_of_reading? reading) observed before.reach move
  | other before apart move ih =>
    obtain ⟨_, _, _, _, goes⟩ := perform_goes (T := transport) move
    rw [client_other goes apart]
    exact ih.later (.step .refl (.move move)) (observed _ before.reach).sound
  | turns before apart turned ih =>
    have goes : Control.Goes _ _ _ _ := .client (Control.begin?_turn turned)
    rw [client_other goes fun same => apart (by cases same; rfl)]
    exact ih.later (.step .refl (.begin turned)) (observed _ before.reach).sound
  | outside before change ih =>
    exact ih.later (.outside .refl change) (observed _ before.reach).sound

end Gate

end FlashGate

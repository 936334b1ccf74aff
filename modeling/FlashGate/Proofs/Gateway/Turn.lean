/-
What one move of a gate does, said once. A client's move is a `Turn`: it takes the client from one
place in its code to the next, and does at most one `Deed` to what the threads share: it takes or
gives up a lock, moves the park handshake, or touches the queue. A move of the dispatcher is a
`DispatcherTurn`. Main statements: `clientMove?_turn`, `begin?_turn` and `dispatcherMove?_turn`,
that every move and every command begun is one of these.
-/
import FlashGate.Gateway.Machine

namespace FlashGate

namespace Roster

theorem get_set (r : Roster) (id j : ClientId) (d : Client) :
    (r.set id d).get j = if j = id then d else r.get j := by
  split
  next h => subst h; exact get_set_self r j d
  next h => exact get_set_ne r h d

theorem put_put (id : ClientId) (a b : Client) (l : List (ClientId × Client)) :
    put id b (put id a l) = put id b l := by
  induction l with
  | nil => simp [put]
  | cons e rest ih =>
    obtain ⟨i, d⟩ := e
    by_cases h : i = id <;> simp [put, h, ih]

@[simp] theorem set_set (r : Roster) (id : ClientId) (a b : Client) :
    (r.set id a).set id b = r.set id b := congrArg Roster.mk (put_put id a b r.entries)

end Roster

/-- Whether an event is only told, and moves nothing: a log line or a priority. -/
def Event.isPlain : Event → Bool
  | .log _ => true
  | .priority _ => true
  | _ => false

/-- A property of where a move can lead, and of what is told about it. -/
def Move.Leads (m : Move) (P : Control → List Event → Prop) : Prop :=
  match m with
  | .quiet next events => P next events
  | .drive _ resume => ∀ p, P (resume p).1 (resume p).2

theorem Move.Leads.mono {m : Move} {P Q : Control → List Event → Prop} (h : m.Leads P)
    (hPQ : ∀ next events, P next events → Q next events) : m.Leads Q := by
  cases m with
  | quiet next events => exact hPQ _ _ h
  | drive script resume => exact fun p => hPQ _ _ (h p)

theorem Move.Leads.and {m : Move} {P Q : Control → List Event → Prop} (h : m.Leads P)
    (h' : m.Leads Q) : m.Leads fun next events => P next events ∧ Q next events := by
  cases m with
  | quiet next events => exact ⟨h, h'⟩
  | drive script resume => exact fun p => ⟨h p, h' p⟩

namespace Control

/-- The control state with a client's state replaced. -/
def put (c : Control) (id : ClientId) (d : Client) : Control :=
  { c with clients := c.clients.set id d }

theorem client_put (c : Control) (id j : ClientId) (d : Client) :
    (c.put id d).client j = if j = id then d else c.client j := Roster.get_set ..

/-! ## Deeds -/

/-- What a client does to what the threads share. -/
inductive Deed where
  | nothing
  /-- Takes a level of admission. -/
  | enter
  /-- Gives up a level of admission. -/
  | leave
  /-- Takes the transport. -/
  | claim
  /-- Gives up the transport. -/
  | free
  /-- Takes the free spin lock. -/
  | spin
  /-- Adds a level to the spin lock. -/
  | respin
  /-- Gives up a level of the spin lock. -/
  | unspin
  /-- Asks for the park. -/
  | request
  /-- Takes the request back. -/
  | withdraw
  /-- Resumes the dispatcher. -/
  | resume
  /-- Puts a message on the queue. -/
  | push (m : Message)
  /-- Takes the bytes of a read. -/
  | collect (t : Ticket)
  /-- Begins to drop the gate. -/
  | retire

/-- When a client can do a deed. -/
def Deed.Allowed (c : Control) (id : ClientId) : Deed → Prop
  | .enter => c.admission.owner = none ∨ c.admission.owner = some id
  | .claim => c.holder = none
  | .spin => c.spin.count = 0
  | .request => c.park.state = .running
  | .resume => c.park.state = .parked
  | .push _ => c.dispatcher.isOver = false ∧ c.hasPlace = true
  | .retire => c.dropped = false ∧ c.isQuiet id = true
  | _ => True

/-- Admission with one more level for a client that may enter. -/
def Admission.entered (a : Admission) (id : ClientId) : Admission :=
  ⟨some id, if a.owner = none then 1 else a.depth + 1⟩

/-- The control state after a client's deed. -/
def Deed.apply (c : Control) (id : ClientId) : Deed → Control
  | .nothing => c
  | .enter => { c with admission := Admission.entered c.admission id }
  | .leave => { c with admission := c.admission.leave }
  | .claim => { c with holder := some (.client id) }
  | .free => { c with holder := none }
  | .spin => { c with spin := ⟨1⟩ }
  | .respin => { c with spin := c.spin.relock }
  | .unspin => { c with spin := c.spin.release }
  | .request => { c with park := ⟨.requested, some id⟩ }
  | .withdraw => { c with park := if c.park.state = .requested then {} else c.park }
  | .resume => { c with park := {} }
  | .push m => c.push m
  | .collect t => { c with replies := c.replies.filter fun r => r.1 != t }
  | .retire => { c with dropped := true }

@[simp] theorem clients_apply (c : Control) (id : ClientId) (e : Deed) :
    (e.apply c id).clients = c.clients := by cases e <;> rfl

@[simp] theorem dispatcher_apply (c : Control) (id : ClientId) (e : Deed) :
    (e.apply c id).dispatcher = c.dispatcher := by cases e <;> rfl

@[simp] theorem setup_apply (c : Control) (id : ClientId) (e : Deed) :
    (e.apply c id).setup = c.setup := by cases e <;> rfl

@[simp] theorem mode_apply (c : Control) (id : ClientId) (e : Deed) :
    (e.apply c id).mode = c.mode := by cases e <;> rfl

end Control

/-! ## Turns of a client -/

namespace Client

/-- The client at another place in its code. -/
def goTo (d : Client) (t : Task) : Client := { d with task := t }

/-- The client after the end of its command. -/
def answered (d : Client) (a : Answer) : Client := { d with task := .idle, answer := some a }

/-- The client with one more hold on the flash. -/
def holding (d : Client) (p : Purpose) : Client :=
  match p with
  | .hold => { d with holds := d.holds + 1 }.answered (.holds (d.holds + 1))
  | .window => { d with holds := d.holds + 1 }.goTo .requesting

end Client

/-- The number of bytes that an operation asks for. -/
def Operation.length : Operation → Nat
  | .read _ n => n
  | .fastRead _ _ n => n
  | .write _ data => data.length
  | .erase _ n => n

/-- A job as a command makes it: fast only where fast reads are calibrated, and a read with a
buffer of its length. -/
def Submission.Fits (s : Setup) : Submission → Prop
  | .job o buffer => (o.kind.isFastRead = true → s.strategy ≠ .standard) ∧
    (o.isRead = true → o.length = buffer.length)
  | .park => True

namespace Control

/-- Where a client goes when it turns to a command that it has to work for. -/
inductive Opens (c : Control) (id : ClientId) : Task → Prop where
  | submit (o : Operation) (buffer : List UInt8) (fits : Submission.Fits c.setup (.job o buffer)) :
    Opens c id (.admitting (.job o buffer))
  | window (fast : c.setup.strategy ≠ .standard) : Opens c id (.locking .window)
  | close : Opens c id .checkingOwner
  | bypass (r : Bypass) : Opens c id (.bypassChecking r)
  | hold : Opens c id (.locking .hold)
  | unlock (a : Answer) (held : 0 < (c.client id).holds) : Opens c id (.unspinning a)
  | trySpin : Opens c id .tryingSpin
  | releaseSpin : Opens c id .releasingSpin

/-- One turn of a client: what it does, its own state afterwards, and what is told about it. -/
inductive Turn (c : Control) (id : ClientId) : Deed → Client → List Event → Prop where
  -- commands
  | opens {t : Task} (h : (c.client id).task = .idle) (there : c.dropped = false)
    (ht : Opens c id t) : Turn c id .nothing ({ c.client id with answer := none }.goTo t) []
  | answers (p : Priority) (a : Answer) (h : (c.client id).task = .idle)
    (there : c.dropped = false) :
    Turn c id .nothing ({ c.client id with priority := p }.answered a) []
  | retires (h : (c.client id).task = .idle) :
    Turn c id .retire ({ c.client id with answer := none }.goTo .inspecting) []
  -- submissions
  | admitted (s : Submission) (h : (c.client id).task = .admitting s) :
    Turn c id .enter ((c.client id).goTo (.sending s)) []
  | refuse (s : Submission) (h : (c.client id).task = .sending s)
    (halted : c.dispatcher.isOver = true) :
    Turn c id .nothing ((c.client id).goTo (.leaving s none)) []
  | send (s : Submission) (h : (c.client id).task = .sending s) :
    Turn c id (.push (c.message id s)) ((c.client id).goTo (.leaving s (some c.issued)))
      [.accepted (c.message id s)]
  | await (o : Operation) (buffer : List UInt8) (t : Ticket)
    (h : (c.client id).task = .leaving (.job o buffer) (some t)) (read : o.isRead = true) :
    Turn c id .leave ((c.client id).goTo (.awaiting t buffer)) []
  | queued (o : Operation) (buffer : List UInt8) (t : Ticket)
    (h : (c.client id).task = .leaving (.job o buffer) (some t)) (read : o.isRead = false) :
    Turn c id .leave ((c.client id).answered .done) []
  | lost (o : Operation) (buffer : List UInt8)
    (h : (c.client id).task = .leaving (.job o buffer) none) :
    Turn c id .leave ((c.client id).answered (.refused .disconnected buffer)) []
  | wait (t : Ticket) (h : (c.client id).task = .leaving .park (some t)) :
    Turn c id .leave ((c.client id).goTo .waitingParked) []
  | giveUp (h : (c.client id).task = .leaving .park none) :
    Turn c id .leave ((c.client id).goTo .withdrawing) []
  | collect (t : Ticket) (buffer bytes : List UInt8)
    (h : (c.client id).task = .awaiting t buffer) (come : c.reply? t = some bytes) :
    Turn c id (.collect t) ((c.client id).answered (.bytes bytes)) [.received t bytes]
  | unanswered (t : Ticket) (buffer : List UInt8) (h : (c.client id).task = .awaiting t buffer)
    (unmet : c.reply? t = none) (halted : c.dispatcher.isOver = true) :
    Turn c id .nothing ((c.client id).answered (.refused .disconnected buffer)) []
  -- locks
  | lock (p : Purpose) (h : (c.client id).task = .locking p) :
    Turn c id .enter ((c.client id).goTo (.spinning p (c.admission.owner == some id))) []
  | rehold (p : Purpose) (h : (c.client id).task = .spinning p true) :
    Turn c id .respin ((c.client id).holding p) []
  | hold (p : Purpose) (h : (c.client id).task = .spinning p false) :
    Turn c id .spin ((c.client id).holding p) []
  | unhold (a : Answer) (h : (c.client id).task = .unspinning a) :
    Turn c id .unspin
      ({ c.client id with holds := (c.client id).holds - 1 }.goTo (.unadmitting a)) []
  | unadmitted (a : Answer) (h : (c.client id).task = .unadmitting a) :
    Turn c id .leave ((c.client id).answered a) []
  -- opening a window
  | request (h : (c.client id).task = .requesting) :
    Turn c id .request ((c.client id).goTo (.admitting .park)) []
  | noRequest (h : (c.client id).task = .requesting) (a : Answer) :
    Turn c id .nothing ((c.client id).goTo (.unspinning a)) []
  | withdraw (h : (c.client id).task = .withdrawing) (a : Answer) :
    Turn c id .withdraw ((c.client id).goTo (.unspinning a)) []
  | enter (h : (c.client id).task = .waitingParked) (state : c.park.state ≠ .requested) :
    Turn c id .nothing ((c.client id).goTo .claimingWindow) []
  | claimWindow (h : (c.client id).task = .claimingWindow) :
    Turn c id .claim ((c.client id).goTo (.opening openWindow)) []
  | openOn (s rest : Script (List UInt8)) (h : (c.client id).task = .opening s) :
    Turn c id .nothing ((c.client id).goTo (.opening rest)) []
  | opened (s : Script (List UInt8)) (h : (c.client id).task = .opening s) :
    Turn c id .nothing ((c.client id).goTo .detachingWindow) []
  | openFault (s : Script (List UInt8)) (f : Fault) (h : (c.client id).task = .opening s) :
    Turn c id .free ((c.client id).goTo (.unspinning (.faulted f))) []
  | detachWindow (h : (c.client id).task = .detachingWindow) :
    Turn c id .free ((c.client id).goTo (.unspinning .done)) []
  -- closing a window
  | own (h : (c.client id).task = .checkingOwner) (owner : c.park.owner = some id) :
    Turn c id .nothing ((c.client id).goTo (.claimingClose .shutdown)) []
  | notOwn (h : (c.client id).task = .checkingOwner) :
    Turn c id .nothing ((c.client id).answered (.refused .notParked [])) []
  | claimClose (w : Closing) (h : (c.client id).task = .claimingClose w) :
    Turn c id .claim ((c.client id).goTo (.checkingClose w)) []
  | shut (w : Closing) (h : (c.client id).task = .checkingClose w)
    (parked : c.park.state = .parked) :
    Turn c id .nothing ((c.client id).goTo (.shutting w shutWindow)) []
  | notOpen (w : Closing) (h : (c.client id).task = .checkingClose w)
    (parked : c.park.state ≠ .parked) :
    Turn c id .nothing ((c.client id).goTo (.detachingClose w (some .notParked))) []
  | shutOn (w : Closing) (s rest : Script (List UInt8)) (h : (c.client id).task = .shutting w s) :
    Turn c id .nothing ((c.client id).goTo (.shutting w rest)) []
  | shutDone (w : Closing) (s : Script (List UInt8)) (h : (c.client id).task = .shutting w s) :
    Turn c id .nothing ((c.client id).goTo (.resuming w)) []
  | shutFault (w : Closing) (s : Script (List UInt8)) (f : Fault)
    (h : (c.client id).task = .shutting w s) :
    Turn c id .free ((c.client id).answered (.faulted f)) []
  | resume (w : Closing) (h : (c.client id).task = .resuming w) (events : List Event)
    (plain : ∀ e ∈ events, e.isPlain = true) :
    Turn c id .resume ((c.client id).goTo (.detachingClose w none)) events
  | noResume (w : Closing) (h : (c.client id).task = .resuming w)
    (parked : c.park.state ≠ .parked) :
    Turn c id .nothing ((c.client id).goTo (.detachingClose w (some .notParked))) []
  | closed (e : Option GateError) (a : Answer)
    (h : (c.client id).task = .detachingClose .shutdown e) :
    Turn c id .free ((c.client id).answered a) []
  | closedDrop (e : Option GateError) (h : (c.client id).task = .detachingClose .drop e)
    (events : List Event) (plain : ∀ e ∈ events, e.isPlain = true) :
    Turn c id .free ((c.client id).goTo .stopping) events
  -- reads past the queue
  | bypass (r : Bypass) (h : (c.client id).task = .bypassChecking r)
    (parked : c.park.state = .parked) (events : List Event)
    (plain : ∀ e ∈ events, e.isPlain = true) :
    Turn c id .nothing ((c.client id).goTo (.bypassSpinning r)) events
  | noBypass (r : Bypass) (h : (c.client id).task = .bypassChecking r)
    (parked : c.park.state ≠ .parked) (events : List Event)
    (plain : ∀ e ∈ events, e.isPlain = true) :
    Turn c id .nothing ((c.client id).answered (.refused .notParked r.buffer)) events
  | bypassSpin (r : Bypass) (h : (c.client id).task = .bypassSpinning r) :
    Turn c id .spin ((c.client id).goTo (.bypassClaiming r)) []
  | noBypassSpin (r : Bypass) (h : (c.client id).task = .bypassSpinning r)
    (taken : c.spin.count ≠ 0) :
    Turn c id .nothing ((c.client id).answered (.refused .lockUnavailable r.buffer)) []
  | bypassClaim (r : Bypass) (h : (c.client id).task = .bypassClaiming r) :
    Turn c id .claim ((c.client id).goTo (.bypassRechecking r)) []
  | noBypassClaim (r : Bypass) (h : (c.client id).task = .bypassClaiming r)
    (taken : c.holder ≠ none) :
    Turn c id .nothing
      ((c.client id).goTo (.bypassUnspinning (.refused .lockUnavailable r.buffer))) []
  | bypassRead (r : Bypass) (h : (c.client id).task = .bypassRechecking r)
    (parked : c.park.state = .parked) :
    Turn c id .nothing ((c.client id).goTo (.bypassReading r
      (Transfer.fastRead c.setup.geometry c.setup.readChunk r.address r.buffer
        (some r.submode)))) []
  | noBypassRead (r : Bypass) (h : (c.client id).task = .bypassRechecking r)
    (parked : c.park.state ≠ .parked) :
    Turn c id .nothing
      ((c.client id).goTo (.bypassDetaching (.refused .notParked r.buffer))) []
  | readOn (r : Bypass) (s rest : Script (List UInt8))
    (h : (c.client id).task = .bypassReading r s) :
    Turn c id .nothing ((c.client id).goTo (.bypassReading r rest)) []
  | readDone (r : Bypass) (s : Script (List UInt8)) (a : Answer)
    (h : (c.client id).task = .bypassReading r s) :
    Turn c id .nothing ((c.client id).goTo (.bypassDetaching a)) []
  | bypassDetach (a : Answer) (h : (c.client id).task = .bypassDetaching a) :
    Turn c id .free ((c.client id).goTo (.bypassUnspinning a)) []
  | bypassUnspin (a : Answer) (h : (c.client id).task = .bypassUnspinning a) :
    Turn c id .unspin ((c.client id).answered a) []
  -- the spin lock from outside
  | outside (h : (c.client id).task = .tryingSpin) :
    Turn c id .spin
      ({ c.client id with outside := (c.client id).outside + 1 }.answered (.flag true)) []
  | noOutside (h : (c.client id).task = .tryingSpin) :
    Turn c id .nothing ((c.client id).answered (.flag false)) []
  | release (h : (c.client id).task = .releasingSpin) (held : 0 < (c.client id).outside) :
    Turn c id .unspin
      ({ c.client id with outside := (c.client id).outside - 1 }.answered (.flag true)) []
  | noRelease (h : (c.client id).task = .releasingSpin) :
    Turn c id .nothing ((c.client id).answered (.flag false)) []
  -- dropping the gate
  | dropOpen (h : (c.client id).task = .inspecting) (parked : c.park.state = .parked)
    (events : List Event) (plain : ∀ e ∈ events, e.isPlain = true) :
    Turn c id .nothing ((c.client id).goTo (.claimingClose .drop)) events
  | dropShut (h : (c.client id).task = .inspecting) (parked : c.park.state ≠ .parked) :
    Turn c id .nothing ((c.client id).goTo .stopping) []
  | stopLost (h : (c.client id).task = .stopping) (halted : c.dispatcher.isOver = true)
    (events : List Event) (plain : ∀ e ∈ events, e.isPlain = true) :
    Turn c id .nothing ((c.client id).goTo .joining) events
  | stop (h : (c.client id).task = .stopping) :
    Turn c id (.push .stop) ((c.client id).goTo .joining) [.accepted .stop]
  | joined (h : (c.client id).task = .joining)
    (halted : c.dispatcher.isOver = true) (events : List Event)
    (plain : ∀ e ∈ events, e.isPlain = true) :
    Turn c id .nothing ((c.client id).answered .done) events

/-- Where a turn of the client can lead, and what is told about it. -/
def Turns (c : Control) (id : ClientId) (next : Control) (events : List Event) : Prop :=
  ∃ e d, Turn c id e d events ∧ e.Allowed c id ∧ next = (e.apply c id).put id d

variable {c : Control} {id : ClientId} {m : Move}

theorem Turn.turns {e : Deed} {d : Client} {events : List Event} {next : Control}
    (h : Turn c id e d events) (allowed : e.Allowed c id) (hn : next = (e.apply c id).put id d) :
    Turns c id next events := ⟨e, d, h, allowed, hn⟩

theorem enter?_eq_some {a a' : Admission} (h : a.enter? id = some a') :
    (a.owner = none ∨ a.owner = some id) ∧ a' = Admission.entered a id := by
  unfold Admission.enter? at h
  split at h
  next ho => cases h; simp [Admission.entered, ho]
  next o ho =>
    split at h
    next hi => cases h; simp [Admission.entered, ho, hi]
    · cases h

theorem claim?_turns {t : Task} (h : c.claim? id t = some m)
    (ht : Turn c id .claim ((c.client id).goTo t) []) : m.Leads (Turns c id) := by
  unfold claim? at h
  split at h
  · cases h
  next free => cases h; exact ht.turns free rfl

theorem submissionMove?_turn {t : Task} (ht : (c.client id).task = t)
    (h : c.submissionMove? id t = some m) : m.Leads (Turns c id) := by
  unfold submissionMove? at h
  split at h
  next s =>
    obtain ⟨a, ha, rfl⟩ := Option.map_eq_some_iff.1 h
    obtain ⟨free, rfl⟩ := enter?_eq_some ha
    exact (Turn.admitted s ht).turns free rfl
  next s =>
    split at h
    next halted => cases h; exact (Turn.refuse s ht halted).turns trivial rfl
    next halted =>
      split at h
      next place =>
        cases h
        exact (Turn.send s ht).turns ⟨by simpa using halted, place⟩ rfl
      · cases h
  next s t =>
    cases h
    match s, t with
    | .job o buffer, some t =>
      by_cases read : o.isRead = true
      · refine (Turn.await o buffer t ht read).turns trivial ?_
        simp only [afterSubmission, read, if_true]
        rfl
      · refine (Turn.queued o buffer t ht (by simpa using read)).turns trivial ?_
        simp only [afterSubmission, read]
        rfl
    | .job o buffer, none => exact (Turn.lost o buffer ht).turns trivial rfl
    | .park, some t => exact (Turn.wait t ht).turns trivial rfl
    | .park, none => exact (Turn.giveUp ht).turns trivial rfl
  next t buffer =>
    split at h
    next bytes come => cases h; exact (Turn.collect t buffer bytes ht come).turns trivial rfl
    next unmet =>
      split at h
      next halted => cases h; exact (Turn.unanswered t buffer ht unmet halted).turns trivial rfl
      · cases h
  · cases h

theorem held_eq (spin : SpinLock) (p : Purpose) :
    c.held id spin p = ({ c with spin } : Control).put id ((c.client id).holding p) := by
  cases p <;> simp [held, put, place, finish, client, Client.holding, Client.goTo, Client.answered]

theorem lockMove?_turn {t : Task} (ht : (c.client id).task = t)
    (h : c.lockMove? id t = some m) : m.Leads (Turns c id) := by
  unfold lockMove? at h
  split at h
  next p =>
    obtain ⟨a, ha, rfl⟩ := Option.map_eq_some_iff.1 h
    obtain ⟨free, rfl⟩ := enter?_eq_some ha
    exact (Turn.lock p ht).turns free rfl
  next p => cases h; exact (Turn.rehold p ht).turns trivial (held_eq ..)
  next p =>
    obtain ⟨l, hl, rfl⟩ := Option.map_eq_some_iff.1 h
    unfold SpinLock.tryLock? at hl
    split at hl
    next zero => cases hl; exact (Turn.hold p ht).turns zero (held_eq ..)
    · cases hl
  · split at h
    next state => cases h; exact (Turn.request ht).turns state rfl
    · cases h; exact (Turn.noRequest ht _).turns trivial rfl
  · cases h; exact (Turn.withdraw ht _).turns trivial rfl
  · split at h
    · cases h
    next state => cases h; exact (Turn.enter ht state).turns trivial rfl
  · exact claim?_turns h (Turn.claimWindow ht)
  next s =>
    cases h
    intro p
    match p with
    | .unfinished rest => exact (Turn.openOn s rest ht).turns trivial rfl
    | .finished (.ok _) => exact (Turn.opened s ht).turns trivial rfl
    | .finished (.error f) => exact (Turn.openFault s f ht).turns trivial rfl
  · cases h; exact (Turn.detachWindow ht).turns trivial rfl
  next a =>
    cases h
    refine (Turn.unhold a ht).turns trivial ?_
    simp [place, put, client, Deed.apply, Client.goTo]
  next a => cases h; exact (Turn.unadmitted a ht).turns trivial rfl
  · cases h

theorem closeMove?_turn {t : Task} (ht : (c.client id).task = t)
    (h : c.closeMove? id t = some m) : m.Leads (Turns c id) := by
  unfold closeMove? at h
  split at h
  · split at h
    next owner => cases h; exact (Turn.own ht owner).turns trivial rfl
    · cases h; exact (Turn.notOwn ht).turns trivial rfl
  next w => exact claim?_turns h (Turn.claimClose w ht)
  next w =>
    split at h
    next parked => cases h; exact (Turn.shut w ht parked).turns trivial rfl
    next parked => cases h; exact (Turn.notOpen w ht parked).turns trivial rfl
  next w s =>
    cases h
    intro p
    match p with
    | .unfinished rest => exact (Turn.shutOn w s rest ht).turns trivial rfl
    | .finished (.ok _) => exact (Turn.shutDone w s ht).turns trivial rfl
    | .finished (.error f) => exact (Turn.shutFault w s f ht).turns trivial rfl
  next w =>
    split at h
    next parked => cases h; exact (Turn.resume w ht _ (by simp [Event.isPlain])).turns parked rfl
    next parked => cases h; exact (Turn.noResume w ht parked).turns trivial rfl
  next w e =>
    cases h
    match w, e with
    | .shutdown, none => exact (Turn.closed none _ ht).turns trivial rfl
    | .shutdown, some e => exact (Turn.closed (some e) _ ht).turns trivial rfl
    | .drop, none => exact (Turn.closedDrop none ht _ (by simp)).turns trivial rfl
    | .drop, some e =>
      exact (Turn.closedDrop (some e) ht _ (by simp [Event.isPlain])).turns trivial rfl
  · cases h

theorem bypassMove?_turn {t : Task} (ht : (c.client id).task = t)
    (h : c.bypassMove? id t = some m) : m.Leads (Turns c id) := by
  unfold bypassMove? at h
  split at h
  next r =>
    split at h
    next parked =>
      cases h; exact (Turn.bypass r ht parked _ (by simp [Event.isPlain])).turns trivial rfl
    next parked =>
      cases h; exact (Turn.noBypass r ht parked _ (by simp [Event.isPlain])).turns trivial rfl
  next r =>
    unfold SpinLock.tryLock? at h
    by_cases zero : c.spin.count = 0 <;> simp only [zero, if_true, if_false] at h <;> cases h
    · exact (Turn.bypassSpin r ht).turns zero rfl
    · exact (Turn.noBypassSpin r ht zero).turns trivial rfl
  next r =>
    split at h
    next who taken => cases h; exact (Turn.noBypassClaim r ht (by simp [taken])).turns trivial rfl
    next free => cases h; exact (Turn.bypassClaim r ht).turns free rfl
  next r =>
    split at h
    next parked => cases h; exact (Turn.bypassRead r ht parked).turns trivial rfl
    next parked => cases h; exact (Turn.noBypassRead r ht parked).turns trivial rfl
  next r s =>
    cases h
    intro p
    match p with
    | .unfinished rest => exact (Turn.readOn r s rest ht).turns trivial rfl
    | .finished (.ok bytes) => exact (Turn.readDone r s _ ht).turns trivial rfl
    | .finished (.error f) => exact (Turn.readDone r s _ ht).turns trivial rfl
  next a => cases h; exact (Turn.bypassDetach a ht).turns trivial rfl
  next a => cases h; exact (Turn.bypassUnspin a ht).turns trivial rfl
  · cases h

theorem outsideMove?_turn {t : Task} (ht : (c.client id).task = t)
    (h : c.outsideMove? id t = some m) : m.Leads (Turns c id) := by
  unfold outsideMove? at h
  split at h
  · unfold SpinLock.tryLock? at h
    by_cases zero : c.spin.count = 0 <;> simp only [zero, if_true, if_false] at h <;> cases h
    · refine (Turn.outside ht).turns zero ?_
      simp [finish, put, client, Deed.apply, Client.answered]
    · exact (Turn.noOutside ht).turns trivial rfl
  · simp only at h
    split at h
    · cases h; exact (Turn.noRelease ht).turns trivial rfl
    next held =>
      cases h
      refine (Turn.release ht (Nat.pos_of_ne_zero held)).turns trivial ?_
      simp [finish, put, client, Deed.apply, Client.answered]
  · cases h

theorem dropMove?_turn {t : Task} (ht : (c.client id).task = t)
    (h : c.dropMove? id t = some m) : m.Leads (Turns c id) := by
  unfold dropMove? at h
  split at h
  · split at h
    next parked =>
      cases h; exact (Turn.dropOpen ht parked _ (by simp [Event.isPlain])).turns trivial rfl
    next parked => cases h; exact (Turn.dropShut ht parked).turns trivial rfl
  · split at h
    next halted =>
      cases h; exact (Turn.stopLost ht halted _ (by simp [Event.isPlain])).turns trivial rfl
    next halted =>
      split at h
      next place => cases h; exact (Turn.stop ht).turns ⟨by simpa using halted, place⟩ rfl
      · cases h
  · split at h
    next halted =>
      cases h
      exact (Turn.joined ht (by simp [halted, Dispatcher.isOver]) _ (by simp)).turns trivial rfl
    next halted =>
      cases h
      exact (Turn.joined ht (by simp [halted, Dispatcher.isOver]) _
        (by simp [Event.isPlain])).turns trivial rfl
    · cases h
  · cases h

/-- Every move of a client is a turn. -/
theorem clientMove?_turn (h : c.clientMove? id = some m) : m.Leads (Turns c id) := by
  unfold clientMove? at h
  split at h
  · cases h
  all_goals first
    | exact submissionMove?_turn ‹_› h
    | exact closeMove?_turn ‹_› h
    | exact bypassMove?_turn ‹_› h
    | exact outsideMove?_turn ‹_› h
    | exact dropMove?_turn ‹_› h
    | exact lockMove?_turn rfl h

/-- A command that a client may turn to takes it to the first place of the command, or ends it. -/
theorem begin_turn {k : Command} (idle : (c.client id).task = .idle) (there : c.dropped = false)
    (hk : ∀ p, k ≠ .setPriority p) (hd : k ≠ .drop) :
    let d : Client := { c.client id with answer := none }
    ∃ e, Turn c id .nothing e [] ∧ (c.put id d).begin id k = c.put id e := by
  intro d
  have opens {t : Task} (ht : Opens c id t) :
      ∃ e, Turn c id .nothing e [] ∧ (c.put id d).place id t = c.put id e :=
    ⟨_, .opens idle there ht, by simp [place, put, client, Client.goTo, d]⟩
  have answers (a : Answer) :
      ∃ e, Turn c id .nothing e [] ∧ (c.put id d).finish id a = c.put id e :=
    ⟨_, .answers (c.client id).priority a idle there, by
      simp [finish, put, client, Client.answered, d]⟩
  have fits (m : Submode) (address : UInt32) (buffer : List UInt8) :
      Submission.Fits c.setup (.job (.ofReadKind address buffer.length
        (c.setup.strategy.readKindFor m)) buffer) := by
    cases hs : c.setup.strategy <;>
      simp [Submission.Fits, Strategy.readKindFor, Operation.ofReadKind, Operation.kind,
        OperationKind.isFastRead, Operation.length, hs]
  cases k with
  | read address buffer =>
    refine opens (.submit _ buffer ?_)
    cases hs : c.setup.strategy <;>
      simp [put, Submission.Fits, Strategy.readKind, Operation.ofReadKind, Operation.kind,
        OperationKind.isFastRead, Operation.length, hs]
  | readMode address buffer m => exact opens (.submit _ buffer (fits m address buffer))
  | write address data =>
    exact opens (.submit _ [] (by
      simp [Submission.Fits, Operation.kind, OperationKind.isFastRead, Operation.isRead]))
  | erase address length =>
    exact opens (.submit _ [] (by
      simp [Submission.Fits, Operation.kind, OperationKind.isFastRead, Operation.isRead]))
  | openWindow =>
    have hs : (c.put id d).setup = c.setup := rfl
    simp only [begin, hs]
    cases h : c.setup.strategy with
    | standard => exact answers _
    | fast m => exact opens (.window (by simp [h]))
  | closeWindow => exact opens .close
  | bypassRead address buffer => exact opens (.bypass _)
  | bypassReadMode address buffer m => exact opens (.bypass _)
  | lock => exact opens .hold
  | unlock index =>
    have hn : ((c.put id d).client id).holds = (c.client id).holds := by
      simp [put, client, d]
    simp only [begin, hn]
    split
    · exact opens (.unlock _ (by omega))
    · exact answers _
  | trySpin => exact opens .trySpin
  | releaseSpin => exact opens .releaseSpin
  | setPriority p => exact absurd rfl (hk p)
  | drop => exact absurd rfl hd

theorem idle_of_begin? {k : Command} {next : Control} (h : c.begin? id k = some next) :
    (c.client id).task = .idle := by
  unfold begin? at h
  split at h
  next may =>
    unfold mayBegin at may
    cases ht : (c.client id).task <;> simp [ht] at may ⊢
  · cases h

theorem there_of_begin? {k : Command} {next : Control} (h : c.begin? id k = some next) :
    c.dropped = false := by
  have idle := idle_of_begin? h
  unfold begin? at h
  split at h
  next may =>
    unfold mayBegin at may
    cases k <;> simp_all
  · cases h

/-- Every command begun is a turn. -/
theorem begin?_turn {k : Command} {next : Control} (h : c.begin? id k = some next) :
    Turns c id next [] := by
  have idle := idle_of_begin? h
  have there := there_of_begin? h
  unfold begin? at h
  split at h
  next may =>
    cases h
    by_cases hd : k = .drop
    · subst hd
      have quiet : c.isQuiet id = true := by
        simp only [mayBegin, idle, Bool.and_eq_true] at may
        exact may.2
      exact (Turn.retires idle).turns ⟨there, quiet⟩
        (by simp [begin, place, put, client, Deed.apply, Client.goTo])
    · by_cases hk : ∃ p, k = .setPriority p
      · obtain ⟨p, rfl⟩ := hk
        exact (Turn.answers p .done idle there).turns trivial
          (by simp [begin, finish, put, client, Deed.apply, Client.answered])
      · obtain ⟨e, turn, he⟩ := begin_turn (k := k) idle there (by simpa using hk) hd
        exact turn.turns trivial he
  · cases h

/-! ## Turns of the dispatcher -/

/-- One turn of the dispatcher: the control state afterwards, and what is told about it. -/
inductive DispatcherTurn (c : Control) : Control → List Event → Prop where
  | start (h : c.dispatcher = .starting) (events : List Event)
    (plain : ∀ e ∈ events, e.isPlain = true) :
    DispatcherTurn c { c with dispatcher := .receiving } events
  | takeJob (j : Job) (rest : List Message) (h : c.dispatcher = .receiving)
    (queue : c.queue = .job j :: rest) :
    DispatcherTurn c { c with queue := rest, dispatcher := .claiming j }
      [.taken (.job j), .priority j.priority]
  | takePark (id : ClientId) (rest : List Message) (h : c.dispatcher = .receiving)
    (queue : c.queue = .park id :: rest) (line : Line) :
    DispatcherTurn c { c with queue := rest, dispatcher := .claimingRelease .park }
      [.taken (.park id), .log line]
  | takeStop (rest : List Message) (h : c.dispatcher = .receiving)
    (queue : c.queue = .stop :: rest) :
    DispatcherTurn c { c with queue := rest, dispatcher := .claimingRelease .stop } [.taken .stop]
  | claim (j : Job) (h : c.dispatcher = .claiming j) (free : c.holder = none) :
    DispatcherTurn c { c with
      holder := some .dispatcher
      dispatcher := .serving j (serve c.setup c.mode j.operation) } []
  | serveOn (j : Job) (s rest : Script (List UInt8)) (h : c.dispatcher = .serving j s) :
    DispatcherTurn c { c with dispatcher := .serving j rest } []
  | served (j : Job) (s : Script (List UInt8)) (bytes : List UInt8)
    (h : c.dispatcher = .serving j s) :
    DispatcherTurn c (c.served j bytes).1 (c.served j bytes).2
  | abort (h : (∃ j s, c.dispatcher = .serving j s) ∨ ∃ l s, c.dispatcher = .releasing l s) :
    DispatcherTurn c { c with dispatcher := .aborted } []
  | unwind (h : (∃ j s, c.dispatcher = .serving j s) ∨ ∃ l s, c.dispatcher = .releasing l s) :
    DispatcherTurn c { c with dispatcher := .unwinding, holder := none } []
  | detach (j : Job) (h : c.dispatcher = .detaching j) :
    DispatcherTurn c { c with holder := none, dispatcher := .restoring j } []
  | restore (j : Job) (h : c.dispatcher = .restoring j) (events : List Event)
    (plain : ∀ e ∈ events, e.isPlain = true) :
    DispatcherTurn c { c with mode := .serving j.operation.kind, dispatcher := .receiving } events
  | claimRelease (l : Leave) (h : c.dispatcher = .claimingRelease l) (free : c.holder = none) :
    DispatcherTurn c { c with
      holder := some .dispatcher
      dispatcher := .releasing l (release c.setup c.mode) } []
  | releaseOn (l : Leave) (s rest : Script (List UInt8)) (h : c.dispatcher = .releasing l s) :
    DispatcherTurn c { c with dispatcher := .releasing l rest } []
  | released (l : Leave) (s : Script (List UInt8)) (h : c.dispatcher = .releasing l s) :
    DispatcherTurn c { c with mode := .released, dispatcher := .detachingRelease l } []
  | detachPark (h : c.dispatcher = .detachingRelease .park) :
    DispatcherTurn c { c with holder := none, dispatcher := .announcing } []
  | stop (h : c.dispatcher = .detachingRelease .stop) (events : List Event)
    (plain : ∀ e ∈ events, e.isPlain = true) :
    DispatcherTurn c { c with holder := none, dispatcher := .stopped } events
  | announce (h : c.dispatcher = .announcing) :
    DispatcherTurn c { c with park := { c.park with state := .parked }, dispatcher := .parked } []
  | wake (h : c.dispatcher = .parked) (state : c.park.state ≠ .parked) (events : List Event)
    (plain : ∀ e ∈ events, e.isPlain = true) :
    DispatcherTurn c { c with dispatcher := .receiving } events
  | die (h : c.dispatcher = .unwinding) : DispatcherTurn c
    { c with queue := [], dispatcher := .dead } []

theorem dispatcherFault_turn {f : Fault}
    (h : (∃ j s, c.dispatcher = .serving j s) ∨ ∃ l s, c.dispatcher = .releasing l s) :
    DispatcherTurn c (c.dispatcherFault f) [] := by
  cases f with
  | flashLost => exact .abort h
  | _ => exact .unwind h

/-- Every move of the dispatcher is a turn. -/
theorem dispatcherMove?_turn (h : c.dispatcherMove? = some m) : m.Leads (DispatcherTurn c) := by
  unfold dispatcherMove? at h
  cases hd : c.dispatcher with
  | starting => simp only [hd] at h; cases h; exact .start hd _ (by simp [Event.isPlain])
  | receiving =>
    simp only [hd] at h
    split at h
    · cases h
    next msg rest hq =>
      cases h
      cases msg with
      | job j => exact .takeJob j rest hd hq
      | park id => exact .takePark id rest hd hq _
      | stop => exact .takeStop rest hd hq
  | claiming j =>
    simp only [hd] at h
    split at h
    · cases h
    next free => cases h; exact .claim j hd free
  | serving j s =>
    simp only [hd] at h
    cases h
    intro p
    match p with
    | .unfinished rest => exact .serveOn j s rest hd
    | .finished (.ok bytes) => exact .served j s bytes hd
    | .finished (.error f) => exact dispatcherFault_turn (.inl ⟨j, s, hd⟩)
  | detaching j => simp only [hd] at h; cases h; exact .detach j hd
  | restoring j => simp only [hd] at h; cases h; exact .restore j hd _ (by simp [Event.isPlain])
  | claimingRelease l =>
    simp only [hd] at h
    split at h
    · cases h
    next free => cases h; exact .claimRelease l hd free
  | releasing l s =>
    simp only [hd] at h
    cases h
    intro p
    match p with
    | .unfinished rest => exact .releaseOn l s rest hd
    | .finished (.ok bytes) => exact .released l s hd
    | .finished (.error f) => exact dispatcherFault_turn (.inr ⟨l, s, hd⟩)
  | detachingRelease l =>
    cases l with
    | park => simp only [hd] at h; cases h; exact .detachPark hd
    | stop => simp only [hd] at h; cases h; exact .stop hd _ (by simp [Event.isPlain])
  | announcing => simp only [hd] at h; cases h; exact .announce hd
  | parked =>
    simp only [hd] at h
    split at h
    · cases h
    next state => cases h; exact .wake hd state _ (by simp [Event.isPlain])
  | unwinding => simp only [hd] at h; cases h; exact .die hd
  | stopped => simp only [hd] at h; cases h
  | dead => simp only [hd] at h; cases h
  | aborted => simp only [hd] at h; cases h

/-! ## Turns of any thread -/

/-- One turn of a thread. Nothing turns after the process has ended. -/
inductive Goes (c : Control) : Actor → Control → List Event → Prop where
  | dispatcher {next : Control} {events : List Event} (h : DispatcherTurn c next events) :
    Goes c .dispatcher next events
  | client {id : ClientId} {next : Control} {events : List Event} (h : Turns c id next events) :
    Goes c (.client id) next events

theorem Turns.dispatcher {next : Control} {events : List Event} (h : Turns c id next events) :
    next.dispatcher = c.dispatcher ∧ next.mode = c.mode ∧ next.setup = c.setup := by
  obtain ⟨e, d, -, -, rfl⟩ := h
  exact ⟨dispatcher_apply c id e, mode_apply c id e, setup_apply c id e⟩

theorem DispatcherTurn.clients {next : Control} {events : List Event}
    (h : DispatcherTurn c next events) : next.clients = c.clients ∧ next.setup = c.setup := by
  cases h
  case served => unfold Control.served; split <;> exact ⟨rfl, rfl⟩
  all_goals exact ⟨rfl, rfl⟩

theorem Goes.setup {who : Actor} {next : Control} {events : List Event}
    (h : c.Goes who next events) : next.setup = c.setup := by
  cases h with
  | dispatcher h => exact h.clients.2
  | client h => exact h.dispatcher.2.2

theorem alive_of_move? {who : Actor} (h : c.move? who = some m) : c.dispatcher ≠ .aborted := by
  intro ha
  simp [move?, ha] at h

/-- Every move is a turn. -/
theorem move?_goes {who : Actor} (h : c.move? who = some m) : m.Leads (Goes c who) := by
  unfold move? at h
  split at h
  · cases h
  · exact (dispatcherMove?_turn h).mono fun _ _ => .dispatcher
  · exact (clientMove?_turn h).mono fun _ _ => .client

end Control

end FlashGate

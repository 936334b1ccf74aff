/-
A session on a gate: commands of several clients, one after the other. After each one the gate is
let come to rest, or only the client's answer is waited for. A command may be left waiting while
others run, and is joined later; as long as one is waiting, the traffic on the device is not shown.
-/
import FlashGate.Gateway.Schedule

namespace FlashGate

/-- A session on a gate. -/
structure Session (σ : Type) where
  gate : Gate σ
  /-- Number of journal entries already shown. -/
  shown : Nat := 0
  /-- Number of journal entries whose calls are forgotten. -/
  cleared : Nat := 0
  /-- The clients whose commands are not joined yet. -/
  waiting : List ClientId := []
  /-- The spin lock of the code outside, if the gate does not share it. -/
  apart : Option SpinLock := none

/-- Traffic on the device: the calls with their callers and answers, and the breaches. -/
structure Traffic where
  calls : List Entry := []
  breaches : List Breach := []

namespace Session

variable {σ : Type}

/-- The journal so far. -/
def journal (s : Session σ) : Array Entry := s.gate.bus.journal

/-- Whether the whole process has ended. -/
def isAborted (s : Session σ) : Bool :=
  match s.gate.control.dispatcher with
  | .aborted => true
  | _ => false

/-- The state of a client. -/
def client (s : Session σ) (id : ClientId) : Client := s.gate.control.client id

/-- Turns a client to a command and lets the gate come to rest. -/
def act (T : Transport σ) (id : ClientId) (k : Command) (s : Session σ) : Session σ :=
  match s with
  | ⟨⟨c, b⟩, shown, cleared, waiting, apart⟩ =>
    match c.begin? id k with
    | none => ⟨⟨c, b⟩, shown, cleared, waiting, apart⟩
    | some c => ⟨Gate.rest T id ⟨c, b⟩, shown, cleared, waiting, apart⟩

/-- Turns a client to a command and lets the threads move until it has its answer. -/
def call (T : Transport σ) (id : ClientId) (k : Command) (s : Session σ) : Session σ :=
  match s with
  | ⟨⟨c, b⟩, shown, cleared, waiting, apart⟩ =>
    match c.begin? id k with
    | none => ⟨⟨c, b⟩, shown, cleared, waiting, apart⟩
    | some c => ⟨Gate.attend T id ⟨c, b⟩, shown, cleared, waiting, apart⟩

/-- Lets the threads move until the client has the answer to a command that it has turned to. -/
def await (T : Transport σ) (id : ClientId) (s : Session σ) : Session σ :=
  match s with
  | ⟨g, shown, cleared, waiting, apart⟩ => ⟨Gate.attend T id g, shown, cleared, waiting, apart⟩

/-- Opens a session on a gate and lets its dispatcher start. The gate either shares its spin lock
with the code outside or keeps it to itself. -/
def ofControl (T : Transport σ) (id : ClientId) (shared : Bool) (c : Control) (b : Bus σ) :
    Session σ :=
  { gate := Gate.rest T id ⟨c, b⟩, apart := if shared then none else some {} }

/-- Starts a command without waiting for its answer. -/
def spawn (T : Transport σ) (id : ClientId) (k : Command) (s : Session σ) : Session σ :=
  let s := s.act T id k
  { s with waiting := id :: s.waiting }

/-- The answer to the client's last command, if it has come. -/
def answer? (s : Session σ) (id : ClientId) : Option Answer := (s.client id).answer

/-- Whether the client's last command was answered with yes. -/
def isGranted (s : Session σ) (id : ClientId) : Bool :=
  match s.answer? id with
  | some (.flag b) => b
  | _ => false

/-- The code outside tries its spin lock, on the thread of the given client. -/
def trySpin (T : Transport σ) (id : ClientId) (s : Session σ) : Bool × Session σ :=
  match s.apart with
  | none =>
    let s := s.act T id .trySpin
    (s.isGranted id, s)
  | some l =>
    match l.tryLock? with
    | some l => (true, { s with apart := some l })
    | none => (false, s)

/-- The code outside gives up a level of its spin lock, if it has one. -/
def releaseSpin (T : Transport σ) (id : ClientId) (s : Session σ) : Bool × Session σ :=
  match s.apart with
  | none =>
    let s := s.act T id .releaseSpin
    (s.isGranted id, s)
  | some l => (l.isLocked, { s with apart := some l.release })

/-- Whether the spin lock of the code outside is held. -/
def isSpinLocked (s : Session σ) : Bool := (s.apart.getD s.gate.control.spin).isLocked

/-- Ends the wait for a command. -/
def join (id : ClientId) (s : Session σ) : Session σ :=
  { s with waiting := s.waiting.filter (· ≠ id) }

/-- Changes the device from outside. -/
def mapDevice (f : σ → σ) (s : Session σ) : Session σ :=
  match s with
  | ⟨⟨c, ⟨device, journal⟩⟩, shown, cleared, waiting, apart⟩ =>
    ⟨⟨c, ⟨f device, journal⟩⟩, shown, cleared, waiting, apart⟩

/-- Forgets the calls made so far. -/
def clearCalls (s : Session σ) : Session σ := { s with cleared := s.journal.size }

/-- The calls in a part of the journal. -/
def callsIn (entries : Array Entry) : List Entry :=
  entries.toList.filter fun e => match e.event with | .call .. => true | _ => false

/-- The calls that are not forgotten. -/
def calls (s : Session σ) : List Entry :=
  callsIn (s.journal.extract s.cleared s.journal.size)

/-- The breaches reported so far. -/
def breaches (s : Session σ) : List Breach :=
  s.journal.toList.filterMap fun e => e.event.breach?

/-- The priorities that the dispatcher set for itself, in order. -/
def priorities (s : Session σ) : List Priority :=
  s.journal.toList.filterMap fun e =>
    match e.actor, e.event with
    | .dispatcher, .priority p => some p
    | _, _ => none

/-- The log lines of one thread. -/
def linesOf (s : Session σ) (who : Actor) : List Line :=
  s.journal.toList.filterMap fun e => if e.actor = who then e.event.line? else none

/-- The traffic since it was last shown; none while a command is waiting. -/
def traffic (s : Session σ) : Traffic × Session σ :=
  if s.waiting.isEmpty then
    let size := s.journal.size
    let calls := callsIn (s.journal.extract (max s.shown s.cleared) size)
    let breaches := (s.journal.extract s.shown size).toList.filterMap fun e => e.event.breach?
    (⟨calls, breaches⟩, { s with shown := size })
  else ({}, s)

/-- Lets a client give up so many holds on the flash. -/
def unlockAll (T : Transport σ) (id : ClientId) : Nat → Session σ → Session σ
  | 0, s => s
  | n + 1, s => unlockAll T id n (s.act T id (.unlock none))

/-- Ends the session: all clients give up their holds, then the given one drops the gate. -/
def close (T : Transport σ) (id : ClientId) (s : Session σ) : Session σ :=
  let s := s.gate.control.clients.ids.foldl (fun s i => s.unlockAll T i (s.client i).holds) s
  s.act T id .drop

end Session

end FlashGate

/-
The control state of a gate: who holds the transport, admission and the spin lock, the park
handshake, the request queue, and the place of the dispatcher and of every client in their code.
It does not depend on the device: calls on the device stand in scripts that the state carries.
-/
import FlashGate.Gateway.Error
import FlashGate.SpinLock

namespace FlashGate

/-- What is fixed when a gate is opened. -/
structure Setup where
  geometry : Geometry
  commands : CommandSet
  strategy : Strategy
  queueDepth : Nat
  /-- At least one. -/
  readChunk : Nat
  retry : RetryPolicy
  /-- The dispatcher's own priority. -/
  baseline : Priority

/-! ## Locks and handshake -/

/-- The recursive lock that every submission passes. -/
structure Admission where
  owner : Option ClientId := none
  depth : Nat := 0
  deriving DecidableEq, Repr

namespace Admission

/-- The lock with one more level for the client, if it is free or the client's own. -/
def enter? (a : Admission) (id : ClientId) : Option Admission :=
  match a.owner with
  | none => some ⟨some id, 1⟩
  | some o => if o = id then some ⟨some id, a.depth + 1⟩ else none

/-- The lock with one level less. -/
def leave (a : Admission) : Admission :=
  if a.depth ≤ 1 then ⟨none, 0⟩ else ⟨a.owner, a.depth - 1⟩

end Admission

/-- Where the park handshake stands. -/
inductive ParkState where
  /-- The queue is served. -/
  | running
  /-- A park is asked for, its sentinel not yet reached. -/
  | requested
  /-- The dispatcher sleeps, off the transport. -/
  | parked
  deriving DecidableEq, Repr

/-- The state's name. -/
def ParkState.name : ParkState → String
  | .running => "Running"
  | .requested => "ParkRequested"
  | .parked => "Parked"

/-- The park handshake: its state, and the client that asked for it. -/
structure Park where
  state : ParkState := .running
  owner : Option ClientId := none
  deriving DecidableEq, Repr

/-! ## The dispatcher -/

/-- Why the dispatcher releases the hardware. -/
inductive Leave where
  | park
  | stop
  deriving DecidableEq, Repr

/-- The place of the dispatcher in its code. -/
inductive Dispatcher where
  /-- Not yet at its baseline priority. -/
  | starting
  /-- Wants a message. -/
  | receiving
  /-- Wants the transport for a job. -/
  | claiming (j : Job)
  /-- Runs a job on the transport. -/
  | serving (j : Job) (script : Script (List UInt8))
  /-- Done with a job, still holding the transport. -/
  | detaching (j : Job)
  /-- Off the transport, still at the job's priority. -/
  | restoring (j : Job)
  /-- Wants the transport to release the hardware. -/
  | claimingRelease (l : Leave)
  /-- Releases the hardware. -/
  | releasing (l : Leave) (script : Script (List UInt8))
  /-- Hardware released, still holding the transport. -/
  | detachingRelease (l : Leave)
  /-- About to announce the park. -/
  | announcing
  /-- Sleeps until it is resumed. -/
  | parked
  /-- Ended as asked. -/
  | stopped
  /-- Hit by a fault, the queue not yet closed. -/
  | unwinding
  /-- Ended by a fault. -/
  | dead
  /-- Ended together with the process. -/
  | aborted

/-- Whether the dispatcher takes no message any more. -/
def Dispatcher.isOver : Dispatcher → Bool
  | .stopped => true
  | .dead => true
  | .aborted => true
  | _ => false

/-! ## Clients -/

/-- What a client is asked to do. A read names the buffer it fills. -/
inductive Command where
  | read (address : UInt32) (buffer : List UInt8)
  | readMode (address : UInt32) (buffer : List UInt8) (submode : Submode)
  | write (address : UInt32) (data : List UInt8)
  | erase (address : UInt32) (length : Nat)
  /-- Opens a low-level window. -/
  | openWindow
  /-- Closes the client's low-level window. -/
  | closeWindow
  /-- Reads past the queue, in the calibrated submode. -/
  | bypassRead (address : UInt32) (buffer : List UInt8)
  /-- Reads past the queue, in the given submode. -/
  | bypassReadMode (address : UInt32) (buffer : List UInt8) (submode : Submode)
  /-- Takes the flash for the client. -/
  | lock
  /-- Gives up one hold on the flash: the newest, or the one with the index in the order they were
  taken. The index of no hold gives up none. -/
  | unlock (index : Option Nat)
  /-- Tries the spin lock from outside the gate. -/
  | trySpin
  /-- Releases a spin lock level taken from outside. -/
  | releaseSpin
  | setPriority (p : Priority)
  /-- Drops the gate. -/
  | drop

/-- What a client gets back. -/
inductive Answer where
  | done
  /-- The filled buffer. -/
  | bytes (buffer : List UInt8)
  /-- Number of holds on the flash. -/
  | holds (count : Nat)
  | flag (b : Bool)
  /-- An error, and the buffer as it is then. -/
  | refused (e : GateError) (buffer : List UInt8)
  /-- The client's thread hit a fault. -/
  | faulted (f : Fault)

/-- A message that a client wants to submit. -/
inductive Submission where
  /-- A job; for a read, the buffer that waits for its bytes. -/
  | job (operation : Operation) (buffer : List UInt8)
  /-- The sentinel of a low-level window. -/
  | park

/-- What the flash is locked for. -/
inductive Purpose where
  | hold
  | window
  deriving DecidableEq, Repr

/-- Who closes a window: its owner, or the end of the gate. -/
inductive Closing where
  | shutdown
  | drop
  deriving DecidableEq, Repr

/-- A read past the queue. -/
structure Bypass where
  address : UInt32
  buffer : List UInt8
  submode : Submode

/-- The place of a client in its code. -/
inductive Task where
  | idle
  /-- Wants admission to submit. -/
  | admitting (s : Submission)
  /-- Admitted, wants a place in the queue. -/
  | sending (s : Submission)
  /-- Submitted under a ticket, or refused; still admitted. -/
  | leaving (s : Submission) (ticket : Option Ticket)
  /-- Waits for the bytes of a read. -/
  | awaiting (ticket : Ticket) (buffer : List UInt8)
  /-- Wants admission to lock the flash. -/
  | locking (p : Purpose)
  /-- Admitted, wants the spin lock; a client that was admitted before adds a level. -/
  | spinning (p : Purpose) (reentry : Bool)
  /-- Holds the flash, asks for the park. -/
  | requesting
  /-- The sentinel was refused; takes the request back. -/
  | withdrawing
  /-- Waits for the park. -/
  | waitingParked
  /-- Wants the transport to open the window. -/
  | claimingWindow
  /-- Opens the window. -/
  | opening (script : Script (List UInt8))
  /-- Window open, still holding the transport. -/
  | detachingWindow
  /-- Gives up one level of the spin lock and then of admission. -/
  | unspinning (a : Answer)
  /-- Gives up one level of admission. -/
  | unadmitting (a : Answer)
  /-- Wants to know whether the window is its own. -/
  | checkingOwner
  /-- Wants the transport to close the window. -/
  | claimingClose (c : Closing)
  /-- Wants to know whether a window is open. -/
  | checkingClose (c : Closing)
  /-- Releases the fast-read hardware. -/
  | shutting (c : Closing) (script : Script (List UInt8))
  /-- Resumes the dispatcher. -/
  | resuming (c : Closing)
  /-- Done with the close, still holding the transport. -/
  | detachingClose (c : Closing) (error : Option GateError)
  /-- Wants to know whether a window is open. -/
  | bypassChecking (r : Bypass)
  /-- Tries the spin lock. -/
  | bypassSpinning (r : Bypass)
  /-- Tries the transport. -/
  | bypassClaiming (r : Bypass)
  /-- Holds both, wants to know whether the window is still open. -/
  | bypassRechecking (r : Bypass)
  /-- Reads. -/
  | bypassReading (r : Bypass) (script : Script (List UInt8))
  /-- Gives up the transport and then the spin lock. -/
  | bypassDetaching (a : Answer)
  /-- Gives up the spin lock. -/
  | bypassUnspinning (a : Answer)
  /-- Tries the spin lock from outside. -/
  | tryingSpin
  /-- Gives up a level taken from outside. -/
  | releasingSpin
  /-- Drops the gate: wants to know whether a window is open. -/
  | inspecting
  /-- Wants a place in the queue for the stop sentinel. -/
  | stopping
  /-- Waits for the end of the dispatcher. -/
  | joining

/-- Whether the client is not at work. -/
def Task.isIdle : Task → Bool
  | .idle => true
  | _ => false

theorem Task.eq_idle {t : Task} (h : t.isIdle = true) : t = .idle := by
  cases t <;> first | rfl | cases h

/-- A client thread. -/
structure Client where
  priority : Priority := 0
  /-- Holds on the flash: levels of the spin lock taken together with admission. -/
  holds : Nat := 0
  /-- Levels of the spin lock taken from outside. -/
  outside : Nat := 0
  task : Task := .idle
  /-- The answer to the last command. -/
  answer : Option Answer := none

/-- The clients seen so far. A client that is not listed is idle and holds nothing. -/
structure Roster where
  entries : List (ClientId × Client) := []

namespace Roster

/-- The client's state in a list of entries. -/
def find (id : ClientId) : List (ClientId × Client) → Client
  | [] => {}
  | (i, c) :: rest => if i = id then c else find id rest

/-- The client's state. -/
def get (r : Roster) (id : ClientId) : Client := find id r.entries

/-- The entries with the client's state replaced, or added at the end. -/
def put (id : ClientId) (c : Client) : List (ClientId × Client) → List (ClientId × Client)
  | [] => [(id, c)]
  | (i, d) :: rest => if i = id then (i, c) :: rest else (i, d) :: put id c rest

/-- The roster with the client's state replaced. -/
def set (r : Roster) (id : ClientId) (c : Client) : Roster := ⟨put id c r.entries⟩

/-- The clients that are listed. -/
def ids (r : Roster) : List ClientId := r.entries.map (·.1)

/-- The clients at work, in the order in which they came. -/
def busy (r : Roster) : List ClientId := (r.entries.filter fun e => !e.2.task.isIdle).map (·.1)

theorem find_put_self (id : ClientId) (c : Client) (l : List (ClientId × Client)) :
    find id (put id c l) = c := by
  induction l with
  | nil => simp [put, find]
  | cons e rest ih => obtain ⟨i, d⟩ := e; by_cases h : i = id <;> simp [put, find, h, ih]

theorem find_put_ne {id other : ClientId} (h : other ≠ id) (c : Client)
    (l : List (ClientId × Client)) : find other (put id c l) = find other l := by
  induction l with
  | nil => simp [put, find, Ne.symm h]
  | cons e rest ih =>
    obtain ⟨i, d⟩ := e
    by_cases hi : i = id
    · subst hi; simp [put, find, Ne.symm h]
    · by_cases ho : i = other
      · subst ho; simp [put, find, hi]
      · simp [put, find, hi, ho, ih]

@[simp] theorem get_set_self (r : Roster) (id : ClientId) (c : Client) :
    (r.set id c).get id = c := find_put_self id c r.entries

@[simp] theorem get_set_ne (r : Roster) {id other : ClientId} (h : other ≠ id) (c : Client) :
    (r.set id c).get other = r.get other := find_put_ne h c r.entries

theorem mem_find {id : ClientId} (l : List (ClientId × Client))
    (h : (find id l).task.isIdle = false) : (id, find id l) ∈ l := by
  induction l with
  | nil => exact absurd h (by simp [find, Task.isIdle])
  | cons e rest ih =>
    obtain ⟨i, d⟩ := e
    by_cases hi : i = id
    · simp [find, hi]
    · rw [find, if_neg hi] at h ⊢
      exact List.mem_cons_of_mem _ (ih h)

theorem mem_busy {r : Roster} {id : ClientId} (h : (r.get id).task.isIdle = false) :
    id ∈ r.busy :=
  List.mem_map.2 ⟨(id, r.get id), List.mem_filter.2 ⟨mem_find r.entries h, by simp [h]⟩, rfl⟩

end Roster

/-! ## The whole -/

/-- The control state of a gate. -/
structure Control where
  setup : Setup
  /-- Who holds the transport. -/
  holder : Option Actor := none
  admission : Admission := {}
  spin : SpinLock := {}
  park : Park := {}
  /-- The requests not yet taken, oldest first. -/
  queue : List Message := []
  dispatcher : Dispatcher := .starting
  mode : Mode := .released
  clients : Roster := {}
  /-- Number of messages that the queue has accepted. -/
  issued : Nat := 0
  /-- Bytes of reads that their clients have not taken yet. -/
  replies : List (Ticket × List UInt8) := []
  /-- Whether a client has begun to drop the gate. -/
  dropped : Bool := false

namespace Control

/-- The state of a client. -/
def client (c : Control) (id : ClientId) : Client := c.clients.get id

/-- Puts a client at a place in its code. -/
def place (c : Control) (id : ClientId) (t : Task) : Control :=
  { c with clients := c.clients.set id { c.client id with task := t } }

/-- Ends a client's command with an answer. -/
def finish (c : Control) (id : ClientId) (a : Answer) : Control :=
  { c with clients := c.clients.set id { c.client id with task := .idle, answer := some a } }

/-- Whether the queue takes a message now. A queue of depth zero hands over to a dispatcher that
waits for a message. -/
def hasPlace (c : Control) : Bool :=
  if c.setup.queueDepth = 0 then
    match c.dispatcher with
    | .receiving => c.queue.isEmpty
    | _ => false
  else c.queue.length < c.setup.queueDepth

end Control

end FlashGate

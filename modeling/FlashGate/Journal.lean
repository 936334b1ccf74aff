/-
The journal: what every thread did to the device, in the order in which it happened. A bus is a
device together with its journal.
-/
import FlashGate.Log
import FlashGate.Request
import FlashGate.Transport

namespace FlashGate

/-- Something that happened. -/
inductive Event where
  /-- A transport call and its answer. -/
  | call (c : Call) (reply : Except Fault c.Reply)
  /-- A breach that the last call reported. -/
  | breach (b : Breach)
  /-- A log line. -/
  | log (line : Line)
  /-- The thread changed its own priority. -/
  | priority (p : Priority)
  /-- The queue took a message. -/
  | accepted (m : Message)
  /-- The dispatcher took a message off the queue. -/
  | taken (m : Message)
  /-- The dispatcher handed over the bytes of a read. -/
  | answered (ticket : Ticket) (bytes : List UInt8)
  /-- The client took the bytes of a read. -/
  | received (ticket : Ticket) (bytes : List UInt8)

namespace Event

/-- The log line that an event leaves: a breach is logged as a warning. -/
def line? : Event → Option Line
  | .log l => some l
  | .breach b => some (.warn ("dummy flash protocol violation: " ++ b.message))
  | _ => none

/-- The breach in an event. -/
def breach? : Event → Option Breach
  | .breach b => some b
  | _ => none

end Event

/-- An event and the thread that caused it. -/
structure Entry where
  actor : Actor
  event : Event

/-- A device and its journal, oldest entry first. -/
structure Bus (σ : Type) where
  device : σ
  journal : Array Entry := #[]

namespace Bus

variable {σ : Type}

/-- Adds events of one thread to the journal. -/
def record (b : Bus σ) (who : Actor) (events : List Event) : Bus σ :=
  match b with
  | ⟨device, journal⟩ => ⟨device, events.foldl (fun j e => j.push ⟨who, e⟩) journal⟩

/-- Adds one log line to the journal. -/
def log (b : Bus σ) (who : Actor) (line : Line) : Bus σ :=
  b.record who [.log line]

/-- Makes one call: the journal gets the call first and then the breaches it reported. -/
def call (T : Transport σ) (who : Actor) (c : Call) (b : Bus σ) : Except Fault c.Reply × Bus σ :=
  match b with
  | ⟨device, journal⟩ =>
    match T.perform device c with
    | ⟨reply, device, breaches⟩ =>
      (reply, record ⟨device, journal⟩ who (.call c reply :: breaches.map .breach))

@[simp] theorem call_reply (T : Transport σ) (who : Actor) (c : Call) (b : Bus σ) :
    (b.call T who c).1 = (T.perform b.device c).reply := rfl

@[simp] theorem call_device (T : Transport σ) (who : Actor) (c : Call) (b : Bus σ) :
    (b.call T who c).2.device = (T.perform b.device c).device := rfl

theorem toList_journal_record (b : Bus σ) (who : Actor) (events : List Event) :
    (b.record who events).journal.toList = b.journal.toList ++ events.map (⟨who, ·⟩) := by
  obtain ⟨device, journal⟩ := b
  simp only [record]
  induction events generalizing journal with
  | nil => simp
  | cons e events => simp [List.foldl_cons]

end Bus

end FlashGate

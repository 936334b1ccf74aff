/-
The stress run with a thread for each client, which is how it is meant: the workers share one gate
and go on in any order. The main thread waits for them one after the other, and drops the gate when
all of them have ended well. The run that takes the clients one after the other is one of these.
-/
import FlashGate.Simulator.Run

namespace FlashGate.Simulator

/-- The thread of a client. -/
structure Worker where
  /-- The orders that it has not turned to. -/
  todo : List Order
  /-- The order whose answer it waits for. -/
  current : Option Order := none
  /-- Number of answers that did not meet their orders. -/
  wrong : Nat := 0
  /-- The error that has ended it. -/
  error : Option GateError := none

namespace Worker

/-- The worker with the answer to its order. -/
def noted (w : Worker) (o : Order) (a : Answer) : Worker :=
  match o.judge a with
  | .ok met => { w with current := none, wrong := if met then w.wrong else w.wrong + 1 }
  | .error e => { w with current := none, error := some e }

/-- What the worker's thread has come to, if it has ended. -/
def result? (w : Worker) : Option (Except GateError Unit) :=
  match w.error with
  | some e => some (.error e)
  | none => if w.todo.isEmpty && w.current.isNone then some (.ok ()) else none

end Worker

/-- What the main thread learns from waiting for the workers one after the other. -/
def joined? : List Worker → Option (Except GateError Unit)
  | [] => some (.ok ())
  | w :: rest =>
    match w.result? with
    | some (.ok ()) => joined? rest
    | r => r

/-- The workers of a run, and the gate that they share. -/
structure Crew where
  gate : Gate Chip
  workers : List Worker

namespace Crew

/-- The workers with all their orders before them. -/
def start (gate : Gate Chip) (clients iterations perClient : Nat) : Crew where
  gate
  workers := (List.range clients).map fun client =>
    { todo := (List.range iterations).flatMap (Stress.round perClient client) }

/-- One step of the run: a move of a thread in the gate, an order or its answer in a worker, or the
main thread about to drop the gate. -/
inductive Step : Crew → Crew → Prop
  | move {crew : Crew} {who : Actor} {m : Move} (h : crew.gate.control.move? who = some m) :
    Step crew { crew with gate := Gate.perform Chip.transport .single who m crew.gate.bus }
  | order {crew : Crew} {i : Nat} {w : Worker} {o : Order} {rest : List Order} {c : Control}
    (worker : crew.workers[i]? = some w) (free : w.current = none) (well : w.error = none)
    (next : w.todo = o :: rest)
    (begins : crew.gate.control.begin? (Stress.thread i) o.command = some c) :
    Step crew { gate := { crew.gate with control := c }
                workers := crew.workers.set i { w with todo := rest, current := some o } }
  | note {crew : Crew} {i : Nat} {w : Worker} {o : Order} {a : Answer}
    (worker : crew.workers[i]? = some w) (waits : w.current = some o)
    (idle : (crew.gate.control.client (Stress.thread i)).task = .idle)
    (answer : (crew.gate.control.client (Stress.thread i)).answer = some a) :
    Step crew { crew with workers := crew.workers.set i (w.noted o a) }
  | drop {crew : Crew} {c : Control} (joined : joined? crew.workers = some (.ok ()))
    (begins : crew.gate.control.begin? 0 .drop = some c) :
    Step crew { crew with gate := { crew.gate with control := c } }

/-- The crews that a run reaches. -/
inductive Reach (crew₀ : Crew) : Crew → Prop
  | refl : Reach crew₀ crew₀
  | step {crew crew' : Crew} (h : Reach crew₀ crew) (step : Step crew crew') : Reach crew₀ crew'

/-- Number of answers so far that did not meet their orders. -/
def wrong (crew : Crew) : Nat := crew.workers.foldr (fun w n => w.wrong + n) 0

/-- Whether the gate has been dropped. -/
def isDropped (crew : Crew) : Bool :=
  crew.gate.control.dropped && (crew.gate.control.client 0).task.isIdle

/-- The outcome of a run of so many rounds that began with the given line, once it has one. -/
def outcome? (crew : Crew) (headline : String) (total : Nat) : Option Outcome :=
  let s : Simulation := { session := { gate := crew.gate }, printed := [headline] }
  match joined? crew.workers with
  | none => none
  | some (.error e) => some (Part.outcome (Part.fail (.gate e)) s)
  | some (.ok ()) =>
    if crew.isDropped then some (Part.outcome (Stress.report crew.wrong total) s) else none

end Crew

end FlashGate.Simulator

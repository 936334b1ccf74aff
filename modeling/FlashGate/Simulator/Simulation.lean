/-
A simulation: a session on a gate over an emulated chip, and what the run has printed so far. The
run stops at its first failure and keeps what it had printed.
-/
import FlashGate.Chip
import FlashGate.Gateway.Session
import FlashGate.Simulator.Failure

namespace FlashGate.Simulator

/-- What a run carries along. -/
structure Simulation where
  session : Session Chip
  /-- The printed lines, newest first. -/
  printed : List String := []

/-- A part of a run: the simulation after it, and the failure that stopped it. -/
abbrev Part (α : Type) := StateT Simulation (Except (Failure × Simulation)) α

namespace Part

/-- Prints a line. -/
def print (line : String) : Part Unit :=
  modify fun s => { s with printed := line :: s.printed }

/-- Stops the run. -/
def fail {α : Type} (f : Failure) : Part α := fun s => .error (f, s)

/-- Lets a client carry out a command and returns its answer. -/
def act (id : ClientId) (k : Command) : Part Answer := fun s =>
  match s with
  | ⟨session, printed⟩ =>
    let session := session.act Chip.transport id k
    let answer := (session.answer? id).getD .done
    .ok (answer, ⟨session, printed⟩)

/-- Lets a client carry out a command that has to succeed. -/
def demand (id : ClientId) (k : Command) : Part Unit := do
  match ← act id k with
  | .refused e _ => fail (.gate e)
  | _ => return ()

/-- Lets a client read and returns the bytes. -/
def fetch (id : ClientId) (k : Command) : Part (List UInt8) := do
  match ← act id k with
  | .bytes b => return b
  | .refused e _ => fail (.gate e)
  | _ => return []

/-- The geometry of the device. -/
def geometry : Part Geometry := return (← get).session.gate.control.setup.geometry

/-- Drops the gate. -/
def close : Part Unit := modify fun s => { s with session := s.session.close Chip.transport 0 }

/-- The calls that the chip keeps in its record. -/
def record : Part (List Call) := do
  return (← get).session.calls.filterMap fun e =>
    match e.event with
    | .call c _ => if Chip.keeps c then some c else none
    | _ => none

/-- The number of calls that came in while another one was in flight. -/
def overlaps : Part Nat := return Chip.overlaps (← record)

/-- Fails if the chip reported breaches or saw calls overlap. -/
def check : Part Unit := do
  let breaches := (← get).session.breaches.length
  if breaches ≠ 0 then fail (.violations breaches)
  let overlaps ← overlaps
  if overlaps ≠ 0 then fail (.overlaps overlaps)

end Part

end FlashGate.Simulator

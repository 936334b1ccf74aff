/-
The stress run: several clients erase, write and read back, each in its own range of sectors, so
every read-back has to match what its client wrote.
-/
import FlashGate.Simulator.Simulation

namespace FlashGate.Simulator

/-- Something for a client to do. -/
structure Order where
  command : Command
  /-- The bytes that have to come back, if any have to. -/
  wanted : Option (List UInt8) := none

namespace Order

/-- Whether the bytes that came back are the wanted ones. -/
def isMet (o : Order) (bytes : List UInt8) : Bool :=
  match o.wanted with
  | none => true
  | some wanted => bytes == wanted

/-- What an answer says about the order: whether it is met, or the error that ends the client. -/
def judge (o : Order) : Answer → Except GateError Bool
  | .refused e _ => .error e
  | .bytes bytes => .ok (o.isMet bytes)
  | _ => .ok (o.isMet [])

end Order

namespace Stress

/-- Number of bytes written in a round. -/
def patternLength : Nat := 600

/-- Where in its sector a write starts: in the middle of a page, so it spans pages. -/
def patternOffset : UInt32 := 0xF0

/-- The bytes that a client writes in a round. -/
def pattern (client round : Nat) : List UInt8 :=
  (List.range patternLength).map fun i =>
    UInt8.ofNat i ^^^ UInt8.ofNat client <<< 4 ^^^ UInt8.ofNat round

/-- The start of the sector that a client uses in a round. -/
def sectorStart (perClient client round : Nat) : UInt32 :=
  UInt32.ofNat (client * perClient + round % perClient) * sectorSize

/-- One round of a client: the read has to bring back what was written. -/
def round (perClient client n : Nat) : List Order :=
  let start := sectorStart perClient client n
  let bytes := pattern client n
  [{ command := .erase start sectorSize.toNat },
    { command := .write (start + patternOffset) bytes },
    { command := .read (start + patternOffset) (List.replicate patternLength 0)
      wanted := some bytes }]

/-- The thread of a client. The first one is number 1, since number 0 has opened the gate. -/
def thread (client : Nat) : ClientId := client + 1

/-- Lets a client carry out orders one after the other, and counts those that are not met. -/
def carryOut (id : ClientId) : List Order → Nat → Part Nat
  | [], wrong => return wrong
  | o :: rest, wrong => do
    match o.judge (← Part.act id o.command) with
    | .ok met => carryOut id rest (if met then wrong else wrong + 1)
    | .error e => Part.fail (.gate e)

/-- Counts the orders of the given rounds that are not met. -/
def mismatches (perClient : Nat) : List (Nat × Nat) → Nat → Part Nat
  | [], wrong => return wrong
  | (client, n) :: rest, wrong => do
    mismatches perClient rest (← carryOut (thread client) (round perClient client n) wrong)

/-- All rounds of all clients. -/
def rounds (clients iterations : Nat) : List (Nat × Nat) :=
  (List.range clients).flatMap fun client => (List.range iterations).map fun n => (client, n)

/-- The line that tells what is going to be done. -/
def headline (clients iterations perClient : Nat) : String :=
  s!"Stress: {clients} threads x {iterations} iterations, {perClient} sectors each"

/-- The line that tells what traffic there was. -/
def trafficLine (calls changes overlaps : Nat) : String :=
  s!"{calls} transport calls, {changes} reconfigurations, {overlaps} overlaps"

/-- The line that ends a run without failure. -/
def matchedLine (total : Nat) : String := s!"All {total} read-backs matched"

/-- Tells what traffic there was, and checks the run. -/
def report (wrong total : Nat) : Part Unit := do
  let calls ← Part.record
  let changes := calls.filter Call.isReconfiguration
  Part.print (trafficLine calls.length changes.length (← Part.overlaps))
  if wrong ≠ 0 then Part.fail (.mismatch wrong total)
  Part.check
  Part.print (matchedLine total)

/-- The stress run, one client after the other. -/
def run (clients iterations : Nat) : Part Unit := do
  let clients := max clients 1
  let sectors := (← Part.geometry).sectorCount.toNat
  let perClient := sectors / clients
  if perClient = 0 then Part.fail (.tooFewSectors clients sectors)
  Part.print (headline clients iterations perClient)
  let wrong ← mismatches perClient (rounds clients iterations) 0
  Part.close
  report wrong (clients * iterations)

end Stress

end FlashGate.Simulator

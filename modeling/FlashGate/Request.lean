/-
What travels on the request queue: jobs with the priority of their submitter, and the two
sentinels that end the dispatcher's service for a while or for good.
-/
import FlashGate.Operation

namespace FlashGate

/-- A client thread. -/
abbrev ClientId := Nat

/-- Number of an accepted message, counted from the first one. -/
abbrev Ticket := Nat

/-- A scheduling priority; a greater one is more urgent. -/
abbrev Priority := UInt32

/-- A queued operation. -/
structure Job where
  ticket : Ticket
  client : ClientId
  priority : Priority
  operation : Operation
  deriving DecidableEq, Repr

/-- A message on the request queue. -/
inductive Message where
  | job (j : Job)
  /-- Release the hardware and park, asked for by the client. -/
  | park (client : ClientId)
  /-- Release the hardware and stop. -/
  | stop
  deriving DecidableEq, Repr

/-- A thread that touches the flash. -/
inductive Actor where
  | dispatcher
  | client (id : ClientId)
  deriving DecidableEq, Repr

end FlashGate

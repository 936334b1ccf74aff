/-
A fixed schedule for a gate: one client goes first, then the dispatcher, then the clients at work
in the order in which they came. Under it a gate comes to rest: every thread is idle or waits for
another one. Each move takes at least one off the rank of the control state.
-/
import FlashGate.Gateway.Machine

namespace FlashGate

/-! ## Rank -/

/-- The moves that one message can cost the dispatcher. -/
def Message.weight : Nat := 6

/-- The moves that the dispatcher still makes with what it has taken. -/
def Dispatcher.rank : Dispatcher → Nat
  | .starting => 1
  | .receiving => 0
  | .claiming _ => 4
  | .serving .. => 3
  | .detaching _ => 2
  | .restoring _ => 1
  | .claimingRelease _ => 5
  | .releasing .. => 4
  | .detachingRelease _ => 3
  | .announcing => 2
  | .parked => 1
  | .unwinding => 1
  | .stopped => 0
  | .dead => 0
  | .aborted => 0

/-- The moves that a client still makes for its command, with those of the message that it is
still to send. -/
def Task.rank : Task → Nat
  | .idle => 0
  | .awaiting .. => 1
  | .leaving (.job ..) _ => 2
  | .sending (.job ..) => 3 + Message.weight
  | .admitting (.job ..) => 4 + Message.weight
  | .unadmitting _ => 1
  | .unspinning _ => 2
  | .detachingWindow => 3
  | .withdrawing => 3
  | .opening _ => 4
  | .claimingWindow => 5
  | .waitingParked => 6
  | .leaving .park _ => 7
  | .sending .park => 8 + Message.weight
  | .admitting .park => 9 + Message.weight
  | .requesting => 10 + Message.weight
  | .spinning .window _ => 11 + Message.weight
  | .locking .window => 12 + Message.weight
  | .spinning .hold _ => 1
  | .locking .hold => 2
  | .joining => 1
  | .stopping => 2 + Message.weight
  | .detachingClose .. => 3 + Message.weight
  | .resuming _ => 4 + Message.weight
  | .shutting .. => 5 + Message.weight
  | .checkingClose _ => 6 + Message.weight
  | .claimingClose _ => 7 + Message.weight
  | .checkingOwner => 8 + Message.weight
  | .inspecting => 8 + Message.weight
  | .bypassUnspinning _ => 1
  | .bypassDetaching _ => 2
  | .bypassReading .. => 3
  | .bypassRechecking _ => 4
  | .bypassClaiming _ => 5
  | .bypassSpinning _ => 6
  | .bypassChecking _ => 7
  | .tryingSpin => 1
  | .releasingSpin => 1

/-- The moves that the clients of a list can still make. -/
def Roster.rank : List (ClientId × Client) → Nat
  | [] => 0
  | (_, d) :: rest => d.task.rank + rank rest

namespace Control

/-- The moves that all threads can still make before each of them is idle or waits. -/
def rank (c : Control) : Nat :=
  c.dispatcher.rank + Message.weight * c.queue.length +
    Roster.rank c.clients.entries

/-- The first of the threads that can move, and its move. -/
def firstMove? (c : Control) : List Actor → Option (Actor × Move)
  | [] => none
  | who :: rest =>
    match c.move? who with
    | some m => some (who, m)
    | none => c.firstMove? rest

/-- The threads in the order of the schedule. -/
def order (c : Control) (first : ClientId) : List Actor :=
  .client first :: .dispatcher :: c.clients.busy.map .client

end Control

namespace Gate

variable {σ : Type}

/-- Lets the threads move, at most so many times. -/
def moves (T : Transport σ) (first : ClientId) : Nat → Control → Bus σ → Gate σ
  | 0, c, b => ⟨c, b⟩
  | n + 1, c, b =>
    match c.firstMove? (c.order first) with
    | none => ⟨c, b⟩
    | some (who, m) =>
      match perform T .whole who m b with
      | ⟨c, b⟩ => moves T first n c b

/-- Lets the threads move until the client has its answer, at most so many times. -/
def movesFor (T : Transport σ) (id : ClientId) : Nat → Control → Bus σ → Gate σ
  | 0, c, b => ⟨c, b⟩
  | n + 1, c, b =>
    match (c.client id).task with
    | .idle => ⟨c, b⟩
    | _ =>
      match c.firstMove? (c.order id) with
      | none => ⟨c, b⟩
      | some (who, m) =>
        match perform T .whole who m b with
        | ⟨c, b⟩ => movesFor T id n c b

/-- Lets the threads move until the client has its answer, or until each of them is idle or waits;
the others move only where the client waits. -/
def attend (T : Transport σ) (id : ClientId) (g : Gate σ) : Gate σ :=
  match g with
  | ⟨c, b⟩ => movesFor T id c.rank c b

/-- Lets the threads move until each of them is idle or waits. -/
def rest (T : Transport σ) (first : ClientId) (g : Gate σ) : Gate σ :=
  match g with
  | ⟨c, b⟩ => moves T first c.rank c b

end Gate

end FlashGate

/-
The moves of a gate: what the dispatcher and each client do next. A move takes one lock, makes one
state check or queue operation, or gives a turn to a script on the device. A thread that cannot
move is blocked, or has nothing to do.
-/
import FlashGate.Gateway.Control

namespace FlashGate

/-- What a thread does next. -/
inductive Move where
  /-- Changes the control state only. -/
  | quiet (next : Control) (events : List Event)
  /-- Gives a turn to a script and goes on from where it then is. -/
  | drive (script : Script (List UInt8))
      (resume : Script.Progress (List UInt8) → Control × List Event)

namespace Control

/-! ## Scripts -/

/-- A buffer as a queued read starts with. -/
def zeros (length : Nat) : List UInt8 := List.replicate length 0

/-- Runs an operation on hardware that is set up for it. A read hands back its bytes. -/
def perform (s : Setup) : Operation → Script (List UInt8)
  | .read address length =>
    Transfer.read s.geometry s.commands s.readChunk address (zeros length)
  | .fastRead submode address length => do
    Script.ask (.fastReadSetMode submode)
    Transfer.fastRead s.geometry s.readChunk address (zeros length) none
  | .write address data => do
    let _ ← Transfer.write s.geometry s.commands address data
    return []
  | .erase address length => do
    let _ ← Transfer.erase s.geometry s.commands address length
    return []

/-- Sets the hardware up for an operation and runs it. Without a transport nothing can be served,
so a connect that fails for good ends the process. -/
def serve (s : Setup) (m : Mode) (o : Operation) : Script (List UInt8) := do
  match ← Transfer.reconfigure (m.stepsTo o.kind) s.retry with
  | .error e =>
    Script.log (.error ("Unable to reconnect to flash: " ++ e.message))
    .fault .flashLost
  | .ok () => perform s o

/-- Releases the hardware of a mode. -/
def release (s : Setup) (m : Mode) : Script (List UInt8) := do
  match ← Transfer.reconfigure m.release s.retry with
  | .error e =>
    Script.log (.error ("Failed to release flash transport: " ++ e.message))
    return []
  | .ok () => return []

/-- Sets the fast-read hardware up for a low-level window. -/
def openWindow : Script (List UInt8) := do
  Script.ask .fastReadSetup
  Script.ask .fastReadApplyCalibration
  Script.log (.debug "Low-level flash window open")
  return []

/-- Releases the fast-read hardware of a low-level window. -/
def shutWindow : Script (List UInt8) := do
  Script.ask .fastReadShutdown
  return []

/-! ## The dispatcher -/

/-- The control state after a fault of the dispatcher: a lost flash ends the process, any other
fault the dispatcher alone. -/
def dispatcherFault (c : Control) : Fault → Control
  | .flashLost => { c with dispatcher := .aborted }
  | _ => { c with dispatcher := .unwinding, holder := none }

/-- The control state when a job has handed back its bytes, and what is told about it. -/
def served (c : Control) (j : Job) (bytes : List UInt8) : Control × List Event :=
  if j.operation.isRead then
    ({ c with dispatcher := .detaching j, replies := c.replies ++ [(j.ticket, bytes)] },
      [.answered j.ticket bytes])
  else ({ c with dispatcher := .detaching j }, [])

/-- Takes a message off the queue. -/
def take (c : Control) (m : Message) (rest : List Message) : Move :=
  match m with
  | .job j =>
    .quiet { c with queue := rest, dispatcher := .claiming j } [.taken m, .priority j.priority]
  | .park _ =>
    .quiet { c with queue := rest, dispatcher := .claimingRelease .park }
      [.taken m, .log (.debug "Dispatcher parking for low-level access")]
  | .stop => .quiet { c with queue := rest, dispatcher := .claimingRelease .stop } [.taken m]

/-- The next move of the dispatcher. -/
def dispatcherMove? (c : Control) : Option Move :=
  match c.dispatcher with
  | .starting =>
    some (.quiet { c with dispatcher := .receiving }
      [.priority c.setup.baseline, .log (.debug "Flash dispatcher started")])
  | .receiving =>
    match c.queue with
    | [] => none
    | m :: rest => some (c.take m rest)
  | .claiming j =>
    match c.holder with
    | some _ => none
    | none =>
      some (.quiet { c with
        holder := some .dispatcher
        dispatcher := .serving j (serve c.setup c.mode j.operation) } [])
  | .serving j script =>
    some (.drive script fun
      | .unfinished rest => ({ c with dispatcher := .serving j rest }, [])
      | .finished (.ok bytes) => c.served j bytes
      | .finished (.error f) => (c.dispatcherFault f, []))
  | .detaching j => some (.quiet { c with holder := none, dispatcher := .restoring j } [])
  | .restoring j =>
    some (.quiet { c with mode := .serving j.operation.kind, dispatcher := .receiving }
      [.priority c.setup.baseline])
  | .claimingRelease l =>
    match c.holder with
    | some _ => none
    | none =>
      some (.quiet { c with
        holder := some .dispatcher
        dispatcher := .releasing l (release c.setup c.mode) } [])
  | .releasing l script =>
    some (.drive script fun
      | .unfinished rest => ({ c with dispatcher := .releasing l rest }, [])
      | .finished (.ok _) => ({ c with mode := .released, dispatcher := .detachingRelease l }, [])
      | .finished (.error f) => (c.dispatcherFault f, []))
  | .detachingRelease .park => some (.quiet { c with holder := none, dispatcher := .announcing } [])
  | .detachingRelease .stop =>
    some (.quiet { c with holder := none, dispatcher := .stopped }
      [.log (.debug "Flash dispatcher stopped")])
  | .announcing =>
    some (.quiet { c with park := { c.park with state := .parked }, dispatcher := .parked } [])
  | .parked =>
    if c.park.state = .parked then none
    else some (.quiet { c with dispatcher := .receiving } [.log (.debug "Dispatcher resumed")])
  | .unwinding => some (.quiet { c with queue := [], dispatcher := .dead } [])
  | .stopped => none
  | .dead => none
  | .aborted => none

/-! ## Clients -/

/-- Adds a message to the queue. -/
def push (c : Control) (m : Message) : Control :=
  { c with queue := c.queue ++ [m], issued := c.issued + 1 }

/-- The bytes of a reply, if they have come. -/
def reply? (c : Control) (t : Ticket) : Option (List UInt8) :=
  (c.replies.find? fun r => r.1 == t).map (·.2)

/-- The message of a submission, under the next ticket and at the client's priority. -/
def message (c : Control) (id : ClientId) : Submission → Message
  | .job o _ => .job ⟨c.issued, id, (c.client id).priority, o⟩
  | .park => .park id

/-- Where a client goes when it has left admission after a submission. -/
def afterSubmission (c : Control) (id : ClientId) : Submission → Option Ticket → Control
  | .job o buffer, some t => if o.isRead then c.place id (.awaiting t buffer) else c.finish id .done
  | .job _ buffer, none => c.finish id (.refused .disconnected buffer)
  | .park, some _ => c.place id .waitingParked
  | .park, none => c.place id .withdrawing

/-- The control state with one more hold on the flash for the client. -/
def held (c : Control) (id : ClientId) (spin : SpinLock) (p : Purpose) : Control :=
  let client := c.client id
  let n := client.holds + 1
  let c := { c with spin, clients := c.clients.set id { client with holds := n } }
  match p with
  | .hold => c.finish id (.holds n)
  | .window => c.place id .requesting

/-- Takes the transport for a client and puts it at a place. -/
def claim? (c : Control) (id : ClientId) (t : Task) : Option Move :=
  match c.holder with
  | some _ => none
  | none => some (.quiet ({ c with holder := some (.client id) }.place id t) [])

/-- The next move of a submission. -/
def submissionMove? (c : Control) (id : ClientId) : Task → Option Move
  | .admitting s =>
    (c.admission.enter? id).map fun a => .quiet ({ c with admission := a }.place id (.sending s)) []
  | .sending s =>
    if c.dispatcher.isOver then some (.quiet (c.place id (.leaving s none)) [])
    else if c.hasPlace then
      let m := c.message id s
      some (.quiet ((c.push m).place id (.leaving s (some c.issued))) [.accepted m])
    else none
  | .leaving s t =>
    some (.quiet ({ c with admission := c.admission.leave }.afterSubmission id s t) [])
  | .awaiting t buffer =>
    match c.reply? t with
    | some bytes =>
      let c := { c with replies := c.replies.filter fun r => r.1 != t }
      some (.quiet (c.finish id (.bytes bytes)) [.received t bytes])
    | none =>
      if c.dispatcher.isOver then some (.quiet (c.finish id (.refused .disconnected buffer)) [])
      else none
  | _ => none

/-- The next move of taking or giving up the flash, and of opening a low-level window. -/
def lockMove? (c : Control) (id : ClientId) : Task → Option Move
  | .locking p =>
    (c.admission.enter? id).map fun a =>
      .quiet ({ c with admission := a }.place id (.spinning p (c.admission.owner == some id))) []
  | .spinning p true => some (.quiet (c.held id c.spin.relock p) [])
  | .spinning p false => c.spin.tryLock?.map fun l => .quiet (c.held id l p) []
  | .requesting =>
    if c.park.state = .running then
      some (.quiet ({ c with park := ⟨.requested, some id⟩ }.place id (.admitting .park)) [])
    else some (.quiet (c.place id (.unspinning (.refused .alreadyParked []))) [])
  | .withdrawing =>
    let park := if c.park.state = .requested then {} else c.park
    some (.quiet ({ c with park }.place id (.unspinning (.refused .disconnected []))) [])
  | .waitingParked =>
    if c.park.state = .requested then none else some (.quiet (c.place id .claimingWindow) [])
  | .claimingWindow => c.claim? id (.opening openWindow)
  | .opening script =>
    some (.drive script fun
      | .unfinished rest => (c.place id (.opening rest), [])
      | .finished (.ok _) => (c.place id .detachingWindow, [])
      | .finished (.error f) => ({ c with holder := none }.place id (.unspinning (.faulted f)), []))
  | .detachingWindow => some (.quiet ({ c with holder := none }.place id (.unspinning .done)) [])
  | .unspinning a =>
    let client := c.client id
    let clients := c.clients.set id { client with holds := client.holds - 1 }
    some (.quiet ({ c with spin := c.spin.release, clients }.place id (.unadmitting a)) [])
  | .unadmitting a => some (.quiet ({ c with admission := c.admission.leave }.finish id a) [])
  | _ => none

/-- Where a client goes when it has closed a window or failed to, and what is told about it. -/
def afterClose (c : Control) (id : ClientId) : Closing → Option GateError → Control × List Event
  | .shutdown, none => (c.finish id .done, [])
  | .shutdown, some e => (c.finish id (.refused e []), [])
  | .drop, none => (c.place id .stopping, [])
  | .drop, some e =>
    (c.place id .stopping, [.log (.error ("Failed to close low-level window: " ++ e.message))])

/-- The next move of closing a low-level window. -/
def closeMove? (c : Control) (id : ClientId) : Task → Option Move
  | .checkingOwner =>
    if c.park.owner = some id then some (.quiet (c.place id (.claimingClose .shutdown)) [])
    else some (.quiet (c.finish id (.refused .notParked [])) [])
  | .claimingClose w => c.claim? id (.checkingClose w)
  | .checkingClose w =>
    if c.park.state = .parked then some (.quiet (c.place id (.shutting w shutWindow)) [])
    else some (.quiet (c.place id (.detachingClose w (some .notParked))) [])
  | .shutting w script =>
    some (.drive script fun
      | .unfinished rest => (c.place id (.shutting w rest), [])
      | .finished (.ok _) => (c.place id (.resuming w), [])
      | .finished (.error f) => ({ c with holder := none }.finish id (.faulted f), []))
  | .resuming w =>
    if c.park.state = .parked then
      some (.quiet ({ c with park := {} }.place id (.detachingClose w none))
        [.log (.debug "Low-level flash window closed")])
    else some (.quiet (c.place id (.detachingClose w (some .notParked))) [])
  | .detachingClose w e =>
    let (next, events) := { c with holder := none }.afterClose id w e
    some (.quiet next events)
  | _ => none

/-- The next move of a read past the queue. It never waits: a lock that is taken refuses it. -/
def bypassMove? (c : Control) (id : ClientId) : Task → Option Move
  | .bypassChecking r =>
    let line := Transfer.asked "ll read" r.buffer.length r.address
    if c.park.state = .parked then some (.quiet (c.place id (.bypassSpinning r)) [.log line])
    else some (.quiet (c.finish id (.refused .notParked r.buffer)) [.log line])
  | .bypassSpinning r =>
    match c.spin.tryLock? with
    | some l => some (.quiet ({ c with spin := l }.place id (.bypassClaiming r)) [])
    | none => some (.quiet (c.finish id (.refused .lockUnavailable r.buffer)) [])
  | .bypassClaiming r =>
    match c.holder with
    | some _ =>
      some (.quiet (c.place id (.bypassUnspinning (.refused .lockUnavailable r.buffer))) [])
    | none =>
      some (.quiet ({ c with holder := some (.client id) }.place id (.bypassRechecking r)) [])
  | .bypassRechecking r =>
    if c.park.state = .parked then
      let script := Transfer.fastRead c.setup.geometry c.setup.readChunk r.address r.buffer
        (some r.submode)
      some (.quiet (c.place id (.bypassReading r script)) [])
    else some (.quiet (c.place id (.bypassDetaching (.refused .notParked r.buffer))) [])
  | .bypassReading r script =>
    some (.drive script fun
      | .unfinished rest => (c.place id (.bypassReading r rest), [])
      | .finished (.ok bytes) => (c.place id (.bypassDetaching (.bytes bytes)), [])
      | .finished (.error f) => (c.place id (.bypassDetaching (.faulted f)), []))
  | .bypassDetaching a =>
    some (.quiet ({ c with holder := none }.place id (.bypassUnspinning a)) [])
  | .bypassUnspinning a => some (.quiet ({ c with spin := c.spin.release }.finish id a) [])
  | _ => none

/-- The next move of taking or giving up the spin lock from outside the gate. -/
def outsideMove? (c : Control) (id : ClientId) : Task → Option Move
  | .tryingSpin =>
    match c.spin.tryLock? with
    | some l =>
      let client := c.client id
      let clients := c.clients.set id { client with outside := client.outside + 1 }
      some (.quiet ({ c with spin := l, clients }.finish id (.flag true)) [])
    | none => some (.quiet (c.finish id (.flag false)) [])
  | .releasingSpin =>
    let client := c.client id
    if client.outside = 0 then some (.quiet (c.finish id (.flag false)) [])
    else
      let clients := c.clients.set id { client with outside := client.outside - 1 }
      some (.quiet ({ c with spin := c.spin.release, clients }.finish id (.flag true)) [])
  | _ => none

/-- The next move of dropping the gate. -/
def dropMove? (c : Control) (id : ClientId) : Task → Option Move
  | .inspecting =>
    if c.park.state = .parked then
      some (.quiet (c.place id (.claimingClose .drop))
        [.log (.warn "Dropping flash handle with low-level window open")])
    else some (.quiet (c.place id .stopping) [])
  | .stopping =>
    if c.dispatcher.isOver then
      some (.quiet (c.place id .joining) [.log (.debug "Dispatcher already stopped")])
    else if c.hasPlace then
      some (.quiet ((c.push .stop).place id .joining) [.accepted .stop])
    else none
  | .joining =>
    match c.dispatcher with
    | .stopped => some (.quiet (c.finish id .done) [])
    | .dead =>
      some (.quiet (c.finish id .done) [.log (.error "Flash dispatcher thread panicked")])
    | _ => none
  | _ => none

/-- The next move of a client. -/
def clientMove? (c : Control) (id : ClientId) : Option Move :=
  match (c.client id).task with
  | .idle => none
  | .admitting s => c.submissionMove? id (.admitting s)
  | .sending s => c.submissionMove? id (.sending s)
  | .leaving s t => c.submissionMove? id (.leaving s t)
  | .awaiting t buffer => c.submissionMove? id (.awaiting t buffer)
  | .checkingOwner => c.closeMove? id .checkingOwner
  | .claimingClose w => c.closeMove? id (.claimingClose w)
  | .checkingClose w => c.closeMove? id (.checkingClose w)
  | .shutting w script => c.closeMove? id (.shutting w script)
  | .resuming w => c.closeMove? id (.resuming w)
  | .detachingClose w e => c.closeMove? id (.detachingClose w e)
  | .bypassChecking r => c.bypassMove? id (.bypassChecking r)
  | .bypassSpinning r => c.bypassMove? id (.bypassSpinning r)
  | .bypassClaiming r => c.bypassMove? id (.bypassClaiming r)
  | .bypassRechecking r => c.bypassMove? id (.bypassRechecking r)
  | .bypassReading r script => c.bypassMove? id (.bypassReading r script)
  | .bypassDetaching a => c.bypassMove? id (.bypassDetaching a)
  | .bypassUnspinning a => c.bypassMove? id (.bypassUnspinning a)
  | .tryingSpin => c.outsideMove? id .tryingSpin
  | .releasingSpin => c.outsideMove? id .releasingSpin
  | .inspecting => c.dropMove? id .inspecting
  | .stopping => c.dropMove? id .stopping
  | .joining => c.dropMove? id .joining
  | t => c.lockMove? id t

/-- The next move of a thread. Nothing moves after the process has ended. -/
def move? (c : Control) (who : Actor) : Option Move :=
  match c.dispatcher, who with
  | .aborted, _ => none
  | _, .dispatcher => c.dispatcherMove?
  | _, .client id => c.clientMove? id

/-! ## Commands -/

/-- Whether the gate may be dropped by the client: no other client is at work, and nobody holds
the flash. -/
def isQuiet (c : Control) (id : ClientId) : Bool :=
  c.clients.entries.all fun (i, client) =>
    client.holds == 0 && (i == id || match client.task with | .idle => true | _ => false)

/-- The control state after an idle client has turned to a command. -/
def begin (c : Control) (id : ClientId) : Command → Control
  | .read address buffer =>
    let o := Operation.ofReadKind address buffer.length c.setup.strategy.readKind
    c.place id (.admitting (.job o buffer))
  | .readMode address buffer submode =>
    let o := Operation.ofReadKind address buffer.length (c.setup.strategy.readKindFor submode)
    c.place id (.admitting (.job o buffer))
  | .write address data => c.place id (.admitting (.job (.write address data) []))
  | .erase address length => c.place id (.admitting (.job (.erase address length) []))
  | .openWindow =>
    match c.setup.strategy with
    | .standard => c.finish id (.refused (.core .calibrationFailed) [])
    | .fast _ => c.place id (.locking .window)
  | .closeWindow => c.place id .checkingOwner
  | .bypassRead address buffer =>
    let submode := c.setup.strategy.submode?.getD .raw
    c.place id (.bypassChecking ⟨address, buffer, submode⟩)
  | .bypassReadMode address buffer submode =>
    c.place id (.bypassChecking ⟨address, buffer, submode⟩)
  | .lock => c.place id (.locking .hold)
  | .unlock index =>
    let n := (c.client id).holds
    if index.getD (n - 1) < n then c.place id (.unspinning (.holds (n - 1)))
    else c.finish id (.holds n)
  | .trySpin => c.place id .tryingSpin
  | .releaseSpin => c.place id .releasingSpin
  | .setPriority p =>
    { c with clients := c.clients.set id { c.client id with priority := p } }.finish id .done
  | .drop => { c with dropped := true }.place id .inspecting

/-- Whether the client may turn to the command: it is idle, nobody drops the gate or has dropped
it, and a drop finds nobody else at work. -/
def mayBegin (c : Control) (id : ClientId) (k : Command) : Bool :=
  match (c.client id).task, k with
  | .idle, .drop => !c.dropped && c.isQuiet id
  | .idle, _ => !c.dropped
  | _, _ => false

/-- Turns a client to a command, if it may. The answer to its last command is forgotten. -/
def begin? (c : Control) (id : ClientId) (k : Command) : Option Control :=
  if c.mayBegin id k then
    let clients := c.clients.set id { c.client id with answer := none }
    some ({ c with clients }.begin id k)
  else none

end Control

end FlashGate

/-
The gate as a machine: a device with its journal, and the control state of the threads that share
it. A step is one move of one thread, or a client that turns to a new command. The runs of a gate
are all sequences of such steps, whichever thread moves next.
-/
import FlashGate.Gateway.BringUp
import FlashGate.Gateway.Move

namespace FlashGate

/-- A gate over devices `σ`. -/
structure Gate (σ : Type) where
  control : Control
  bus : Bus σ

namespace Gate

variable {σ : Type}

/-- The name of the dispatcher's thread. -/
def dispatcherName : String := "qspi_flash_op"

/-- Carries out a move of a thread; a script gets one turn at the given pace. -/
def perform (T : Transport σ) (pace : Script.Pace) (who : Actor) (m : Move) (b : Bus σ) : Gate σ :=
  match m with
  | .quiet next events => ⟨next, b.record who events⟩
  | .drive script resume =>
    match script.advance T pace who b with
    | (progress, b) =>
      match resume progress with
      | (next, events) => ⟨next, b.record who events⟩

/-- A gate over a device that is brought up by the given client, or the error of bring-up; in both
cases the device and its journal after it. -/
def start (T : Transport σ) (config : Config) (id : ClientId) (b : Bus σ) :
    Except Fault (Except DeviceError Control) × Bus σ :=
  match (BringUp.script config).run T (.client id) b with
  | (.error f, b) => (.error f, b)
  | (.ok (.error e), b) => (.ok (.error e), b)
  | (.ok (.ok (geometry, strategy)), b) =>
    let setup : Setup := {
      geometry, strategy
      commands := T.commandSet b.device
      queueDepth := config.queueDepth
      readChunk := max config.readChunk 1
      retry := config.retry
      baseline := config.priority }
    (.ok (.ok { setup }), b.log (.client id) (BringUp.readyLine geometry strategy))

/-- One step: a move of a thread, one call at a time, or the begin of a command. -/
inductive Step (T : Transport σ) : Gate σ → Gate σ → Prop
  | move {g : Gate σ} {who : Actor} {m : Move} (h : g.control.move? who = some m) :
    Step T g (perform T .single who m g.bus)
  | begin {g : Gate σ} {id : ClientId} {k : Command} {c : Control}
    (h : g.control.begin? id k = some c) : Step T g { g with control := c }

end Gate

end FlashGate

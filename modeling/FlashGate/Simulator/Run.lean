/-
Runs of the simulator, from the words of the command line to what is printed. Every run opens a
fresh gate over an emulated chip.
-/
import FlashGate.Simulator.Arguments
import FlashGate.Simulator.Dump
import FlashGate.Simulator.Stress
import FlashGate.Simulator.Window

namespace FlashGate.Simulator

/-- The outcome of a run. -/
inductive Outcome where
  /-- The command line cannot be used; the reason, if it is a value that cannot be read. -/
  | usage (valueError : Option String)
  | finished (out : String)
  | failed (out err : String)
  deriving DecidableEq, Repr

/-- Name and version of the simulator. -/
def versionText : String := "qflasher 0.1.0"

/-- A summary of the command line. -/
def helpText : String :=
  "Usage: qflasher [--params <PARAMS>] [--size <SIZE>] <stress|lowlevel|dump> [ARGUMENTS]"

/-- Lines, each with its end. -/
def joinLines (lines : List String) : String := String.join (lines.map (· ++ "\n"))

/-- The part that carries out a subcommand. -/
def Subcommand.part : Subcommand → Part Unit
  | .stress clients iterations => Stress.run clients iterations
  | .lowlevel address length => Window.run address length
  | .dump address length => Dump.run address length

/-- The configuration of a subcommand: the low-level run needs fast reads, raw ones unless others
are configured. -/
def Subcommand.adjust (config : Config) : Subcommand → Config
  | .lowlevel .. => { config with fastRead := some (config.fastRead.getD ⟨.raw, 0⟩) }
  | _ => config

/-- The outcome of a failed run. -/
def failed (printed : List String) (f : Failure) : Outcome :=
  .failed (joinLines printed.reverse) ("Error: " ++ f.report)

/-- The outcome of a part that a run begins with. -/
def Part.outcome (p : Part Unit) (s : Simulation) : Outcome :=
  match p.run s with
  | .ok ((), s) => .finished (joinLines s.printed.reverse)
  | .error (f, s) => failed s.printed f

/-- Opens a gate over a chip of the invocation's size and runs the subcommand on it. -/
def Invocation.outcome (i : Invocation) : Outcome :=
  match (Config.ofText i.params).1 with
  | .error e => failed [] (.gate (.invalidParameter e))
  | .ok config =>
    let chip := Chip.make { size := i.size } []
    match Gate.start Chip.transport (i.subcommand.adjust config) 0 { device := chip } with
    | (.error _, _) => .failed "" ""
    | (.ok (.error e), _) => failed [] (.gate (.core e))
    | (.ok (.ok control), bus) =>
      i.subcommand.part.outcome { session := Session.ofControl Chip.transport 0 false control bus }

/-- Runs the simulator on the words of a command line. -/
def run (words : List String) : Outcome :=
  match Request.ofWords words with
  | .error (.value reason) => .usage (some reason)
  | .error .form => .usage none
  | .ok .version => .finished (joinLines [versionText])
  | .ok .help => .finished (joinLines [helpText])
  | .ok (.run i) => i.outcome

end FlashGate.Simulator

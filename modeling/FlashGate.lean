import FlashGate.Gateway.Rest
import FlashGate.Main
import FlashGate.PatternDevice
import FlashGate.Proofs.World
import FlashGate.Proofs.Gateway.Turn
import FlashGate.Proofs.Gateway.Reach
import FlashGate.Proofs.Gateway.Duty
import FlashGate.Proofs.Gateway.Locks
import FlashGate.Proofs.Gateway.Handshake
import FlashGate.Proofs.Gateway.Window
import FlashGate.Proofs.Gateway.Contract
import FlashGate.Proofs.Device.Plan
import FlashGate.Proofs.Device.Extent
import FlashGate.Proofs.Transfer
import FlashGate.Proofs.Device.Calm
import FlashGate.Proofs.Device.Transfer
import FlashGate.Proofs.Device.Flat
import FlashGate.Proofs.Gateway.Emulated
import FlashGate.Proofs.Device.BringUp
import FlashGate.Proofs.Conformance
import FlashGate.Proofs.Refinement
import FlashGate.Proofs.Gateway.Trace
import FlashGate.Proofs.Gateway.Refusal
import FlashGate.Proofs.Exclusion
import FlashGate.Proofs.Gateway.Ledger
import FlashGate.Proofs.Device.Alike
import FlashGate.Proofs.Gateway.Solo
import FlashGate.Proofs.Gateway.Length
import FlashGate.Proofs.Linearization
import FlashGate.Proofs.Gateway.Hold
import FlashGate.Proofs.Holding
import FlashGate.Proofs.Gateway.Park
import FlashGate.Proofs.Parking
import FlashGate.Proofs.Gateway.Change
import FlashGate.Proofs.Reconfiguration
import FlashGate.Proofs.Device.Confined
import FlashGate.Proofs.Gateway.Inbox
import FlashGate.Proofs.Separation
import FlashGate.Proofs.Bounds
import FlashGate.Proofs.Gateway.Halting
import FlashGate.Proofs.Gateway.Dropping
import FlashGate.Proofs.Teardown
import FlashGate.Proofs.Faults
import FlashGate.Proofs.Gateway.Overrun
import FlashGate.Proofs.Stranding
import FlashGate.Proofs.Gateway.Faultless
import FlashGate.Proofs.Gateway.Errand
import FlashGate.Proofs.Rounds
import FlashGate.Simulator.Crew
import FlashGate.Proofs.Crew
import FlashGate.Proofs.Sequence
import FlashGate.Proofs.Stress
import FlashGate.Proofs.Inheritance
import FlashGate.Proofs.Gateway.Watch
import FlashGate.Proofs.Waiting
import FlashGate.Proofs.Device.Latch
import FlashGate.Proofs.Device.Hygiene
import FlashGate.Proofs.Hygiene
import FlashGate.Proofs.Gateway.Course
import FlashGate.Proofs.Rollback
import FlashGate.Proofs.Device.Fetch
import FlashGate.Proofs.Gateway.Reading
import FlashGate.Proofs.Bypass
import FlashGate.Proofs.Device.Storage
import FlashGate.Proofs.Transcript
import FlashGate.Proofs.Polling
import FlashGate.Proofs.Erasure
import FlashGate.Proofs.Programming
import FlashGate.Proofs.Chunking
import FlashGate.Proofs.Masking
import FlashGate.Proofs.Connecting
import FlashGate.Proofs.Parameters
import FlashGate.Proofs.Accumulation
import FlashGate.Proofs.BringUp
import FlashGate.Proofs.Device.Sector
import FlashGate.Proofs.Rendering
import FlashGate.Proofs.Boundaries

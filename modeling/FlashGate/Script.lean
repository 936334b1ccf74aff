/-
Scripts: sequences of transport calls that go on according to the answers. A script is written
once for every transport. It can be run to its end on one device, or call by call between the
steps of other threads; both ways make the same calls.
-/
import FlashGate.Journal

namespace FlashGate

/-- A sequence of transport calls that ends with a value or in a fault. -/
inductive Script (α : Type) : Type where
  | done (value : α)
  | fault (f : Fault)
  /-- Writes a log line. -/
  | note (line : Line) (rest : Script α)
  /-- Makes a call and goes on with its answer. -/
  | call (c : Call) (rest : c.Reply → Script α)
  /-- Polls the device until it is no longer busy, each poll with interrupts masked. -/
  | untilReady (rest : Script α)

namespace Script

variable {α β σ : Type}

/-- Goes on after the end of a script. -/
def bind : Script α → (α → Script β) → Script β
  | .done a, f => f a
  | .fault e, _ => .fault e
  | .note l rest, f => .note l (rest.bind f)
  | .call c rest, f => .call c fun r => (rest r).bind f
  | .untilReady rest, f => .untilReady (rest.bind f)

instance : Monad Script where
  pure := .done
  bind := .bind

/-- Writes a log line. -/
def log (line : Line) : Script Unit := .note line (.done ())

/-- Makes one call. -/
def ask (c : Call) : Script c.Reply := .call c .done

/-- Makes one call with interrupts masked around it. -/
def masked (c : Call) : Script c.Reply := do
  let token ← ask .maskInterrupts
  let reply ← ask c
  ask (.restoreInterrupts token)
  return reply

/-- Waits until the device is no longer busy. -/
def waitReady : Script Unit := .untilReady (.done ())

/-- Does something for each element, in order. -/
def each (f : β → Script Unit) : List β → Script Unit
  | [] => .done ()
  | x :: xs => do
    f x
    each f xs

/-! ## Running to the end -/

/-- Polls until the device is no longer busy. -/
def settle (T : Transport σ) (who : Actor) (b : Bus σ) : Except Fault Unit × Bus σ :=
  match _h₁ : b.call T who .maskInterrupts with
  | (.error f, b₁) => (.error f, b₁)
  | (.ok token, b₁) =>
    match _h₂ : b₁.call T who .isBusy with
    | (.error f, b₂) => (.error f, b₂)
    | (.ok busy, b₂) =>
      match _h₃ : b₂.call T who (.restoreInterrupts token) with
      | (.error f, b₃) => (.error f, b₃)
      | (.ok _, b₃) => if _h₄ : (show Bool from busy) = true then settle T who b₃ else (.ok (), b₃)
termination_by T.pending b.device
decreasing_by
  have d₁ : b₁.device = (T.perform b.device .maskInterrupts).device := by
    rw [← Bus.call_device T who, _h₁]
  have r₂ : (T.perform b₁.device .isBusy).reply = .ok true := by
    rw [← Bus.call_reply T who, _h₂]; exact congrArg Except.ok _h₄
  have d₂ : b₂.device = (T.perform b₁.device .isBusy).device := by
    rw [← Bus.call_device T who, _h₂]
  have d₃ : b₃.device = (T.perform b₂.device (.restoreInterrupts token)).device := by
    rw [← Bus.call_device T who, _h₃]
  have := T.pending_mask b.device
  have := T.pending_isBusy b₁.device r₂
  have := T.pending_restore b₂.device token
  rw [d₃]; rw [d₂] at *; rw [d₁] at *
  omega

/-- Runs a script to its end. -/
def run (T : Transport σ) (who : Actor) : Script α → Bus σ → Except Fault α × Bus σ
  | .done a, b => (.ok a, b)
  | .fault f, b => (.error f, b)
  | .note l rest, b => rest.run T who (b.log who l)
  | .call c rest, b =>
    match b.call T who c with
    | (.error f, b) => (.error f, b)
    | (.ok r, b) => (rest r).run T who b
  | .untilReady rest, b =>
    match settle T who b with
    | (.error f, b) => (.error f, b)
    | (.ok _, b) => rest.run T who b

/-! ## Running call by call -/

/-- What is left of a script after some of its calls. -/
inductive Progress (α : Type) where
  | unfinished (rest : Script α)
  | finished (result : Except Fault α)

/-- Makes the next call, writes the next log line, or ends. A wait goes through mask, poll and
restore, and starts again while the device is busy. -/
def step (T : Transport σ) (who : Actor) : Script α → Bus σ → Progress α × Bus σ
  | .done a, b => (.finished (.ok a), b)
  | .fault f, b => (.finished (.error f), b)
  | .note l rest, b => (.unfinished rest, b.log who l)
  | .call c rest, b =>
    match b.call T who c with
    | (.error f, b) => (.finished (.error f), b)
    | (.ok r, b) => (.unfinished (rest r), b)
  | .untilReady rest, b =>
    match b.call T who .maskInterrupts with
    | (.error f, b) => (.finished (.error f), b)
    | (.ok token, b) =>
      (.unfinished (.call .isBusy fun (busy : Bool) =>
        .call (.restoreInterrupts token) fun _ => if busy then .untilReady rest else rest), b)

/-- How far a script runs when its thread gets a turn. -/
inductive Pace where
  /-- One call. -/
  | single
  /-- To its end. -/
  | whole
  deriving DecidableEq, Repr

/-- Gives a script one turn. -/
def advance (T : Transport σ) (pace : Pace) (who : Actor) (s : Script α) (b : Bus σ) :
    Progress α × Bus σ :=
  match pace with
  | .single => s.step T who b
  | .whole =>
    match s.run T who b with
    | (result, b) => (.finished result, b)

end Script

end FlashGate

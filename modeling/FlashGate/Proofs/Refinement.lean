/-
The gate over the emulated chip refines a flat memory. Main statement: `refines_flat`, that on a
device of whole pages and sectors, at every moment of every run with connects failing at any time,
the bytes handed over so far are those of the flat memory, and the stored bytes are its bytes
whenever no script runs; and that a gate which is let come to rest has served all it has taken.
-/
import FlashGate.Proofs.Conformance

namespace FlashGate

namespace Flat

/-- A flat memory with the given bytes at its start; the other bytes are erased. -/
def initial (size : Nat) (data : List UInt8) : Flat := ⟨size, fun i => data.getD i 0xFF⟩

/-- The flat memory after a message; a sentinel changes nothing. -/
def step (f : Flat) : Message → Flat
  | .job j => f.after j.operation
  | _ => f

/-- The flat memory after messages. -/
def run (f : Flat) (messages : List Message) : Flat := messages.foldl step f

/-- The bytes of the reads among the messages, under their tickets. -/
def replies (f : Flat) : List Message → List (Ticket × List UInt8)
  | [] => []
  | x :: rest =>
    (match x with
      | .job j => if j.operation.isRead then [(j.ticket, f.reply j.operation)] else []
      | _ => []) ++ replies (f.step x) rest

theorem shows_initial (profile : Chip.Profile) (data : List UInt8) :
    (initial profile.size.toNat data).Shows (Chip.make profile data).memory := by
  refine ⟨rfl, fun i hi => ?_⟩
  have hi : i < profile.size.toNat := hi
  show ((Memory.erased profile.size.toNat).overwrite 0 (data.take profile.size.toNat)).byte i =
    data.getD i 0xFF
  rw [Memory.byte_overwrite, Memory.byte_erased]
  by_cases h : i < data.length
  · rw [dif_pos ⟨Nat.zero_le _, by rw [List.length_take]; omega⟩]
    simp [List.getElem_take, h]
  · rw [dif_neg (by rw [List.length_take]; omega)]
    simp [h, erasedByte]

variable {g : Geometry} {f : Flat} {m : Memory}

/-- Messages change the stored bytes as they change the flat memory, and hand over the same. -/
theorem shows_contents (h : f.Shows m) (size : m.size = g.totalSize.toNat)
    {messages : List Message} (inside : ∀ j, .job j ∈ messages → j.operation.StaysInside g) :
    (f.run messages).Shows (contents g m messages) ∧
      FlashGate.replies g m messages = f.replies messages := by
  induction messages generalizing f m with
  | nil => exact ⟨h, rfl⟩
  | cons x rest ih =>
    have later (j : Job) (hj : .job j ∈ rest) := inside j (List.mem_cons_of_mem _ hj)
    cases x with
    | job j =>
      have next := shows_effect h size (inside j (List.mem_cons_self ..))
      obtain ⟨stored, answered⟩ := ih next (by rw [Operation.size_effect, size]) later
      refine ⟨stored, ?_⟩
      rw [FlashGate.replies, replies]
      simp only [Message.reply, Message.effect, step, answered, reply_eq h size]
    | park id => exact ih h size later
    | stop => exact ih h size later

end Flat

open Chip

/-- A gate shows a flat memory: what it has handed over for the messages done, and what it stores
while no script runs and no fault has hit the dispatcher. -/
structure Gate.Refines (f : Flat) (g : Gate Chip) (done : List Message) : Prop where
  answered : answeredIn g.bus.journal.toList = f.replies done
  stored : (∀ who, ¬ g.control.Drives who) → g.control.dispatcher.isFaulted = false →
    (f.run done).Shows g.bus.device.memory

/-- A gate that is judged to stand, and has done nothing but what stays inside of the device,
refines a flat memory. -/
theorem refines_of_stands {s : Setup} {profile : Profile} {m : Memory} {f : Flat} {g : Gate Chip}
    {done : List Message} (h : f.Shows m) (size : m.size = s.geometry.totalSize.toNat)
    (inside : ∀ j, .job j ∈ done → j.operation.StaysInside s.geometry)
    (stands : (judgement s profile m).contract.Stands g done) : g.Refines f done := by
  obtain ⟨stored, answered⟩ := Flat.shows_contents h size inside
  refine ⟨?_, fun free sane => ?_⟩
  · obtain ⟨w, -, seen⟩ := stands.holds
    exact seen.trans answered
  · have alive : g.control.dispatcher ≠ .aborted := fun h => by rw [h] at sane; cases sane
    have off := Control.not_on_of_drives alive free
    obtain ⟨st, there⟩ := Control.exists_stands off sane
    obtain ⟨w, ⟨seen, -⟩, rests⟩ := stands.rest off st there
    have memory : g.bus.device.calm.memory = w.memory := by rw [seen.calm]
    rw [show g.bus.device.memory = w.memory from memory, rests.stored]
    exact stored

/-- On a device of whole pages and sectors the gate refines a flat memory. It opens unless the
connect fails. At every moment of a run the bytes handed over so far are those of the flat memory
for the messages done, in the order in which the dispatcher took them, and so are the stored bytes
while no script runs; and no fault hits the dispatcher but where connects have no bound. A gate let
come to rest is done with all it has taken, and has taken all there was unless it sleeps. -/
theorem refines_flat (profile : Profile) (data : List UInt8) (config : Config) (id : ClientId)
    (size : profile.size ≠ 0) (page : isPowerOfTwo profile.pageSize = true)
    (sector : profile.sectorSize = 4096)
    (pages : profile.size.toNat % profile.pageSize.toNat = 0)
    (sectors : profile.size.toNat % 4096 = 0) (r : Except Fault (Except DeviceError Control))
    (b : Bus Chip)
    (start : Gate.start transport config id ⟨make profile data, #[]⟩ = (r, b)) :
    (profile.connectFailures = 0 → ∃ c, r = .ok (.ok c)) ∧
    ∀ c g, r = .ok (.ok c) → Gate.Reach transport failing ⟨c, b⟩ g →
      (∃ done current, takenIn g.bus.journal.toList = done ++ current ∧
        Control.Pending g.control.dispatcher current ∧
        g.Refines (.initial profile.size.toNat data) done) ∧
      (g.control.dispatcher = .unwinding ∨ g.control.dispatcher = .dead →
        config.retry.retries.toNat = 2 ^ 32 - 1) ∧
      ∀ first, Gate.Reach transport failing ⟨c, b⟩ (Gate.rest transport first g) ∧
        ((Gate.rest transport first g).control.dispatcher.isFaulted = false →
          (Gate.rest transport first g).Refines (.initial profile.size.toNat data)
            (takenIn (Gate.rest transport first g).bus.journal.toList) ∧
          ((Gate.rest transport first g).control.dispatcher = .parked ∨
            (Gate.rest transport first g).control.queue = [])) := by
  have fresh : (make profile data).IsFresh := ⟨rfl, rfl, rfl, rfl⟩
  refine ⟨fun ready => ?_, ?_⟩
  · have opened : ∃ c, (Gate.start transport config id ⟨make profile data, #[]⟩).1 = .ok (.ok c) :=
      start_succeeds ready sector size page config id
    rwa [start] at opened
  rintro c g rfl reach
  have refines {g : Gate Chip} (reach : Gate.Reach transport failing ⟨c, b⟩ g) :
      g.control.Sound ∧
      (g.control.dispatcher = .unwinding ∨ g.control.dispatcher = .dead →
        config.retry.retries.toNat = 2 ^ 32 - 1) ∧
      ∃ done current, takenIn g.bus.journal.toList = done ++ current ∧
        Control.Pending g.control.dispatcher current ∧
        g.Refines (.initial profile.size.toNat data) done := by
    obtain ⟨s, total, pageSize, retry, sound, done, stands⟩ := stands_of_start fresh start reach
    obtain ⟨current, taken, pending⟩ := stands.taken
    have total : s.geometry.totalSize = profile.size := total
    have pageSize : s.geometry.pageSize = profile.pageSize := pageSize
    refine ⟨sound, fun halted => ?_, done, current, taken, pending, refines_of_stands
      (Flat.shows_initial profile data) (by rw [total]; rfl) (fun j _ =>
        j.operation.staysInside_of_whole (by rw [total, pageSize]; exact pages)
          (by rw [total]; exact sectors)) stands⟩
    obtain ⟨f, notLost, may⟩ := stands.fault halted
    rcases may with lost | ⟨-, retries | broken⟩
    · exact absurd lost notLost
    · rwa [← retry]
    · exact absurd ⟨pages, sectors⟩ broken
  refine ⟨(refines reach).2.2, (refines reach).2.1, fun first => ?_⟩
  have there := Gate.reach_rest first reach
  refine ⟨there, fun sane => ?_⟩
  obtain ⟨sound, -, done, current, taken, pending, shows⟩ := refines there
  have rest := sound.dispatcher_of_rest (Gate.rest_move? transport first g)
  generalize Gate.rest transport first g = g' at *
  have nothing : current = [] := by
    rcases rest with ⟨h, -⟩ | h | ⟨h, -⟩ | h | h <;> rw [h] at pending sane
    · exact pending
    · exact pending
    · exact pending
    · cases sane
    · cases sane
  refine ⟨?_, ?_⟩
  · rwa [taken, nothing, List.append_nil]
  · rcases rest with ⟨-, h⟩ | h | ⟨-, h⟩ | h | h
    · exact .inr h
    · exact .inl h
    · exact .inr h
    · rw [h] at sane; cases sane
    · rw [h] at sane; cases sane

/-- Whether the dispatcher waits for a message. -/
def Dispatcher.isReceiving : Dispatcher → Bool
  | .receiving => true
  | _ => false

/-- The small gate after a write and a read of one client. -/
def Gate.smallPlayed (c : Control) : Gate Chip :=
  ((({ gate := ⟨c, Gate.small.2⟩ } : Session Chip).act transport 0 (.write 1 [0x0F])).act
    transport 0 (.read 0 [0, 0, 0])).gate

/-- On the small gate a read after a write hands over what the flat memory does, with the nibbles
swapped. -/
theorem refines_flat_small : ∃ c, Gate.small.1 = .ok (.ok c) ∧
    answeredIn (Gate.smallPlayed c).bus.journal.toList = [(1, [0xFF, 0xF0, 0xFF])] := by
  obtain ⟨c, opened⟩ : ∃ c, Gate.small.1 = .ok (.ok c) :=
    start_succeeds rfl rfl (by decide) (by decide) _ _
  refine ⟨c, opened, ?_⟩
  have reach : Gate.Reach transport failing ⟨c, Gate.small.2⟩
      ({ gate := ⟨c, Gate.small.2⟩ } : Session Chip).gate := .refl
  have there : Gate.Reach transport failing ⟨c, Gate.small.2⟩ (Gate.smallPlayed c) :=
    Session.reach_act 0 _ (Session.reach_act 0 _ reach)
  obtain ⟨done, current, taken, pending, shows⟩ := ((refines_flat oneSector []
    { fastRead := some ⟨.nibbleSwap, 0⟩ } 0 (by decide) (by decide) rfl (by decide) (by decide)
    Gate.small.1 Gate.small.2 rfl).2 c _ opened there).1
  -- both jobs were taken, and the dispatcher waits for the next
  have played : Gate.ofSmall (fun c => takenIn (Gate.smallPlayed c).bus.journal.toList) =
      some [.job ⟨0, 0, 0, .write 1 [0x0F]⟩, .job ⟨1, 0, 0, .fastRead .nibbleSwap 0 3⟩] := by
    decide +kernel
  have waits : Gate.ofSmall (fun c => (Gate.smallPlayed c).control.dispatcher.isReceiving) =
      some true := by decide +kernel
  simp only [Gate.ofSmall, opened, Option.some.injEq] at played waits
  have idle : current = [] := by
    cases h : (Gate.smallPlayed c).control.dispatcher <;> rw [h] at waits pending <;>
      first | exact pending | cases waits
  rw [idle, List.append_nil] at taken
  rw [shows.answered, ← taken, played]
  decide +kernel

end FlashGate

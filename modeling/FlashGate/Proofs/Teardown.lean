/-
The end of a gate over the emulated chip. Main statement: `drop_tears_down`, that dropping the gate,
from whatever state it may be dropped in, shuts an open window down before the dispatcher does
anything, takes each request that is queued once and in order, comes to its end in every run that no
fault cuts short, and leaves the dispatcher stopped and all hardware released.
-/
import FlashGate.Proofs.Refinement
import FlashGate.Proofs.Gateway.Dropping
import FlashGate.Proofs.Gateway.Halting

namespace FlashGate

open Chip

/-- Connects that are made to fail keep no chip busy. -/
theorem Chip.calms : transport.Calms failing := by
  rintro d d' ⟨n, rfl⟩
  exact Nat.le_refl _

theorem Chip.shuts : transport.Shuts := fun _ => rfl

namespace Gate

variable {g g' : Gate Chip} {id : ClientId}

/-- How far a drop has come from one gate to another. -/
structure Drops (id : ClientId) (g g' : Gate Chip) : Prop where
  /-- What was taken since and what is queued is what was queued at first, and behind it the stop
  sentinel, once it is sent. -/
  order : ∃ taken, g'.taken = g.taken ++ taken ∧
    (taken ++ g'.control.queue = g.control.queue ∨
      taken ++ g'.control.queue = g.control.queue ++ [.stop])
  /-- A window that was open is shut down before the dispatcher does anything. -/
  window : g.control.park.state = .parked → ∃ added,
    g'.bus.journal.toList = g.bus.journal.toList ++ added ∧ AfterShut id added
  /-- Nobody turns to a command any more, -/
  closed : ∀ i k, g'.control.begin? i k = none
  /-- and the threads cannot move on for ever; -/
  ends : Acc (fun h' h => Moves transport failing h h') g'
  /-- but they do not come to rest before the drop has returned. -/
  rest : (∀ who, g'.control.move? who = none) → (g'.control.client id).task = .idle

/-- A gate whose drop has returned, over a chip that was built with the given bytes. -/
structure TornDown (profile : Profile) (data : List UInt8) (id : ClientId) (g g' : Gate Chip) :
    Prop where
  returned : (g'.control.client id).answer = some .done
  stopped : g'.control.dispatcher = .stopped
  /-- The handshake is over, with nobody as its owner. -/
  park : g'.control.park = {}
  /-- All that was queued has been taken, in its order, and then the stop sentinel. -/
  taken : g'.taken = g.taken ++ g.control.queue ++ [.stop]
  empty : g'.control.queue = []
  /-- The chip holds what the messages taken amount to, -/
  stored : g'.bus.device.memory =
    contents g'.control.setup.geometry (make profile data).memory g'.taken
  /-- and so were the reads among them answered. -/
  answered : answeredIn g'.bus.journal.toList =
    replies g'.control.setup.geometry (make profile data).memory g'.taken
  disconnected : g'.bus.device.connected = false
  released : g'.bus.device.fastReadActive = false

/-- What a gate whose dispatcher has ended as asked leaves behind. -/
theorem rests_of_stopped {profile : Profile} {data : List UInt8} {failures : UInt32}
    {config : Config} {id : ClientId} {c : Control} {b : Bus Chip}
    (start : Gate.start transport config id ⟨(make profile data).failConnects failures, #[]⟩ =
      (.ok (.ok c), b)) (reach : Reach transport failing ⟨c, b⟩ g)
    (halted : g.control.dispatcher = .stopped) :
    g.bus.device.connected = false ∧ g.bus.device.fastReadActive = false ∧
      g.bus.device.memory =
        contents g.control.setup.geometry (make profile data).memory g.taken ∧
      answeredIn g.bus.journal.toList =
        replies g.control.setup.geometry (make profile data).memory g.taken := by
  obtain ⟨s, -, -, -, sound, done, stands⟩ :=
    stands_of_start (isFresh_make profile data failures) start reach
  obtain ⟨current, taken, pending⟩ := stands.taken
  rw [halted] at pending
  obtain rfl : current = [] := pending
  have whole : g.taken = done := taken.trans (List.append_nil _)
  have stage : g.control.Stands (.held .released) := by simp only [Control.Stands, halted]
  obtain ⟨w, ⟨seen, answered⟩, rests⟩ :=
    stands.rest (sound.off_of_stopped halted) (.held .released) stage
  rw [whole, stands.setup, answered]
  exact ⟨(congrArg Chip.connected seen.calm).trans rests.stands.1,
    (congrArg Chip.fastReadActive seen.calm).trans rests.stands.2,
    (congrArg Chip.memory seen.calm).trans rests.stored, rfl⟩

end Gate

/-- Dropping a gate over the emulated chip. Take any run of a gate, with any number of clients and
with connects failing at any time, and a client that drops the gate there, whatever is queued,
whether or not a low-level window is open and whoever opened it, and whichever hardware the
dispatcher holds. As long as no fault hits the dispatcher, a window that was open is shut down
before the dispatcher does anything, what was queued is taken in its order and each request once,
and no run goes on for ever or comes to rest before the drop has returned. When it has, the
dispatcher has ended as asked, all that was queued has been served, the handshake is over and
nobody's, and the chip is disconnected with its fast-read hardware released. -/
theorem drop_tears_down (profile : Profile) (data : List UInt8) (failures : UInt32)
    (config : Config) (id₀ : ClientId) (c : Control) (b : Bus Chip)
    (start : Gate.start transport config id₀ ⟨(make profile data).failConnects failures, #[]⟩ =
      (.ok (.ok c), b)) (g : Gate Chip) (reach : Gate.Reach transport failing ⟨c, b⟩ g)
    (id : ClientId) (next : Control) (begins : g.control.begin? id .drop = some next)
    (g' : Gate Chip) (later : Gate.Reach transport failing ⟨next, g.bus⟩ g')
    (sane : g'.control.dispatcher.isFaulted = false) :
    g.Drops id g' ∧
      ((g'.control.client id).task = .idle → g.TornDown profile data id g') := by
  have begun : Gate.Reach transport failing g ⟨next, g.bus⟩ := .step .refl (.begin begins)
  have whole := reach.trans (begun.trans later)
  obtain ⟨sound, balanced⟩ := Gate.balanced_of_start start reach
  obtain ⟨sound', balanced'⟩ := Gate.balanced_of_start start whole
  obtain ⟨added, journal, dropping⟩ := later.dropping shuts
    ((Control.Goes.client (Control.begin?_turn begins)).sound sound) (Control.dropping_begin begins)
  rw [List.nil_append] at dropping
  have alive {d : Dispatcher} (sane : d.isFaulted = false) : d ≠ .dead :=
    fun h => by rw [h] at sane; cases sane
  -- what was taken and queued since is what was queued before and what was accepted since
  have order : takenIn added ++ g'.control.queue = g.control.queue ++ acceptedIn added := by
    have before := balanced.queued (alive ((begun.trans later).isFaulted sane))
    have after := balanced'.queued (alive sane)
    rw [journal, takenIn_append, acceptedIn_append, before, List.append_assoc,
      List.append_assoc] at after
    exact (List.append_cancel_left after).symm
  have taken : g'.taken = g.taken ++ takenIn added := by
    rw [Gate.taken, journal, takenIn_append, Gate.taken]
  refine ⟨⟨⟨_, taken, ?_⟩, fun isOpen => ⟨added, journal, dropping.afterShut isOpen⟩,
    dropping.begin?, Gate.acc_moves calms sound', dropping.idle_of_rest sound' sane⟩, fun idle =>
      ?_⟩
  · rw [order]
    rcases dropping.accepted sane with none | stop
    · exact .inl (by rw [none, List.append_nil])
    · exact .inr (by rw [stop])
  · obtain ⟨halted, park, stop, answer⟩ := dropping.stopped sound'.handshake sane idle
    obtain ⟨disconnected, released, stored, answered⟩ := Gate.rests_of_stopped start whole halted
    have empty := sound'.handshake.ended (by rw [halted]; rfl)
    rw [stop, empty, List.append_nil] at order
    exact ⟨answer, halted, park, by rw [taken, order, List.append_assoc], empty, stored, answered,
      disconnected, released⟩

/-- The small gate with the window of one client open, after which another asks for an erase and a
write. -/
def Gate.smallWindowed (c : Control) : Gate Chip :=
  (((({ gate := ⟨c, Gate.small.2⟩ } : Session Chip).act transport 1 .openWindow).act transport 2
    (.erase 0 1)).act transport 2 (.write 1 [0x0F])).gate

/-- A third client drops the small gate, which is torn down with the two requests served. -/
theorem drop_tears_down_small : ∃ c next, Gate.small.1 = .ok (.ok c) ∧
    (Gate.smallWindowed c).control.park.state = .parked ∧
    (Gate.smallWindowed c).control.queue =
      [.job ⟨1, 2, 0, .erase 0 1⟩, .job ⟨2, 2, 0, .write 1 [0x0F]⟩] ∧
    (Gate.smallWindowed c).control.begin? 0 .drop = some next ∧
    (Gate.smallWindowed c).TornDown oneSector [] 0
      (Gate.rest transport 0 ⟨next, (Gate.smallWindowed c).bus⟩) := by
  obtain ⟨c, opened⟩ := Gate.small_opens
  have fresh : Gate.Reach transport failing ⟨c, Gate.small.2⟩
      ({ gate := ⟨c, Gate.small.2⟩ } : Session Chip).gate := .refl
  have reach : Gate.Reach transport failing ⟨c, Gate.small.2⟩ (Gate.smallWindowed c) :=
    Session.reach_act 2 _ (Session.reach_act 2 _ (Session.reach_act 1 _ fresh))
  have start := Gate.start_of_small opened
  have played : Gate.ofSmall (fun c => ((Gate.smallWindowed c).control.park.state,
      (Gate.smallWindowed c).control.queue,
      ((Gate.smallWindowed c).control.begin? 0 .drop).map fun next =>
        let last := (Gate.rest transport 0 ⟨next, (Gate.smallWindowed c).bus⟩).control
        (last.dispatcher.isFaulted, (last.client 0).task.isIdle))) =
      some (.parked, [.job ⟨1, 2, 0, .erase 0 1⟩, .job ⟨2, 2, 0, .write 1 [0x0F]⟩],
        some (false, true)) := by
    decide +kernel
  simp only [Gate.ofSmall, opened, Option.some.injEq, Prod.mk.injEq, Option.map_eq_some_iff]
    at played
  obtain ⟨window, queue, next, begins, sane, idle⟩ := played
  exact ⟨c, next, opened, window, queue, begins, (drop_tears_down oneSector [] 0 _ 0 c _ start _
    reach 0 next begins _ (Gate.reach_rest 0 .refl) sane).2 (Task.eq_idle idle)⟩

end FlashGate

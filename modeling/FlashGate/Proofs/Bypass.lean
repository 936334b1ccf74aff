/-
Reads past the queue beside reads through it. Main statement: `bypass_agrees`, that in a low-level
window a read past the queue fills its buffer with what a read through the queue with the same
arguments brings of the same stored bytes, and that every fetch is made in the submode that its own
read asks for, whatever was read before.
-/
import FlashGate.Proofs.Exclusion
import FlashGate.Proofs.Gateway.Reading

namespace FlashGate

/-- In the nibble-swapping submode a read shows what it shows in the raw one, each byte swapped. -/
theorem Operation.reply_nibbleSwap (g : Geometry) (m : Memory) (address : UInt32) (length : Nat) :
    (Operation.fastRead .nibbleSwap address length).reply g m =
      ((Operation.fastRead .raw address length).reply g m).map Submode.swapNibbles := by
  simp only [Operation.reply, Geometry.shown, List.map_map]
  refine List.map_congr_left fun i _ => ?_
  simp only [Function.comp]
  split
  · rfl
  · decide

/-! ## A read past the queue alone -/

namespace Gate

variable {σ : Type} {T : Transport σ} {c next : Control} {b : Bus σ} {id : ClientId} {r : Bypass}

theorem turn_of_quiet (alive : c.dispatcher ≠ .aborted) {events : List Event}
    (h : c.clientMove? id = some (.quiet next events)) (b : Bus σ) :
    turn T ⟨c, b⟩ (.client id) = ⟨next, b.record (.client id) events⟩ := by
  rw [← Control.move?_client alive] at h
  simp only [turn, h, perform]

/-- A client that alone has begun a read past the queue while a window is open and nobody has the
locks gets them in three turns, with the device left as it is. -/
theorem turns_approach (alive : c.dispatcher ≠ .aborted)
    (there : (c.client id).task = .bypassChecking r) (parked : c.park.state = .parked)
    (spin : c.spin.count = 0) (free : c.holder = none) (b : Bus σ) : ∃ c' b',
      (List.replicate 3 (Actor.client id)).foldl (turn T) ⟨c, b⟩ = ⟨c', b'⟩ ∧
      (c'.client id).task = .bypassRechecking r ∧ c'.park = c.park ∧
      c'.dispatcher = c.dispatcher ∧ c'.setup = c.setup ∧ b'.device = b.device := by
  obtain ⟨c₁, first⟩ : ∃ c₁, c₁ = c.place id (.bypassSpinning r) := ⟨_, rfl⟩
  obtain ⟨c₂, second⟩ : ∃ c₂, c₂ = { c₁ with spin := ⟨1⟩ }.place id (.bypassClaiming r) := ⟨_, rfl⟩
  obtain ⟨c₃, third⟩ : ∃ c₃, c₃ =
    { c₂ with holder := some (.client id) }.place id (.bypassRechecking r) := ⟨_, rfl⟩
  have checks : c.clientMove? id = some (.quiet c₁
      [.log (Transfer.asked "ll read" r.buffer.length r.address)]) := by
    simp [Control.clientMove?, there, Control.bypassMove?, parked, first]
  have spins : c₁.clientMove? id = some (.quiet c₂ []) := by
    simp [Control.clientMove?, Control.place, Control.client, Control.bypassMove?,
      SpinLock.tryLock?, spin, first, second]
  have claims : c₂.clientMove? id = some (.quiet c₃ []) := by
    simp [Control.clientMove?, Control.place, Control.client, Control.bypassMove?, free, first,
      second, third]
  have alive₁ : c₁.dispatcher ≠ .aborted := by rwa [first]
  have alive₂ : c₂.dispatcher ≠ .aborted := by rwa [second]
  refine ⟨c₃, ((b.record (.client id) [.log (Transfer.asked "ll read" r.buffer.length
    r.address)]).record (.client id) []).record (.client id) [], ?_, ?_, ?_, ?_, ?_, rfl⟩
  · simp only [List.replicate, List.foldl, turn_of_quiet alive checks, turn_of_quiet alive₁ spins,
      turn_of_quiet alive₂ claims]
  · simp [third, Control.place, Control.client]
  all_goals simp [third, second, first, Control.place]

/-- A client that has found the window still open makes its whole read in the turns that follow, and
gives the locks up. -/
theorem turns_fetch (alive : c.dispatcher ≠ .aborted)
    (there : (c.client id).task = .bypassRechecking r) (parked : c.park.state = .parked)
    {bytes : List UInt8} {b b' : Bus σ}
    (reads : (Transfer.fastRead c.setup.geometry c.setup.readChunk r.address r.buffer
      (some r.submode)).run T (.client id) (b.record (.client id) []) = (.ok bytes, b')) :
    ∃ c' b'', (List.replicate 4 (Actor.client id)).foldl (turn T) ⟨c, b⟩ = ⟨c', b''⟩ ∧
      (c'.client id).task = .idle ∧ (c'.client id).answer = some (.bytes bytes) ∧
      b''.device = b'.device := by
  obtain ⟨script, full⟩ : ∃ script, script = Transfer.fastRead c.setup.geometry c.setup.readChunk
    r.address r.buffer (some r.submode) := ⟨_, rfl⟩
  obtain ⟨c₁, first⟩ : ∃ c₁, c₁ = c.place id (.bypassReading r script) := ⟨_, rfl⟩
  obtain ⟨c₂, second⟩ : ∃ c₂, c₂ = c₁.place id (.bypassDetaching (.bytes bytes)) := ⟨_, rfl⟩
  obtain ⟨c₃, third⟩ : ∃ c₃, c₃ =
    { c₂ with holder := none }.place id (.bypassUnspinning (.bytes bytes)) := ⟨_, rfl⟩
  obtain ⟨c₄, fourth⟩ : ∃ c₄, c₄ =
    { c₃ with spin := c₃.spin.release }.finish id (.bytes bytes) := ⟨_, rfl⟩
  have rechecks : c.clientMove? id = some (.quiet c₁ []) := by
    simp [Control.clientMove?, there, Control.bypassMove?, parked, first, full]
  have alive₁ : c₁.dispatcher ≠ .aborted := by rwa [first]
  have alive₂ : c₂.dispatcher ≠ .aborted := by rwa [second]
  have alive₃ : c₃.dispatcher ≠ .aborted := by rwa [third]
  have fetches : turn T ⟨c₁, b.record (.client id) []⟩ (.client id) =
      ⟨c₂, b'.record (.client id) []⟩ := by
    have there₁ : (c₁.client id).task = .bypassReading r script := by
      simp [first, Control.place, Control.client]
    simp only [turn, Control.move?_client alive₁, Control.clientMove?, there₁, Control.bypassMove?,
      perform, Script.advance, full, reads, second]
  have detaches : c₂.clientMove? id = some (.quiet c₃ []) := by
    simp [Control.clientMove?, Control.place, Control.client, Control.bypassMove?, second, third]
  have unspins : c₃.clientMove? id = some (.quiet c₄ []) := by
    simp [Control.clientMove?, Control.place, Control.client, Control.bypassMove?, third, fourth]
  refine ⟨c₄, ((b'.record (.client id) []).record (.client id) []).record (.client id) [], ?_, ?_,
    ?_, rfl⟩
  · simp only [List.replicate, List.foldl, turn_of_quiet alive rechecks, fetches,
      turn_of_quiet alive₂ detaches, turn_of_quiet alive₃ unspins]
  all_goals simp [fourth, Control.finish, Control.client]

end Gate

/-- An idle client may turn to a read past the queue. -/
theorem Control.begin?_bypass {c : Control} {id : ClientId} {k : FlashGate.Command}
    (idle : (c.client id).task = .idle) (present : c.dropped = false) (h : k.isBypass = true) :
    ∃ r : Bypass, k.reading? c.setup = some r.operation ∧ c.begin? id k = some
      ({ c with clients := c.clients.set id { c.client id with answer := none } }.place id
        (.bypassChecking r)) := by
  cases k <;> cases h
  case bypassRead address buffer =>
    exact ⟨⟨address, buffer, c.setup.strategy.submode?.getD .raw⟩, rfl, by
      simp [begin?, mayBegin, idle, present, begin]⟩
  case bypassReadMode address buffer submode =>
    exact ⟨⟨address, buffer, submode⟩, rfl, by simp [begin?, mayBegin, idle, present, begin]⟩

namespace Gate

open Chip

/-- A low-level window is open at the gate, nobody has the locks of a read past the queue, and the
client may turn to one. -/
structure Offers {σ : Type} (g : Gate σ) (id : ClientId) : Prop where
  parked : g.control.park.state = .parked
  spin : g.control.spin.count = 0
  free : g.control.holder = none
  idle : (g.control.client id).task = .idle
  present : g.control.dropped = false

variable {chip : Chip} {config : Config} {opener : ClientId} {c : Control} {b : Bus Chip}
  {g : Gate Chip} {id : ClientId} {r : Bypass}

/-- A client that has the locks in an open window reads what is stored. -/
theorem runs_in_window (fresh : chip.IsFresh)
    (start : Gate.start transport config opener ⟨chip, #[]⟩ = (.ok (.ok c), b))
    (reach : Reach transport failing ⟨c, b⟩ g)
    (there : (g.control.client id).task = .bypassRechecking r)
    (parked : g.control.park.state = .parked) : ∃ b',
      (Transfer.fastRead c.setup.geometry c.setup.readChunk r.address r.buffer
        (some r.submode)).run transport (.client id) (g.bus.record (.client id) []) =
          (.ok (r.operation.reply c.setup.geometry g.bus.device.memory), b') ∧
      b'.device.memory = g.bus.device.memory := by
  obtain ⟨observed, done, stands⟩ := observed_of_start fresh start reach
  have isOpen := observed.sound.isOpen_of_locks parked
    (show (g.control.client id).task.spins = 1 by rw [there]; rfl) (by rw [there]; rfl)
  have asleep := observed.sound.handshake.parked parked
  obtain ⟨w, ⟨seen, -⟩, rests⟩ := stands.rest
    (Contract.nobody_of_client observed.sound.locks id (by rw [there]; rfl) (by rw [there]; rfl))
    .window ((Control.stands_parked asleep .window).2 (.inl ⟨isOpen, rfl⟩))
  obtain ⟨connected, active, calibrated⟩ := rests.stands
  -- beside connects that fail, the chip is the one that is seen
  have calm : g.bus.device.calm = w := seen.calm
  subst calm
  have told : Seen chip.profile (g.bus.record (.client id) []) g.bus.device.calm :=
    seen.told (by simp)
  obtain ⟨w', seen', ends, m, rfl⟩ := Script.Always.run (world_shows chip.profile (.client id))
    (always_fastRead_in rests.matched connected active calibrated r.address r.buffer r.submode)
    told
  have stored := congrArg Chip.memory seen'.calm
  exact ⟨_, Prod.ext ends rfl, stored⟩

/-- A client that makes a read past the queue alone in an open window gets what is stored, and
leaves it as it is. -/
theorem solo_bypass (fresh : chip.IsFresh)
    (start : Gate.start transport config opener ⟨chip, #[]⟩ = (.ok (.ok c), b))
    (reach : Reach transport failing ⟨c, b⟩ g) (offers : g.Offers id) {k : FlashGate.Command}
    (bypass : k.isBypass = true) : ∃ o g', k.reading? c.setup = some o ∧
      g.solo transport id k 7 = g' ∧ (g'.control.client id).task = .idle ∧
      (g'.control.client id).answer = some (.bytes (o.reply c.setup.geometry g.bus.device.memory)) ∧
      g'.bus.device.memory = g.bus.device.memory := by
  obtain ⟨observed, -⟩ := observed_of_start fresh start reach
  obtain ⟨cg, bg⟩ := g
  have setup : cg.setup = c.setup := observed.setup
  have alive : cg.dispatcher ≠ .aborted := by
    rw [observed.sound.handshake.parked offers.parked]
    simp
  obtain ⟨r, reading, begins⟩ := Control.begin?_bypass offers.idle offers.present bypass
  obtain ⟨c₁, first⟩ : ∃ c₁, c₁ = ({ cg with clients := cg.clients.set id { cg.client id with
    answer := none } } : Control).place id (.bypassChecking r) := ⟨_, rfl⟩
  rw [← first] at begins
  have there : (c₁.client id).task = .bypassChecking r := by
    simp [first, Control.place, Control.client]
  obtain ⟨c₂, b₂, approach, there, park, dispatcher, kept, device⟩ := turns_approach
    (T := transport) (by rwa [first]) there (by rw [first]; exact offers.parked)
    (by rw [first]; exact offers.spin) (by rw [first]; exact offers.free) bg
  -- what is known of every gate of a run is known of the one where the locks are got
  have reach₂ : Reach transport failing ⟨c, b⟩ ⟨c₂, b₂⟩ :=
    approach ▸ reach_turns (List.replicate 3 (Actor.client id)) (.step reach (.begin begins))
  have parked : c₂.park.state = .parked := by
    rw [park, first]
    exact offers.parked
  have same : c₂.setup = c.setup := by
    rw [kept, first]
    exact setup
  obtain ⟨b₃, ends, stored⟩ := runs_in_window fresh start reach₂ there parked
  obtain ⟨c₄, b₄, fetch, idle, answer, device'⟩ := turns_fetch (T := transport)
    (by rw [dispatcher, first]; exact alive) there parked (by rw [same]; exact ends)
  refine ⟨_, ⟨c₄, b₄⟩, by rw [← setup]; exact reading, ?_, idle, ?_, ?_⟩
  · simp only [solo, begins]
    rw [show 7 = 3 + 4 from rfl, ← List.replicate_append_replicate, List.foldl_append, approach,
      fetch]
  · rw [answer, device]
  · rw [device', stored, device]

/-- A read through the queue that runs while the same bytes are stored all along, and the dispatcher
goes on, is answered with what it shows of them. -/
theorem Answered.queued {s : Setup} {o : Operation} {g₁ g₂ : Gate Chip} {a : Answer} {m : Memory}
    (h : Answered s o false g₁ g₂ a) (same : ∀ h, Reach transport failing g₁ h →
      Reach transport failing h g₂ →
      h.bus.device.memory = m ∧ h.control.dispatcher.isOver = false) :
    a = .bytes (o.reply s.geometry m) := by
  cases a with
  | bytes _ =>
    obtain ⟨h, before, after, rfl⟩ := h
    rw [(same h before after).1]
  | refused x buffer =>
    obtain ⟨h, before, after, bars⟩ := h
    cases x with
    | disconnected =>
      have goes := (same h before after).2
      rw [bars.2] at goes
      cases goes
    | notParked => cases bars.1
    | lockUnavailable => cases bars.1
    | _ => exact bars.elim
  | _ => exact h.elim

end Gate

open Gate Chip

/-- Reads past the queue agree with those through it, over a fresh chip of any size and contents on
which fast reads are in use, at every moment of any run of any number of clients. In an open window
a client that reads past the queue alone gets the bytes that its read shows of those stored; and the
command with the same arguments that goes through the queue, from whatever gate, gets the same bytes
of the same stored ones, as long as the dispatcher goes on. Whatever the other threads do, a read of
either kind ends with what it shows of the bytes stored at a moment of its run, or is refused for
what stood in its way then. Each fetch is made in the submode that the read of the fetching thread
asks for, and the swapping submode shows each byte of the raw one with its nibbles swapped. -/
theorem bypass_agrees (chip : Chip) (fresh : chip.IsFresh) (config : Config) (opener : ClientId)
    (c : Control) (b : Bus Chip)
    (start : Gate.start transport config opener ⟨chip, #[]⟩ = (.ok (.ok c), b))
    (fast : c.setup.strategy ≠ .standard) (g : Gate Chip)
    (reach : Reach transport failing ⟨c, b⟩ g) :
    (∀ (id : ClientId) (k : FlashGate.Command), k.isBypass = true → g.Offers id →
      ∃ (o : Operation) (bytes : List UInt8) (g' : Gate Chip), k.reading? c.setup = some o ∧
        bytes = o.reply c.setup.geometry g.bus.device.memory ∧ g.solo transport id k 7 = g' ∧
        (g'.control.client id).task = .idle ∧
        (g'.control.client id).answer = some (.bytes bytes) ∧
        g'.bus.device.memory = g.bus.device.memory ∧
        ∀ (reader : ClientId) (g₁ g₂ : Gate Chip) (moves : List (Gate Chip × Gate Chip)),
          Reach transport failing ⟨c, b⟩ g₁ →
          Course transport failing reader k.queued g₁ moves g₂ →
          (g₂.control.client reader).task = .idle →
          (∀ h, Reach transport failing g₁ h → Reach transport failing h g₂ →
            h.bus.device.memory = g.bus.device.memory ∧ h.control.dispatcher.isOver = false) →
          (g₂.control.client reader).answer = some (.bytes bytes)) ∧
    (∀ (id : ClientId) (k : FlashGate.Command) (o : Operation)
      (moves : List (Gate Chip × Gate Chip)) (g' : Gate Chip), k.reading? c.setup = some o →
      Course transport failing id k g moves g' → (g'.control.client id).task = .idle →
      ∃ a, (g'.control.client id).answer = some a ∧ Answered c.setup o k.isBypass g g' a) ∧
    (∀ (who : Actor) (script : Script (List UInt8))
      (resume : Script.Progress (List UInt8) → Control × List Event) (address : UInt32)
      (buffer : List UInt8), g.control.move? who = some (.drive script resume) →
      script.next? = some (.fastRead address buffer) →
      ∃ (d : Duty) (o : Operation), d.actor = who ∧ d.On g.control script ∧
        d.reading? = some o ∧ o.kind.submode? = some g.bus.device.submode) ∧
    ∀ (memory : Memory) (address : UInt32) (length : Nat),
      (Operation.fastRead .nibbleSwap address length).reply c.setup.geometry memory =
        ((Operation.fastRead .raw address length).reply c.setup.geometry memory).map
          Submode.swapNibbles := by
  have observed (g : Gate Chip) (reach : Reach transport failing ⟨c, b⟩ g) :=
    (observed_of_start fresh start reach).1
  have ends {g g' : Gate Chip} (reach : Reach transport failing ⟨c, b⟩ g) {id : ClientId}
      {k : FlashGate.Command} {o : Operation} {moves : List (Gate Chip × Gate Chip)}
      (reading : k.reading? c.setup = some o) (course : Course transport failing id k g moves g')
      (idle : (g'.control.client id).task = .idle) :
      ∃ a, (g'.control.client id).answer = some a ∧ Answered c.setup o k.isBypass g g' a := by
    have gets := course.gets (fun h on => observed h (reach.trans on)) reading
    simpa only [Gets, Client.Gets, idle] using gets
  refine ⟨?_, fun id k o moves g' => ends reach, ?_, fun memory address length =>
    Operation.reply_nibbleSwap ..⟩
  · intro id k bypass offers
    obtain ⟨o, g', reading, alone, idle, answer, stored⟩ :=
      solo_bypass fresh start reach offers bypass
    refine ⟨o, _, g', reading, rfl, alone, idle, answer, stored, ?_⟩
    intro reader g₁ g₂ moves reach₁ course idle same
    obtain ⟨a, answer, answered⟩ :=
      ends reach₁ ((Command.reading?_queued fast k).trans reading) course idle
    rw [Command.isBypass_queued] at answered
    rw [answer, answered.queued same]
  · intro who script resume address buffer move next
    exact fetches_of_watch (observed g reach).fetches move next

/-- In the window of the small gate a second client that reads past the queue gets the byte written
before, with its nibbles swapped. -/
theorem bypass_agrees_small : ∃ c, Gate.small.1 = .ok (.ok c) ∧ c.setup.strategy ≠ .standard ∧
    (smallWindow c).Offers 1 ∧
    (((smallWindow c).solo transport 1 (.bypassReadMode 0 [0, 0, 0] .nibbleSwap) 7).control.client
      1).answer = some (.bytes [0xFF, 0xF0, 0xFF]) := by
  obtain ⟨c, opened⟩ := small_opens
  have reach : Reach transport failing ⟨c, Gate.small.2⟩ (smallWindow c) :=
    Session.reach_act 0 _ (Session.reach_act 0 _ (Session.reach_act 0 _ .refl))
  have window : Gate.ofSmall (fun c => ((smallWindow c).control.park.state,
      (smallWindow c).control.spin.count, (smallWindow c).control.holder.isNone,
      ((smallWindow c).control.client 1).task.isIdle, (smallWindow c).control.dropped)) =
      some (.parked, 0, true, true, false) := by
    decide +kernel
  have stored : Gate.ofSmall (fun c => (c.setup.strategy.submode?.isSome,
      (Operation.fastRead .nibbleSwap 0 3).reply c.setup.geometry
        (smallWindow c).bus.device.memory)) = some (true, [0xFF, 0xF0, 0xFF]) := by
    decide +kernel
  simp only [Gate.ofSmall, opened, Option.some.injEq, Prod.mk.injEq] at window stored
  obtain ⟨parked, spin, free, idle, present⟩ := window
  obtain ⟨submode, shown⟩ := stored
  have fast : c.setup.strategy ≠ .standard := by
    intro standard
    rw [standard] at submode
    cases submode
  have offers : (smallWindow c).Offers 1 :=
    ⟨parked, spin, Option.isNone_iff_eq_none.1 free, Task.eq_idle idle, present⟩
  obtain ⟨o, bytes, _, reading, rfl, rfl, -, answer, -⟩ :=
    (bypass_agrees _ (isFresh_make oneSector [] 0) _ 0 c _ (start_of_small opened) fast _ reach).1 1
      (.bypassReadMode 0 [0, 0, 0] .nibbleSwap) rfl offers
  cases reading
  exact ⟨c, opened, fast, offers, answer.trans (congrArg (some ∘ Answer.bytes) shown)⟩

end FlashGate

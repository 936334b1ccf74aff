/-
Refused commands. Main statement: `refused_rolls_back`, that a command which is refused has left
nothing behind of its own moves: no call on the device, the mode and the device as they were, the
park handshake and the locks as far back as they were taken, the queue untouched unless a read was
accepted that the dispatcher's end has lost, and the caller's buffer as it was.
-/
import FlashGate.Proofs.Conformance
import FlashGate.Proofs.Gateway.Course

namespace FlashGate

/-! ## Refusals -/

/-- The errors that a command can be refused with. -/
def GateError.refusals : List GateError :=
  [.core .calibrationFailed, .alreadyParked, .notParked, .lockUnavailable, .disconnected]

/-- Whether the answer is a refusal. -/
def Answer.isRefusal : Answer → Bool
  | .refused .. => true
  | _ => false

/-- The error of a refusal, and the buffer with it. -/
def Answer.refusal? : Answer → Option (GateError × List UInt8)
  | .refused e buffer => some (e, buffer)
  | _ => none

theorem Answer.eq_refused {a : Answer} {e : GateError} {buffer : List UInt8}
    (h : a.refusal? = some (e, buffer)) : a = .refused e buffer := by
  cases a <;> cases h
  rfl

namespace Command

/-- The buffer that the command fills. -/
def buffer : Command → List UInt8
  | .read _ buffer => buffer
  | .readMode _ buffer _ => buffer
  | .bypassRead _ buffer => buffer
  | .bypassReadMode _ buffer _ => buffer
  | _ => []

/-- Whether the command is a read that goes through the queue. -/
def isRead : Command → Bool
  | .read .. => true
  | .readMode .. => true
  | _ => false

/-- The answer refuses the command and leaves its buffer as it is. -/
def Refused (k : Command) (a : Answer) : Prop := ∃ e ∈ GateError.refusals, a = .refused e k.buffer

theorem refused {k : Command} {e : GateError} {buffer : List UInt8} (he : e ∈ GateError.refusals)
    (same : buffer = k.buffer) : k.Refused (.refused e buffer) := ⟨e, he, by rw [same]⟩

/-- What the command submits. -/
def Sends (k : Command) : Submission → Prop
  | .job o buffer => buffer = k.buffer ∧ (o.isRead = true → k.isRead = true)
  | .park => k.buffer = []

/-- The client is at a place of its command from which it goes back if it is refused, or it was
refused. -/
def Retreats (k : Command) (d : Client) : Prop :=
  match d.task with
  | .idle => ∃ a, d.answer = some a ∧ k.Refused a
  | .admitting s => k.Sends s
  | .sending s => k.Sends s
  | .leaving s none => k.Sends s
  | .locking p => p = .window ∧ k.buffer = []
  | .spinning p _ => p = .window ∧ k.buffer = []
  | .requesting => k.buffer = []
  | .withdrawing => k.buffer = []
  | .unspinning a => k.Refused a
  | .unadmitting a => k.Refused a
  | .checkingOwner => k.buffer = []
  | .claimingClose w => w = .shutdown ∧ k.buffer = []
  | .checkingClose w => w = .shutdown ∧ k.buffer = []
  | .detachingClose w e => w = .shutdown ∧ e = some .notParked ∧ k.buffer = []
  | .bypassChecking r => r.buffer = k.buffer
  | .bypassSpinning r => r.buffer = k.buffer
  | .bypassClaiming r => r.buffer = k.buffer
  | .bypassRechecking r => r.buffer = k.buffer
  | .bypassDetaching a => k.Refused a
  | .bypassUnspinning a => k.Refused a
  | _ => False

/-- The client waits for the bytes of its read, or has lost them with the dispatcher. -/
def Waits (k : Command) (d : Client) : Prop :=
  match d.task with
  | .idle => k.isRead = true ∧ d.answer = some (.refused .disconnected k.buffer)
  | .leaving (.job o buffer) (some _) => buffer = k.buffer ∧ (o.isRead = true → k.isRead = true)
  | .awaiting _ buffer => buffer = k.buffer ∧ k.isRead = true
  | _ => False

end Command

/-- The client is at a place from which its command is not refused any more, or it was not refused.
-/
def Client.Passes (d : Client) : Prop :=
  match d.task with
  | .idle => ∀ a, d.answer = some a → a.isRefusal = false
  | .leaving .park (some _) => True
  | .waitingParked => True
  | .claimingWindow => True
  | .opening _ => True
  | .detachingWindow => True
  | .unspinning a => a.isRefusal = false
  | .unadmitting a => a.isRefusal = false
  | .locking p => p = .hold
  | .spinning p _ => p = .hold
  | .claimingClose w => w = .drop
  | .checkingClose w => w = .drop
  | .shutting .. => True
  | .resuming _ => True
  | .detachingClose w e => w = .drop ∨ e = none
  | .bypassReading .. => True
  | .bypassDetaching a => a.isRefusal = false
  | .bypassUnspinning a => a.isRefusal = false
  | .tryingSpin => True
  | .releasingSpin => True
  | .inspecting => True
  | .stopping => True
  | .joining => True
  | _ => False

/-- The answers that a client goes on with from a place. -/
def Task.Tells (t : Task) (d : Client) : Prop :=
  match t with
  | .requesting => ∀ a, d.task = .unspinning a → a = .refused .alreadyParked []
  | .withdrawing => d.task = .unspinning (.refused .disconnected [])
  | .detachingClose .shutdown none => d.answer = some .done
  | .detachingClose .shutdown (some e) => d.answer = some (.refused e [])
  | .bypassReading .. => ∀ a, d.task = .bypassDetaching a → a.isRefusal = false
  | _ => True

namespace Control

variable {c : Control} {id : ClientId} {e : Deed} {d : Client} {events : List Event} {k : Command}

/-! ## Turns of a client that may be refused -/

/-- A move of a client leads on with the answers of its place. -/
theorem clientMove?_tells {m : Move} (h : c.clientMove? id = some m) :
    m.Leads fun next _ => (c.client id).task.Tells (next.client id) := by
  obtain ⟨t, ht⟩ : ∃ t, (c.client id).task = t := ⟨_, rfl⟩
  have plain (told : ∀ d, t.Tells d) : m.Leads fun next _ => t.Tells (next.client id) := by
    cases m with
    | quiet next events => exact told _
    | drive script resume => exact fun p => told _
  rw [ht]
  cases t with
  | requesting =>
    simp only [clientMove?, ht, lockMove?] at h
    split at h <;> cases h <;> simp [Move.Leads, Task.Tells, place, client]
  | withdrawing =>
    simp only [clientMove?, ht, lockMove?] at h
    cases h
    simp [Move.Leads, Task.Tells, place, client]
  | detachingClose w e =>
    cases w with
    | drop => exact plain fun _ => trivial
    | shutdown =>
      simp only [clientMove?, ht, closeMove?] at h
      cases h
      cases e <;> simp [Move.Leads, Task.Tells, afterClose, finish, client]
  | bypassReading r s =>
    simp only [clientMove?, ht, bypassMove?] at h
    cases h
    rintro (rest | f | bytes) <;> simp [Task.Tells, place, client, Answer.isRefusal]
  | _ => exact plain fun _ => trivial

/-- A turn of a client that may still be refused: it goes back, it waits for the message that it has
put on the queue, or it passes. -/
theorem Turn.retreats (h : Turn c id e d events) (told : (c.client id).task.Tells d)
    (retreats : k.Retreats (c.client id)) (busy : (c.client id).task.isIdle = false) :
    k.Retreats d ∧ (∀ m, e ≠ .push m) ∨ k.Waits d ∧ (∃ m, e = .push m) ∨ d.Passes := by
  cases h <;> simp_all [Command.Retreats, Command.Waits, Client.Passes, Client.goTo,
    Client.answered, Client.holding, Task.Tells, Task.isIdle]
  case send s there =>
    cases s with
    | job o buffer => exact .inl retreats
    | park => exact .inr trivial
  case lost o buffer there => exact .inl (Command.refused (by decide) retreats.1)
  case giveUp => exact retreats
  case request => exact retreats
  all_goals exact .inl (Command.refused (by decide) (by simp [retreats]))

theorem Turn.waits (h : Turn c id e d events) (waits : k.Waits (c.client id))
    (busy : (c.client id).task.isIdle = false) :
    (k.Waits d ∨ d.Passes) ∧ ∀ m, e ≠ .push m := by
  cases h <;> simp_all [Command.Waits, Client.Passes, Client.goTo, Client.answered, Task.isIdle,
    Answer.isRefusal]

theorem Turn.passes (h : Turn c id e d events) (told : (c.client id).task.Tells d)
    (hs : Handshake c) (passes : (c.client id).Passes)
    (busy : (c.client id).task.isIdle = false) : d.Passes := by
  cases h <;> simp_all [Client.Passes, Client.goTo, Client.answered, Client.holding, Task.Tells,
    Task.isIdle, Answer.isRefusal]
  case noResume w there parked =>
    cases w with
    | drop => rfl
    | shutdown =>
      have closes : c.role id = .closes := by rw [Control.role, there]; rfl
      exact absurd (hs.closes id closes).1 parked

/-- A client that turns to a command has it all before it, or has its answer. -/
theorem begin?_retreats {next : Control} (h : c.begin? id k = some next) :
    (k.Retreats (next.client id) ∧ (next.client id).task.needsHold = false ∧
      (next.client id).task.role ≠ .asks ∧ (next.client id).holds = (c.client id).holds ∧
      (next.client id).outside = (c.client id).outside ∨ (next.client id).Passes) ∧
    next.queue = c.queue ∧ next.park = c.park := by
  unfold begin? at h
  split at h
  · cases h
    cases k with
    | openWindow =>
      cases hs : c.setup.strategy <;>
        simp [begin, hs, place, finish, client, Command.Retreats, Command.Refused, Command.buffer,
          GateError.refusals, Task.needsHold, Task.role]
    | unlock index =>
      simp only [begin]
      split <;> simp [place, finish, client, Client.Passes, Answer.isRefusal]
    | _ =>
      simp [begin, place, finish, client, Command.Retreats, Command.Sends, Client.Passes,
        Command.buffer, Command.isRead, Operation.isRead, Answer.isRefusal, Task.needsHold,
        Task.role, Submission.isPark, Submission.role]
  · cases h

/-- As long as a client may go back it has one hold on the flash more than at first while it opens a
window, and no guard of the spin lock from outside but those that it had. -/
theorem Turn.guards (h : Turn c id e d events)
    (before : k.Retreats (c.client id) ∨ k.Waits (c.client id)) (after : k.Retreats d ∨ k.Waits d)
    (busy : (c.client id).task.isIdle = false) {n : Nat}
    (holds : (c.client id).holds = n + (c.client id).task.needsHold.toNat) :
    d.holds = n + d.task.needsHold.toNat ∧ d.outside = (c.client id).outside := by
  cases h <;> simp_all [Command.Retreats, Command.Waits, Client.goTo, Client.answered,
    Client.holding, Task.isIdle, Task.needsHold, Submission.isPark]

end Control

namespace Gate

variable {σ : Type} {α : Type}

/-! ## What the moves leave -/

/-- What the moves do to a part of the control state they take back: they leave it as it is but for
pairs of moves, the later of which leads back to what the earlier has found. -/
inductive TakenBack (f : Control → α) : List (Gate σ × Gate σ) → Prop
  | nil : TakenBack f []
  | still {moves : List (Gate σ × Gate σ)} {p : Gate σ × Gate σ} (h : TakenBack f moves)
    (same : f p.2.control = f p.1.control) : TakenBack f (moves ++ [p])
  | back {moves between : List (Gate σ × Gate σ)} {p q : Gate σ × Gate σ} (h : TakenBack f moves)
    (same : ∀ x ∈ between, f x.2.control = f x.1.control)
    (found : f q.1.control = f p.2.control) (left : f q.2.control = f p.1.control) :
    TakenBack f (moves ++ p :: between ++ [q])

/-- A move of a client that makes no call on the device, and leaves device and mode as they are. -/
structure Aside (id : ClientId) (p : Gate σ × Gate σ) : Prop where
  silent : Silent (.client id) p.1.bus p.2.bus
  device : p.2.bus.device = p.1.bus.device
  mode : p.2.control.mode = p.1.control.mode

/-- What the moves of a client have done to the park handshake: nothing that is not taken back, or
they have just asked for the park. -/
def Parks (id : ClientId) (d : Client) (moves : List (Gate σ × Gate σ)) : Prop :=
  if d.task.role = .asks then
    ∃ before p between, moves = before ++ p :: between ∧ TakenBack (·.park) before ∧
      (∀ x ∈ between, x.2.control.park = x.1.control.park) ∧
      p.1.control.park = ⟨.running, none⟩ ∧ p.2.control.park = ⟨.requested, some id⟩
  else TakenBack (·.park) moves

/-- How far the command of a client has come, with what its moves have done so far. -/
inductive Fares (id : ClientId) (k : FlashGate.Command) (d₀ : Client)
    (moves : List (Gate σ × Gate σ)) (d : Client) : Prop
  | retreats (place : k.Retreats d) (aside : ∀ p ∈ moves, Aside id p) (parks : Parks id d moves)
    (queue : ∀ p ∈ moves, p.2.control.queue = p.1.control.queue)
    (holds : d.holds = d₀.holds + d.task.needsHold.toNat) (outside : d.outside = d₀.outside)
  | waits (place : k.Waits d) (aside : ∀ p ∈ moves, Aside id p) (parks : Parks id d moves)
    (queue : ∃ p ∈ moves, ∃ m, p.2.control.queue = p.1.control.queue ++ [m])
    (holds : d.holds = d₀.holds + d.task.needsHold.toNat) (outside : d.outside = d₀.outside)
  | passes (place : d.Passes)

variable {T : Transport σ} {id : ClientId} {k : FlashGate.Command} {d₀ d : Client} {g : Gate σ}
  {moves : List (Gate σ × Gate σ)} {p : Gate σ × Gate σ} {m : Move} {c : Control}
  {e : Control.Deed} {events : List Event}

/-! ### The park handshake -/

/-- A move that leaves the handshake as it is, and the client in it or out of it. -/
theorem Parks.still {d' : Client} (parks : Parks id d moves)
    (same : p.2.control.park = p.1.control.park)
    (role : d'.task.role = .asks ↔ d.task.role = .asks) : Parks id d' (moves ++ [p]) := by
  unfold Parks at parks ⊢
  split
  next asks =>
    rw [if_pos (role.1 asks)] at parks
    obtain ⟨before, q, between, rfl, back, kept, found, left⟩ := parks
    refine ⟨before, q, between ++ [p], by simp, back, fun x hx => ?_, found, left⟩
    rcases List.mem_append.1 hx with hx | hx
    · exact kept x hx
    · rw [List.mem_singleton.1 hx]
      exact same
  next not =>
    rw [if_neg fun asks => not (role.2 asks)] at parks
    exact .still parks same

/-- A turn that neither sends the sentinel nor resumes the dispatcher. -/
theorem Parks.turn (parks : Parks id (c.client id) moves) (turn : Control.Turn c id e d events)
    (allowed : e.Allowed c id) (hs : c.Handshake) (sent : d.task.role ≠ .sent)
    (resumes : e ≠ .resume) (before : p.1.control = c)
    (after : p.2.control.park = (e.apply c id).park) : Parks id d (moves ++ [p]) := by
  have role := turn.role
  subst before
  cases e with
  | request =>
    -- the park was free, and is the client's now
    obtain ⟨apart, asks⟩ := role
    have running : p.1.control.park.state = .running := allowed
    have free : p.1.control.park = ⟨.running, none⟩ :=
      congrArg₂ Park.mk running (hs.owner.1 running)
    rw [Parks, if_neg (by rw [← Control.role, apart]; decide)] at parks
    rw [Parks, if_pos asks]
    exact ⟨moves, p, [], rfl, parks, by simp, free, after⟩
  | withdraw =>
    -- the park was the client's, and is free again
    obtain ⟨asks, apart⟩ := role
    obtain ⟨requested, owner, -⟩ := hs.asks id asks
    have asks : (p.1.control.client id).task.role = .asks := asks
    rw [Parks, if_pos asks] at parks
    obtain ⟨before, q, between, rfl, back, kept, found, left⟩ := parks
    rw [Parks, if_neg (by rw [apart]; decide)]
    refine .back back kept ((congrArg₂ Park.mk requested owner).trans left.symm) ?_
    rw [after, found]
    show (if p.1.control.park.state = .requested then _ else _) = _
    rw [if_pos requested]
  | resume => exact absurd rfl resumes
  | push m =>
    refine parks.still after ?_
    cases m with
    | job j =>
      obtain ⟨before, after⟩ := role
      rw [after, ← Control.role, before]
    | park i => exact absurd role.2.2 sent
    | stop =>
      obtain ⟨before, after⟩ := role
      rw [after, ← Control.role, before]
      decide
  | retire =>
    obtain ⟨before, now⟩ := role
    refine parks.still after ?_
    rw [now, ← Control.role, before]
    decide
  | _ =>
    refine parks.still after ?_
    show d.task.role = .asks ↔ p.1.control.role id = .asks
    rcases role with same | ⟨before, now, -⟩ | ⟨before, now, -⟩ | ⟨before, now, -⟩ |
      ⟨before | before, now⟩ | ⟨before, -, now⟩ | ⟨before, now, -⟩
    · rw [same]
    all_goals simp [before, now]

/-! ### The moves of a command -/

/-- A move of a client that is on no duty makes no call, and leaves device and mode as they are. -/
theorem aside_of_off (sound : g.control.Sound) (off : (g.control.client id).task.isDuty = false)
    (move : g.control.move? (.client id) = some m) :
    Aside id (g, perform T .single (.client id) m g.bus) := by
  have silent := (Step.move (T := T) move).silent sound off
  obtain ⟨_, _, _, _, goes⟩ := perform_goes (T := T) move
  have mode : (perform T .single (.client id) m g.bus).control.mode = g.control.mode := by
    cases goes with
    | client h => exact h.dispatcher.2.1
  refine ⟨silent, ?_, mode⟩
  rcases Control.move?_duty move with ⟨next, events, rfl⟩ | ⟨d, script, mine, on, rfl⟩
  · rfl
  · exact absurd on (Duty.not_on_of_off off d script mine)

/-- Who may still be refused, or waits for bytes, is on no duty, and has sent no sentinel. -/
theorem off_of_retreats (h : k.Retreats d ∨ k.Waits d) :
    d.task.isDuty = false ∧ d.task.role ≠ .sent := by
  cases ht : d.task <;>
    simp_all [Command.Retreats, Command.Waits, Task.isDuty, Task.role, Closing.role, Closing.left]
  case admitting s => cases s <;> simp [Submission.role]
  case sending s => cases s <;> simp [Submission.role]
  case leaving s t =>
    cases s <;> cases t <;> simp_all [Submission.left]

theorem resumes_of_retreats (turn : Control.Turn c id e d events)
    (h : k.Retreats (c.client id) ∨ k.Waits (c.client id)) : e ≠ .resume := by
  rintro rfl
  cases turn with
  | resume w there => simp [Command.Retreats, Command.Waits, there] at h

theorem queue_apply (none : ∀ m, e ≠ .push m) : (e.apply c id).queue = c.queue := by
  cases e with
  | push m => exact absurd rfl (none m)
  | _ => rfl

/-- Every move of the client's own goes on as its command fares. -/
theorem Fares.own (fares : Fares id k d₀ moves (g.control.client id)) (sound : g.control.Sound)
    (move : g.control.move? (.client id) = some m) :
    Fares id k d₀ (moves ++ [(g, perform T .single (.client id) m g.bus)])
      ((perform T .single (.client id) m g.bus).control.client id) := by
  obtain ⟨moved, busy⟩ := busy_of_move? move
  have leads := (Control.clientMove?_turn moved).and (Control.clientMove?_tells moved)
  obtain ⟨_, _, _, _, _, ⟨e, d, turn, allowed, next⟩, told⟩ := perform_leads (T := T) leads g.bus
  have there : (perform T .single (.client id) m g.bus).control.client id = d := by
    rw [next, Control.client_turned, if_pos rfl]
  rw [there] at told ⊢
  have park : (perform T .single (.client id) m g.bus).control.park =
      (e.apply g.control id).park := by rw [next]; rfl
  have queue : (perform T .single (.client id) m g.bus).control.queue =
      (e.apply g.control id).queue := by rw [next]; rfl
  -- what the moves have left so far, and this one
  have asides (place : k.Retreats (g.control.client id) ∨ k.Waits (g.control.client id))
      (aside : ∀ p ∈ moves, Aside id p) :
      ∀ p ∈ moves ++ [(g, perform T .single (.client id) m g.bus)], Aside id p := by
    intro p hp
    rcases List.mem_append.1 hp with hp | hp
    · exact aside p hp
    · rw [List.mem_singleton.1 hp]
      exact aside_of_off sound (off_of_retreats place).1 move
  have parked (place : k.Retreats (g.control.client id) ∨ k.Waits (g.control.client id))
      (after : k.Retreats d ∨ k.Waits d) (parks : Parks id (g.control.client id) moves) :
      Parks id d (moves ++ [(g, perform T .single (.client id) m g.bus)]) :=
    parks.turn turn allowed sound.handshake (off_of_retreats after).2
      (resumes_of_retreats turn place) rfl park
  cases fares with
  | retreats place aside parks same holds outside =>
    rcases turn.retreats told place busy with ⟨after, none⟩ | ⟨after, message, rfl⟩ | passes
    · obtain ⟨holds', outside'⟩ := turn.guards (.inl place) (.inl after) busy holds
      refine .retreats after (asides (.inl place) aside) (parked (.inl place) (.inl after) parks) ?_
        holds' (outside'.trans outside)
      intro p hp
      rcases List.mem_append.1 hp with hp | hp
      · exact same p hp
      · rw [List.mem_singleton.1 hp]
        exact queue.trans (queue_apply none)
    · obtain ⟨holds', outside'⟩ := turn.guards (.inl place) (.inr after) busy holds
      exact .waits after (asides (.inl place) aside) (parked (.inl place) (.inr after) parks)
        ⟨_, List.mem_append_right _ (List.mem_singleton_self _), message, queue⟩ holds'
        (outside'.trans outside)
    · exact .passes passes
  | waits place aside parks pushed holds outside =>
    obtain ⟨after | passes, -⟩ := turn.waits place busy
    · obtain ⟨holds', outside'⟩ := turn.guards (.inr place) (.inr after) busy holds
      obtain ⟨p, hp, message, pushed⟩ := pushed
      exact .waits after (asides (.inr place) aside) (parked (.inr place) (.inr after) parks)
        ⟨p, List.mem_append_left _ hp, message, pushed⟩ holds' (outside'.trans outside)
    · exact .passes passes
  | passes place => exact .passes (turn.passes told sound.handshake place busy)

/-- What a client that turns to a command has done so far. -/
theorem fares_of_begin? (begun : g.control.begin? id k = some c) :
    Fares id k (g.control.client id) [(g, ⟨c, g.bus⟩)] (c.client id) := by
  have mode : c.mode = g.control.mode := (Control.begin?_turn begun).dispatcher.2.1
  have still : Silent (.client id) g.bus g.bus := ⟨[], by simp, by simp⟩
  obtain ⟨⟨place, free, role, holds, outside⟩ | passes, queue, park⟩ :=
    Control.begin?_retreats begun
  · refine .retreats place ?_ ?_ ?_ (by rw [holds, free]; rfl) outside
    · intro p hp
      rw [List.mem_singleton.1 hp]
      exact ⟨still, rfl, mode⟩
    · rw [Parks, if_neg role]
      exact .still .nil park
    · intro p hp
      rw [List.mem_singleton.1 hp]
      exact queue
  · exact .passes passes

/-- What the moves of a client leave when its command was refused. -/
structure RollsBack (id : ClientId) (g₀ g : Gate σ) (moves : List (Gate σ × Gate σ)) : Prop where
  /-- No move makes a call on the device, or changes the device or its mode. -/
  aside : ∀ p ∈ moves, Aside id p
  park : TakenBack (·.park) moves
  spin : netChange (·.spin.count) moves = 0
  admission : netChange (·.admission.level id) moves = 0
  /-- The client has its guards of before, and not the transport. -/
  guards : (g.control.client id).holds = (g₀.control.client id).holds ∧
    (g.control.client id).outside = (g₀.control.client id).outside ∧
    g.control.holder ≠ some (.client id)

/-- A client that was refused, or has lost its bytes, is back where it was. -/
theorem Course.rollsBack {env : σ → σ → Prop} {g₀ : Gate σ} (course : Course T env id k g₀ moves g)
    (sound : g₀.control.Sound) (before : (g₀.control.client id).task = .idle)
    (idle : (g.control.client id).task = .idle) (aside : ∀ p ∈ moves, Aside id p)
    (parks : Parks id (g.control.client id) moves)
    (holds : (g.control.client id).holds =
      (g₀.control.client id).holds + (g.control.client id).task.needsHold.toNat)
    (outside : (g.control.client id).outside = (g₀.control.client id).outside) :
    RollsBack id g₀ g moves := by
  have holds : (g.control.client id).holds = (g₀.control.client id).holds := by
    rw [holds, idle]
    rfl
  refine ⟨aside, ?_, ?_, ?_, holds, outside, fun held => ?_⟩
  · rwa [Parks, if_neg (by rw [idle]; decide)] at parks
  · rw [course.netChange_spin sound]
    simp [Client.levels, idle, before, holds, outside]
  · rw [course.netChange_admission sound]
    simp [Client.entries, idle, before, holds]
  · have there := ((course.sound sound).locks.transport _).1 held
    rw [Control.onTransport, idle] at there
    cases there

end Gate

/-- Whatever the device, which may be changed from outside at any time, and however the other
threads move meanwhile: a command that is refused, at any gate that a run reaches, has left nothing
behind of its client's own moves. None of them makes a call on the device or changes the device or
its mode; what they do to the park handshake they take back; all together they leave the count of
the spin lock and the client's levels of admission as they were; and they put nothing on the queue,
unless the command is a read that was accepted and lost with the dispatcher. In all cases the
client's buffer is as it was. -/
theorem refused_rolls_back {σ : Type} {T : Transport σ} {env : σ → σ → Prop} (config : Config)
    (opener : ClientId) (device : σ) (c : Control) (b : Bus σ)
    (start : Gate.start T config opener ⟨device, #[]⟩ = (.ok (.ok c), b)) (g₀ : Gate σ)
    (reach : Gate.Reach T env ⟨c, b⟩ g₀) (id : ClientId) (k : Command)
    (moves : List (Gate σ × Gate σ)) (g : Gate σ) (course : Gate.Course T env id k g₀ moves g)
    (idle : (g.control.client id).task = .idle) (e : GateError) (buffer : List UInt8)
    (refused : (g.control.client id).answer = some (.refused e buffer)) :
    buffer = k.buffer ∧ e ∈ GateError.refusals ∧ Gate.RollsBack id g₀ g moves ∧
      ((∀ p ∈ moves, p.2.control.queue = p.1.control.queue) ∨
        k.isRead = true ∧ e = .disconnected ∧
          ∃ p ∈ moves, ∃ m, p.2.control.queue = p.1.control.queue ++ [m]) := by
  have sound : g₀.control.Sound := by
    obtain ⟨⟨s, rfl⟩, -⟩ := Gate.opened_of_start start
    exact reach.invariant (Control.sound_opened s) fun _ _ _ _ hc goes => goes.sound hc
  have before : (g₀.control.client id).task = .idle := course.idle
  have fares : Gate.Fares id k (g₀.control.client id) moves (g.control.client id) :=
    course.invariant sound (fun _ begun => Gate.fares_of_begin? begun)
      fun _ _ _ sound fares move => fares.own sound move
  cases fares with
  | retreats place aside parks queue holds outside =>
    simp only [Command.Retreats, idle, refused] at place
    obtain ⟨_, ⟨⟩, e', he, ⟨⟩⟩ := place
    exact ⟨rfl, he, course.rollsBack sound before idle aside parks holds outside, .inl queue⟩
  | waits place aside parks pushed holds outside =>
    simp only [Command.Waits, idle, refused] at place
    obtain ⟨read, ⟨⟩⟩ := place
    exact ⟨rfl, by decide, course.rollsBack sound before idle aside parks holds outside,
      .inr ⟨read, rfl, pushed⟩⟩
  | passes place =>
    simp only [Client.Passes, idle] at place
    cases place _ refused

open Chip

/-- The small gate with a low-level window that its first client has opened. -/
def Gate.smallParked (c : Control) : Gate Chip :=
  (({ gate := ⟨c, Gate.small.2⟩ } : Session Chip).act transport 0 .openWindow).gate

/-- The moves of a second client that asks for a window as well, with nobody else moving, and where
they lead. -/
def Gate.smallRefused (c : Control) : List (Gate Chip × Gate Chip) × Gate Chip :=
  match (Gate.smallParked c).control.begin? 1 .openWindow with
  | none => ([], Gate.smallParked c)
  | some next =>
    let g := ⟨next, (Gate.smallParked c).bus⟩
    Gate.alone transport 1 8 [(Gate.smallParked c, g)] g

/-- On the small gate a second low-level window is refused after five moves, which leave nothing. -/
theorem refused_rolls_back_small : ∃ c, Gate.small.1 = .ok (.ok c) ∧
    (Gate.smallRefused c).1.length = 6 ∧
    ((Gate.smallRefused c).2.control.client 1).answer.bind Answer.refusal? =
      some (.alreadyParked, []) ∧
    Gate.RollsBack 1 (Gate.smallParked c) (Gate.smallRefused c).2 (Gate.smallRefused c).1 := by
  obtain ⟨c, opened⟩ := Gate.small_opens
  have reach : Gate.Reach transport failing ⟨c, Gate.small.2⟩ (Gate.smallParked c) :=
    Session.reach_act 0 _ .refl
  have played : Gate.ofSmall (fun c => ((Gate.smallRefused c).1.length,
      ((Gate.smallRefused c).2.control.client 1).task.isIdle,
      ((Gate.smallRefused c).2.control.client 1).answer.bind Answer.refusal?)) =
      some (6, true, some (.alreadyParked, [])) := by
    decide +kernel
  simp only [Gate.ofSmall, opened, Option.some.injEq, Prod.mk.injEq] at played
  obtain ⟨six, idle, refused⟩ := played
  have course : Gate.Course transport failing 1 .openWindow (Gate.smallParked c)
      (Gate.smallRefused c).1 (Gate.smallRefused c).2 := by
    unfold Gate.smallRefused at six ⊢
    split
    next none => simp [none] at six
    next next begun => exact Gate.Course.alone 8 (.begin begun)
  obtain ⟨a, answer, refusal⟩ := Option.bind_eq_some_iff.1 refused
  have left := refused_rolls_back _ 0 _ c _ (Gate.start_of_small opened) _ reach 1 _ _ _ course
    (Task.eq_idle idle) _ _ (answer.trans (congrArg some (Answer.eq_refused refusal)))
  exact ⟨c, opened, six, refused, left.2.2.1⟩

end FlashGate

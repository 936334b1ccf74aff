/-
A gate over the emulated chip. What its clients see is a fold over the messages that the dispatcher
is done with: `contents` for the stored bytes, `replies` for the bytes handed over. Main statement:
`Chip.judgement`, that the scripts of all threads keep chip and journal at these folds, the hardware
at the stage that the control state tells, and the journal free of breaches that the profile does
not tolerate.
-/
import FlashGate.Proofs.Device.Flat
import FlashGate.Proofs.Gateway.Contract

namespace FlashGate

/-! ## What the messages amount to -/

/-- The stored bytes after a message. -/
def Message.effect (g : Geometry) (m : Memory) : Message → Memory
  | .job j => j.operation.effect g m
  | _ => m

/-- The bytes that a message hands over. -/
def Message.reply (g : Geometry) (m : Memory) : Message → List (Ticket × List UInt8)
  | .job j => if j.operation.isRead then [(j.ticket, j.operation.reply g m)] else []
  | _ => []

/-- The stored bytes after messages. -/
def contents (g : Geometry) (m : Memory) (messages : List Message) : Memory :=
  messages.foldl (Message.effect g) m

/-- The bytes that messages hand over, one after the other. -/
def replies (g : Geometry) (m : Memory) : List Message → List (Ticket × List UInt8)
  | [] => []
  | x :: rest => x.reply g m ++ replies g (x.effect g m) rest

theorem contents_append (g : Geometry) (m : Memory) (messages : List Message) (x : Message) :
    contents g m (messages ++ [x]) = x.effect g (contents g m messages) := by
  rw [contents, List.foldl_append]
  rfl

theorem replies_append (g : Geometry) (m : Memory) (messages : List Message) (x : Message) :
    replies g m (messages ++ [x]) = replies g m messages ++ x.reply g (contents g m messages) := by
  induction messages generalizing m with
  | nil => simp [replies, contents]
  | cons y rest ih => simp [replies, ih, contents]

theorem sentinel_effect {x : Message} (h : x.isSentinel = true) (g : Geometry) (m : Memory) :
    x.effect g m = m ∧ x.reply g m = [] := by
  cases x with
  | job j => cases h
  | park id => exact ⟨rfl, rfl⟩
  | stop => exact ⟨rfl, rfl⟩

namespace Chip

open Script

variable {w : Chip} {s : Setup}

/-! ## The scripts of the threads -/

/-- How a job ends: served, with the flash lost, or without numbers for its attempts or its
addresses. -/
def Served (s : Setup) (o : Operation) (w : Chip) : Except Fault (List UInt8) → Chip → Prop
  | .ok bytes, w' => bytes = o.reply s.geometry w.memory ∧ Matches s w' ∧
    w'.At (.held (.serving o.kind)) ∧ w'.memory = o.effect s.geometry w.memory ∧
    w'.profile = w.profile
  | .error f, _ => f = .flashLost ∨
    f = .overflow ∧ (s.retry.retries.toNat = 2 ^ 32 - 1 ∨ ¬ w.profile.IsWhole)

theorem Matches.holding (h : Matches s w) (connected fast : Bool) :
    Matches s (w.holding connected fast) :=
  ⟨congrArg (Chip.holding · connected fast) h.calm, h.size, h.page, h.sector, h.memory, h.commands,
    h.calibrated, h.latch⟩

theorem always_serve (h : Matches s w) {m : Mode} (stands : w.At (.held m)) {o : Operation}
    (fits : o.Fits s) : (Control.serve s m o).Always world (Served s o w) w := by
  refine always_bind.2 (Always.mono ?_ (Transfer.always_reconfigure_to (moves_holding h.calm)
    (fun _ _ h => h.elim) (connects_holding h.calm) o.kind stands.holding))
  rintro (f | ⟨e | ⟨⟩⟩) w' hr
  · exact .inr ⟨hr.1, .inl hr.2⟩
  · exact .inl rfl
  · obtain rfl : w' = w.holding _ _ := hr
    have there : (w.holding (!o.kind.isFastRead) o.kind.isFastRead).At
        (.held (.serving o.kind)) := ⟨rfl, rfl⟩
    have matched := h.holding (!o.kind.isFastRead) o.kind.isFastRead
    refine Always.mono ?_ (always_perform matched there fits)
    rintro (f | bytes) w' hr
    · exact .inr ⟨hr.1, .inr hr.2⟩
    · obtain ⟨rfl, m, rfl⟩ := hr
      have size : (o.effect s.geometry w.memory).size = w.profile.size.toNat := by
        rw [Operation.size_effect, h.memory]
      exact ⟨rfl, (matched.storing (m := o.effect s.geometry w.memory) size).selecting m, there,
        rfl, rfl⟩

theorem always_release (h : Matches s w) {m : Mode} (stands : w.At (.held m)) :
    (Control.release s m).Always world
      (fun r w' => r = .ok [] ∧ w' = w.holding false false) w := by
  refine always_bind.2 (Always.mono ?_
    (Transfer.always_reconfigure_release (moves_holding h.calm) stands.holding))
  rintro (f | ⟨e | ⟨⟩⟩) w' hr
  · exact hr.elim
  · exact hr.elim
  · exact ⟨rfl, hr⟩

theorem always_openWindow (h : Matches s w) (stands : w.At (.held .released)) :
    Control.openWindow.Always world (fun r w' => r = .ok [] ∧ w' = w.holding false true) w := by
  have free : w = w.holding false false := (holding_of stands.1 stands.2).symm
  refine Transfer.always_after (s := do ask .fastReadSetup; ask .fastReadApplyCalibration)
    (fun _ _ h => h.elim) ((moves_holding h.calm).claim (p := {}) rfl free) fun w' hw => ?_
  exact always_bind.2 (always_log.2 ⟨rfl, hw⟩)

theorem always_shutWindow (h : Matches s w) (stands : w.At .window) :
    Control.shutWindow.Always world (fun r w' => r = .ok [] ∧ w' = w.holding false false) w := by
  have held : w = w.holding false true := (holding_of stands.1 stands.2.1).symm
  exact Transfer.always_after (fun _ _ h => h.elim)
    ((moves_holding h.calm).shutdown (p := ⟨false, true⟩) held)
    fun w' hw => ⟨rfl, hw⟩

/-! ## The judgement -/

/-- Connects are made to fail from outside. -/
def failing (chip chip' : Chip) : Prop := ∃ n, chip' = chip.failConnects n

/-- What is seen after the given messages, on a gate with the given setup that was opened on the
given bytes. -/
def SeenAfter (s : Setup) (profile : Profile) (m : Memory) (done : List Message) (b : Bus Chip)
    (w : Chip) : Prop :=
  Seen profile b w ∧ answeredIn b.journal.toList = replies s.geometry m done

/-- The chip between two duties. -/
structure Rests (s : Setup) (profile : Profile) (m : Memory) (st : Stage) (done : List Message)
    (w : Chip) : Prop where
  matched : Matches s w
  stands : w.At st
  stored : w.memory = contents s.geometry m done
  profile : w.profile = profile

variable {m : Memory} {done : List Message} {profile : Profile}

theorem seenAfter_shows (who : Actor) : world.Shows transport who (SeenAfter s profile m done) where
  call := by
    rintro b w c ⟨seen, answered⟩ permitted
    obtain ⟨w', reacts, seen'⟩ := (world_shows profile who).call b w c seen permitted
    refine ⟨w', reacts, seen', ?_⟩
    rw [answeredIn_call, answered]
  log := by
    rintro b w l ⟨seen, answered⟩
    refine ⟨(world_shows profile who).log b w l seen, ?_⟩
    rw [answeredIn_log, answered]

theorem breachesIn_aside {b : Bus Chip} {who : Actor} {events : List Event}
    (aside : ∀ e ∈ events, e.isAside = true) :
    breachesIn (b.record who events).journal.toList = breachesIn b.journal.toList := by
  have none : breachesIn (events.map (⟨who, ·⟩)) = [] := by
    rw [breachesIn, List.filterMap_eq_nil_iff]
    intro x hx
    obtain ⟨e, he, rfl⟩ := List.mem_map.1 hx
    have := aside e he
    cases e <;> first | rfl | cases this
  rw [Bus.toList_journal_record, breachesIn_append, none, List.append_nil]

theorem breachesIn_answer (b : Bus Chip) (j : Job) (bytes : List UInt8) :
    breachesIn (b.record .dispatcher (j.answer bytes)).journal.toList =
      breachesIn b.journal.toList := by
  have none : breachesIn ((j.answer bytes).map (⟨Actor.dispatcher, ·⟩)) = [] := by
    unfold Job.answer
    split <;> rfl
  rw [Bus.toList_journal_record, breachesIn_append, none, List.append_nil]

theorem seenAfter_aside {b : Bus Chip} {who : Actor} {events : List Event}
    (aside : ∀ e ∈ events, e.isAside = true) (h : SeenAfter s profile m done b w) :
    SeenAfter s profile m done (b.record who events) w := by
  obtain ⟨⟨calm, built, tolerated⟩, answered⟩ := h
  refine ⟨⟨calm, built, fun x hx => tolerated x ?_⟩, ?_⟩
  · rwa [breachesIn_aside aside] at hx
  · rw [Bus.toList_journal_record, answeredIn_append, answeredIn_aside aside, List.append_nil,
      answered]

/-- The bytes of a job are handed over as the job tells. -/
theorem seenAfter_answer {b : Bus Chip} {j : Job} {bytes : List UInt8}
    (hb : bytes = j.operation.reply s.geometry (contents s.geometry m done))
    (h : SeenAfter s profile m done b w) :
    SeenAfter s profile m (done ++ [.job j]) (b.record .dispatcher (j.answer bytes)) w := by
  obtain ⟨⟨calm, built, tolerated⟩, answered⟩ := h
  refine ⟨⟨calm, built, fun x hx => tolerated x ?_⟩, ?_⟩
  · rwa [breachesIn_answer] at hx
  · rw [Bus.toList_journal_record, answeredIn_append, answered, answeredIn_answer, replies_append,
      hb]
    rfl

/-- The chip after a job, before its bytes are handed over. -/
def Delivered (s : Setup) (profile : Profile) (m : Memory) (done : List Message) (j : Job)
    (bytes : List UInt8) (w : Chip) : Prop :=
  bytes = j.operation.reply s.geometry (contents s.geometry m done) ∧
    Rests s profile m (.held (.serving j.operation.kind)) (done ++ [.job j]) w

/-- The faults that may hit the dispatcher: the flash lost, or numbers that run out where connects
have no bound or the device ends inside of a page. -/
def MayFault (s : Setup) (profile : Profile) (f : Fault) : Prop :=
  f = .flashLost ∨ f = .overflow ∧ (s.retry.retries.toNat = 2 ^ 32 - 1 ∨ ¬ profile.IsWhole)

/-- The judgement of a gate over the emulated chip that was opened on the given bytes, while
connects are made to fail from outside. -/
def judgement (s : Setup) (profile : Profile) (m : Memory) :
    Judgement transport failing s Chip where
  W _ := world
  Seen := SeenAfter s profile m
  shows _ := seenAfter_shows
  aside := seenAfter_aside
  outside := by
    rintro done b w device ⟨n, rfl⟩ ⟨⟨calm, built, tolerated⟩, answered⟩
    exact ⟨⟨calm, built, tolerated⟩, answered⟩
  sentinel := by
    rintro done b w x sentinel ⟨seen, answered⟩
    exact ⟨seen, by rw [replies_append, (sentinel_effect sentinel _ _).2, List.append_nil,
      answered]⟩
  Rest := Rests s profile m
  Served := Delivered s profile m
  May := MayFault s profile
  serve := by
    rintro mode done w j ⟨matched, stands, stored, rfl⟩ fits -
    refine Always.mono ?_ (always_serve matched stands fits)
    rintro (f | bytes) w' hr
    · exact hr
    · obtain ⟨hb, matched', there, stored', profile'⟩ := hr
      rw [stored] at hb stored'
      exact ⟨hb, matched', there, by rw [stored', contents_append]; rfl, profile'⟩
  served := by
    rintro done j bytes b w ⟨hb, rests⟩ seen
    exact ⟨seenAfter_answer hb seen, rests⟩
  release := by
    rintro mode done w ⟨matched, stands, stored, rfl⟩
    refine Always.mono ?_ (always_release matched stands)
    rintro r w' ⟨rfl, rfl⟩ x sentinel
    refine ⟨matched.holding false false, ⟨rfl, rfl⟩, ?_, rfl⟩
    rw [contents_append, (sentinel_effect sentinel _ _).1, ← stored]
    rfl
  setUp := by
    rintro done w id ⟨matched, stands, stored, rfl⟩ fast
    refine Always.mono ?_ (always_openWindow matched stands)
    rintro r w' ⟨rfl, rfl⟩
    exact ⟨matched.holding false true, ⟨rfl, rfl, matched.calibrated fast⟩, stored, rfl⟩
  read := by
    rintro done w id r ⟨matched, ⟨connected, fast, calibrated⟩, stored, rfl⟩
    refine Always.mono ?_ (always_fastRead_in matched connected fast calibrated r.address r.buffer
      r.submode)
    rintro _ w' ⟨-, sub, rfl⟩
    exact ⟨matched.selecting sub, ⟨connected, fast, calibrated⟩, stored, rfl⟩
  shutDown := by
    rintro done w id ⟨matched, stands, stored, rfl⟩
    refine Always.mono ?_ (always_shutWindow matched stands)
    rintro r w' ⟨rfl, rfl⟩
    exact ⟨matched.holding false false, ⟨rfl, rfl⟩, stored, rfl⟩

end Chip

end FlashGate

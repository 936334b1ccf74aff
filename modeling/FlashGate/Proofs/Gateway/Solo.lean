/-
A dispatcher that is alone with its device: it is given messages one after the other and runs the
script of each to its end. Over the emulated chip a dispatcher among clients makes the calls that it
would make alone, and gets the answers that it would get alone: a low-level window leaves the chip
with another submode selected at most, and nothing that the dispatcher does depends on that. Main
statement: `Solo.contract`, that all along a run device and journal agree with the ones of the
dispatcher alone.
-/
import FlashGate.Proofs.Device.Alike
import FlashGate.Proofs.Device.BringUp

namespace FlashGate

/-! ## What the dispatcher tells -/

/-- The call of the dispatcher in an entry of the journal, with its answer. -/
def Entry.dispatched? (e : Entry) : Option Event :=
  match e.actor, e.event with
  | .dispatcher, .call c r => some (.call c r)
  | _, _ => none

/-- All calls of the dispatcher in a journal, with their answers. -/
def dispatchedIn (journal : List Entry) : List Event := journal.filterMap Entry.dispatched?

@[simp] theorem dispatchedIn_append (a b : List Entry) :
    dispatchedIn (a ++ b) = dispatchedIn a ++ dispatchedIn b := List.filterMap_append ..

/-- Entries of clients, and entries without calls, tell no call of the dispatcher. -/
theorem dispatchedIn_eq_nil {who : Actor} {events : List Event}
    (h : who ≠ .dispatcher ∨ ∀ e ∈ events, ∀ c r, e ≠ .call c r) :
    dispatchedIn (events.map (⟨who, ·⟩)) = [] := by
  rw [dispatchedIn, List.filterMap_eq_nil_iff]
  intro x hx
  obtain ⟨e, he, rfl⟩ := List.mem_map.1 hx
  rcases h with h | h
  · cases who with
    | dispatcher => exact absurd rfl h
    | client id => rfl
  · have := h e he
    cases e with
    | call c r => exact absurd rfl (this c r)
    | _ => cases who <;> rfl

namespace Bus

variable {σ : Type}

/-- The journals of two buses tell the same calls of the dispatcher, and the same bytes of reads. -/
structure Agrees (b b' : Bus σ) : Prop where
  calls : dispatchedIn b.journal.toList = dispatchedIn b'.journal.toList
  answers : answeredIn b.journal.toList = answeredIn b'.journal.toList

variable {b b' : Bus σ}

theorem Agrees.record (h : b.Agrees b') (who : Actor) (events : List Event) :
    (b.record who events).Agrees (b'.record who events) := by
  constructor
  · rw [toList_journal_record, toList_journal_record, dispatchedIn_append, dispatchedIn_append,
      h.calls]
  · rw [toList_journal_record, toList_journal_record, answeredIn_append, answeredIn_append,
      h.answers]

theorem Agrees.record_aside (h : b.Agrees b') {who : Actor} {events : List Event}
    (aside : ∀ e ∈ events, e.isAside = true) : (b.record who events).Agrees b' := by
  constructor
  · rw [toList_journal_record, dispatchedIn_append, dispatchedIn_eq_nil, List.append_nil, h.calls]
    refine .inr fun e he c r => ?_
    rintro rfl
    cases aside _ he
  · rw [toList_journal_record, answeredIn_append, answeredIn_aside aside, List.append_nil,
      h.answers]

theorem Agrees.traffic (h : b.Agrees b') {id : ClientId} {b₁ : Bus σ}
    (adds : b.AddsTraffic (.client id) b₁) : b₁.Agrees b' := by
  obtain ⟨events, plain, journal⟩ := adds
  constructor
  · rw [journal, dispatchedIn_append, dispatchedIn_eq_nil (.inl (by simp)), List.append_nil,
      h.calls]
  · rw [journal, answeredIn_append, answeredIn_traffic plain, List.append_nil, h.answers]

end Bus

/-! ## A dispatcher alone -/

/-- A dispatcher alone with its device, and the mode that it is in. -/
structure Solo (σ : Type) where
  mode : Mode := .released
  bus : Bus σ

namespace Solo

variable {σ : Type} (T : Transport σ) (s : Setup)

/-- Does what the message asks for: a job, or the release of the hardware. A fault ends the work
on the message. -/
def take (x : Solo σ) : Message → Solo σ
  | .job j =>
    match (Control.serve s x.mode j.operation).run T .dispatcher x.bus with
    | (.ok bytes, b) => ⟨.serving j.operation.kind, b.record .dispatcher (j.answer bytes)⟩
    | (.error _, b) => ⟨x.mode, b⟩
  | _ =>
    match (Control.release s x.mode).run T .dispatcher x.bus with
    | (.ok _, b) => ⟨.released, b⟩
    | (.error _, b) => ⟨x.mode, b⟩

/-- Does what the messages ask for, one after the other. -/
def run (x : Solo σ) (messages : List Message) : Solo σ := messages.foldl (take T s) x

theorem run_append (x : Solo σ) (messages : List Message) (m : Message) :
    run T s x (messages ++ [m]) = (run T s x messages).take T s m := by
  rw [run, List.foldl_append]
  rfl

theorem run_queueDepth (x : Solo σ) (messages : List Message) (depth : Nat) :
    run T { s with queueDepth := depth } x messages = run T s x messages := by
  have take_eq : take T { s with queueDepth := depth } = take T s := by
    funext x m
    cases m with
    | job j => cases h : j.operation <;> simp only [take, h] <;> rfl
    | _ => rfl
  rw [run, run, take_eq]

end Solo

/-! ## Scripts among clients and alone -/

open Chip Script

/-- The script goes on among clients as it does on a bus alone, where it ends as given. -/
def Along {α : Type} (script : Script α) (b : Bus Chip) (whole : Except Fault α × Bus Chip) :
    Prop :=
  ∃ known r, b.Agrees r ∧ Alike known b.device r.device ∧
    script.Always World.selected (fun _ _ => True) known ∧
    script.run transport .dispatcher r = whole

/-- A call among clients is answered as it is alone. -/
theorem call_alike {known : Bool} {b r : Bus Chip} (agrees : b.Agrees r)
    (alike : Alike known b.device r.device) {c : Call}
    (permitted : World.selected.permits known c) :
    (b.call transport .dispatcher c).1 = (r.call transport .dispatcher c).1 ∧
      (b.call transport .dispatcher c).2.Agrees (r.call transport .dispatcher c).2 ∧
      Alike (known || c.isSelect) (b.call transport .dispatcher c).2.device
        (r.call transport .dispatcher c).2.device := by
  obtain ⟨reply, alike⟩ := perform_alike alike permitted
  have told {b : Bus Chip} : dispatchedIn (b.call transport .dispatcher c).2.journal.toList =
      dispatchedIn b.journal.toList ++ [.call c (transport.perform b.device c).reply] := by
    rw [Bus.toList_journal_call, dispatchedIn_append, List.map_cons, ← List.singleton_append,
      dispatchedIn_append, dispatchedIn_eq_nil, List.append_nil]
    · rfl
    · refine .inr fun e he c r => ?_
      obtain ⟨x, -, rfl⟩ := List.mem_map.1 he
      simp
  have same : (transport.perform b.device c).reply = (transport.perform r.device c).reply := reply
  refine ⟨reply, ⟨?_, ?_⟩, alike⟩
  · rw [told, told, same, agrees.calls]
  · rw [answeredIn_call, answeredIn_call, agrees.answers]

/-- One turn of the dispatcher's script among clients is one turn alone. -/
theorem Along.step {α : Type} {script : Script α} {b : Bus Chip}
    {whole : Except Fault α × Bus Chip} (h : Along script b whole) :
    match script.step transport .dispatcher b with
    | (.unfinished rest, b') => Along rest b' whole
    | (.finished res, b') =>
      whole.1 = res ∧ b'.Agrees whole.2 ∧ Alike false b'.device whole.2.device := by
  obtain ⟨known, r, agrees, alike, always, rfl⟩ := h
  cases script with
  | done a => exact ⟨rfl, agrees, alike.1, by simp⟩
  | fault f => exact ⟨rfl, agrees, alike.1, by simp⟩
  | note l rest => exact ⟨known, r.log .dispatcher l, agrees.record .dispatcher [.log l], alike,
      always, rfl⟩
  | call c rest =>
    obtain ⟨permitted, reacts⟩ := always
    obtain ⟨reply, agrees, alike⟩ := call_alike agrees alike permitted
    rw [Script.run_call, Script.step]
    rcases hb : b.call transport .dispatcher c with ⟨f | x, b'⟩ <;>
      rcases hr : r.call transport .dispatcher c with ⟨f' | x', r'⟩ <;>
      rw [hb, hr] at reply agrees alike <;> cases reply
    · exact ⟨rfl, agrees, alike.1, by simp⟩
    · exact ⟨_, r', agrees, alike, reacts (.ok x) _ rfl, rfl⟩
  | untilReady rest =>
    obtain ⟨polls, always⟩ := always
    obtain ⟨reply, agrees, alike⟩ := call_alike agrees alike (polls .maskInterrupts rfl).1
    rw [Script.run_eq, Script.step, Script.step]
    rcases hb : b.call transport .dispatcher .maskInterrupts with ⟨f | x, b'⟩ <;>
      rcases hr : r.call transport .dispatcher .maskInterrupts with ⟨f' | x', r'⟩ <;>
      rw [hb, hr] at reply agrees alike <;> cases reply
    · exact ⟨rfl, agrees, alike.1, by simp⟩
    · refine ⟨_, r', agrees, alike, ?_, rfl⟩
      rw [show (known || Call.maskInterrupts.isSelect) = known from Bool.or_false _]
      exact always_poll polls always x

/-! ## The contract -/

/-- The chip as a low-level window has it, told by the chip of the dispatcher alone. -/
def Lent (d d' : Chip) : Prop := ∃ m, d = { d'.submoded m with fastReadActive := true }

namespace Solo

variable (s : Setup) (x : Solo Chip)

/-- A dispatcher alone with the chip that a gate was opened on, after the given messages. -/
def after (device : Chip) (done : List Message) : Solo Chip :=
  run transport s { bus := ⟨device, #[]⟩ } done

/-- The dispatcher alone does not hold the hardware that a low-level window needs. -/
def IsFree : Prop := x.mode = .released ∧ x.bus.device.fastReadActive = false

/-- How a gate rests, told by the dispatcher alone. -/
def Rests (st : Stage) (b : Bus Chip) : Prop :=
  b.Agrees x.bus ∧ match st with
    | .held m => x.mode = m ∧ Alike false b.device x.bus.device
    | .window => x.IsFree ∧ Lent b.device x.bus.device

/-- How a script of a client leaves the chip. -/
def Leaves : Duty → Except Fault (List UInt8) → Chip → Prop
  | .shutDown .., .ok _, w => Alike false w x.bus.device
  | _, _, w => Lent w x.bus.device

/-- How a script goes on, told by the dispatcher alone. -/
def Runs (d : Duty) (script : Script (List UInt8)) (b : Bus Chip) : Prop :=
  match d with
  | .serve j =>
    Along script b ((Control.serve s x.mode j.operation).run transport .dispatcher x.bus)
  | .release _ => Along script b ((Control.release s x.mode).run transport .dispatcher x.bus)
  | d => b.Agrees x.bus ∧ x.IsFree ∧ script.Always (World.exact transport) (x.Leaves d) b.device

/-- How a script has ended, told by the dispatcher alone. -/
def Ends (d : Duty) (r : Except Fault (List UInt8)) (b : Bus Chip) : Prop :=
  let ended (whole : Except Fault (List UInt8) × Bus Chip) :=
    whole.1 = r ∧ b.Agrees whole.2 ∧ Alike false b.device whole.2.device
  match d with
  | .serve j => ended ((Control.serve s x.mode j.operation).run transport .dispatcher x.bus)
  | .release _ => ended ((Control.release s x.mode).run transport .dispatcher x.bus)
  | d => b.Agrees x.bus ∧ x.IsFree ∧ x.Leaves d r b.device

variable {s x} {b : Bus Chip} {d : Duty} {script : Script (List UInt8)}

theorem Runs.step (h : x.Runs s d script b) :
    Script.Carries (x.Runs s d) (x.Ends s d) (script.step transport d.actor b) := by
  -- the scripts of clients leave nothing that the dispatcher tells
  have client (id : ClientId) (actor : d.actor = .client id)
      (h : b.Agrees x.bus ∧ x.IsFree ∧
        script.Always (World.exact transport) (x.Leaves d) b.device) :
      Script.Carries (fun script b => b.Agrees x.bus ∧ x.IsFree ∧
          script.Always (World.exact transport) (x.Leaves d) b.device)
        (fun r b => b.Agrees x.bus ∧ x.IsFree ∧ x.Leaves d r b.device)
        (script.step transport d.actor b) := by
    obtain ⟨agrees, free, always⟩ := h
    rw [actor]
    have agrees := agrees.traffic (script.addsTraffic_step transport (.client id) b)
    obtain ⟨w, hw, h⟩ := Script.Always.step (World.exact_shows transport (.client id)) always rfl
    rcases hs : script.step transport (.client id) b with ⟨rest | r, b'⟩ <;>
      rw [hs] at agrees hw h <;> subst hw <;> exact ⟨agrees, free, h⟩
  cases d with
  | serve j =>
    have next := Along.step h
    rcases hs : script.step transport (Duty.serve j).actor b with ⟨rest | r, b'⟩ <;>
      rw [show script.step transport .dispatcher b = _ from hs] at next <;> exact next
  | release l =>
    have next := Along.step h
    rcases hs : script.step transport (Duty.release l).actor b with ⟨rest | r, b'⟩ <;>
      rw [show script.step transport .dispatcher b = _ from hs] at next <;> exact next
  | setUp id => exact client id rfl h
  | shutDown id w => exact client id rfl h
  | read id r => exact client id rfl h

theorem Runs.aside (h : x.Runs s d script b) {who : Actor} {events : List Event}
    (aside : ∀ e ∈ events, e.isAside = true) : x.Runs s d script (b.record who events) := by
  have along {α : Type} {script : Script α} {whole : Except Fault α × Bus Chip} :
      Along script b whole → Along script (b.record who events) whole := by
    rintro ⟨known, r, agrees, rest⟩
    exact ⟨known, r, agrees.record_aside aside, rest⟩
  cases d with
  | serve j => exact along h
  | release l => exact along h
  | _ => exact ⟨h.1.record_aside aside, h.2⟩

/-! ### The scripts of a window -/

theorem always_openWindow (id : ClientId) {w : Chip} (alike : Alike false w x.bus.device) :
    Control.openWindow.Always (World.exact transport) (x.Leaves (.setUp id)) w := by
  obtain ⟨⟨m, rfl⟩, -⟩ := alike
  exact always_bind.2 (always_exact (always_bind.2 (always_exact (always_bind.2 (always_log.2
    ⟨m, rfl⟩)))))

/-- A read through the window selects a submode, and leaves the interrupts as they were. -/
theorem always_fastRead (id : ClientId) (r : Bypass) (g : Geometry) (chunk : Nat) {w : Chip}
    (lent : Lent w x.bus.device) :
    (Transfer.fastRead g chunk r.address r.buffer (some r.submode)).Always (World.exact transport)
      (x.Leaves (.read id r)) w := by
  refine always_bind.2 (always_log.2 (Always.mono ?_ (Transfer.always_readChunked
    (I := fun _ _ w => Lent w x.bus.device) (E := fun _ w => Lent w x.bus.device)
    (fun _ _ _ _ lent _ => lent) ?_ lent)))
  · rintro (f | bytes) w lent <;> exact lent
  rintro p rest bytes _ buffer ⟨m, rfl⟩ - -
  have fetched (d : Chip) : ∃ part, (transport.perform d (.fastRead p.address buffer)).reply =
      .ok part ∧ (transport.perform d (.fastRead p.address buffer)).device = d := by
    show ∃ part, (d.fastRead p.address buffer).reply = .ok part ∧
      (d.fastRead p.address buffer).device = d
    unfold Chip.fastRead
    dsimp only
    split <;> exact ⟨_, rfl, rfl⟩
  refine always_bind.2 (always_exact (always_bind.2 (always_exact (always_bind.2
    (always_exact ?_)))))
  obtain ⟨part, reply, device⟩ := fetched (transport.perform (transport.perform
    ({ x.bus.device.submoded m with fastReadActive := true } : Chip)
    (.fastReadSetMode r.submode)).device .maskInterrupts).device
  rw [reply, device]
  exact always_bind.2 (always_exact ⟨r.submode, rfl⟩)

theorem always_shutWindow (id : ClientId) (c : Closing) (free : x.IsFree) {w : Chip}
    (lent : Lent w x.bus.device) :
    Control.shutWindow.Always (World.exact transport) (x.Leaves (.shutDown id c)) w := by
  obtain ⟨m, rfl⟩ := lent
  have released : ({ x.bus.device.submoded m with fastReadActive := false } : Chip) =
      x.bus.device.submoded m :=
    congrArg (fun active => { x.bus.device.submoded m with fastReadActive := active }) free.2.symm
  exact always_bind.2 (always_exact ⟨⟨m, released⟩, by simp⟩)

/-! ### All along a run -/

theorem after_append (s : Setup) (device : Chip) (done : List Message) (m : Message) :
    after s device (done ++ [m]) = (after s device done).take transport s m := run_append ..

theorem take_job {whole : Except Fault (List UInt8) × Bus Chip} {j : Job} {bytes : List UInt8}
    (h : (Control.serve s x.mode j.operation).run transport .dispatcher x.bus = whole)
    (ok : whole.1 = .ok bytes) : x.take transport s (.job j) =
      ⟨.serving j.operation.kind, whole.2.record .dispatcher (j.answer bytes)⟩ := by
  obtain ⟨r, b⟩ := whole
  obtain rfl : r = .ok bytes := ok
  simp only [take, h]

theorem take_sentinel {whole : Except Fault (List UInt8) × Bus Chip} {m : Message}
    (sentinel : m.isSentinel = true) {bytes : List UInt8}
    (h : (Control.release s x.mode).run transport .dispatcher x.bus = whole)
    (ok : whole.1 = .ok bytes) : x.take transport s m = ⟨.released, whole.2⟩ := by
  obtain ⟨r, b⟩ := whole
  obtain rfl : r = .ok bytes := ok
  cases m with
  | job j => cases sentinel
  | _ => simp only [take, h]

/-- The bytes handed over so far are those of the dispatcher alone. -/
def Answers (x : Solo Chip) (b : Bus Chip) : Prop :=
  answeredIn b.journal.toList = answeredIn x.bus.journal.toList

theorem Answers.step (h : x.Answers b) (script : Script (List UInt8)) (who : Actor) :
    x.Answers (script.step transport who b).2 := by
  obtain ⟨traffic, plain, journal⟩ := script.addsTraffic_step transport who b
  rw [Answers, journal, answeredIn_append, answeredIn_traffic plain, List.append_nil, h]

theorem Answers.aside (h : x.Answers b) {who : Actor} {events : List Event}
    (aside : ∀ e ∈ events, e.isAside = true) : x.Answers (b.record who events) := by
  rw [Answers, Bus.toList_journal_record, answeredIn_append, answeredIn_aside aside,
    List.append_nil, h]

/-- Over the emulated chip, and as long as nobody changes it from outside, device and journal of a
gate agree at every moment with the ones of the dispatcher alone. -/
def contract (s : Setup) (profile : Profile) (memory : Memory) (device : Chip) :
    Contract transport Gate.undisturbed s :=
  let K := (judgement s profile memory).contract
  { Holds := fun done b => K.Holds done b ∧ (after s device done).Answers b
    Rest := fun st done b => K.Rest st done b ∧ (after s device done).Rests st b
    Runs := fun d done script b => K.Runs d done script b ∧ (after s device done).Answers b ∧
      (after s device done).Runs s d script b
    Ends := fun d done r b => K.Ends d done r b ∧ (after s device done).Answers b ∧
      (after s device done).Ends s d r b
    May := K.May
    holds_rest := fun h => ⟨K.holds_rest h.1, h.2.1.answers⟩
    holds_runs := fun h => ⟨K.holds_runs h.1, h.2.1⟩
    holds_ends := fun h => ⟨K.holds_ends h.1, h.2.1⟩
    aside_holds := fun aside h => ⟨K.aside_holds aside h.1, h.2.aside aside⟩
    aside_rest := fun aside h =>
      ⟨K.aside_rest aside h.1, h.2.1.record_aside aside, h.2.2⟩
    aside_runs := fun aside h =>
      ⟨K.aside_runs aside h.1, h.2.1.aside aside, h.2.2.aside aside⟩
    outside_holds := fun h => h.elim
    outside_rest := fun h => h.elim
    outside_runs := fun h => h.elim
    carries := by
      rintro d done script b ⟨runs, answers, alone⟩
      have carries := K.carries runs
      have answers := answers.step script d.actor
      have alone := alone.step
      rcases hs : script.step transport d.actor b with ⟨rest | r, b'⟩ <;>
        rw [hs] at carries answers alone <;> exact ⟨carries, answers, alone⟩
    serve := by
      rintro m done b j ⟨rest, agrees, rfl, alike⟩ fits -
      exact ⟨K.serve rest fits trivial, agrees.answers, _, _, agrees, alike,
        Transfer.selected_serve ..,
        rfl⟩
    served := by
      rintro done b j bytes ⟨ends, -, ok, agrees, alike⟩
      refine ⟨K.served ends, ?_⟩
      rw [after_append, take_job rfl ok]
      exact ⟨agrees.record .., rfl, alike⟩
    serve_fault := fun h => K.serve_fault h.1
    release := by
      rintro m done b l ⟨rest, agrees, rfl, alike⟩
      exact ⟨K.release rest, agrees.answers, _, _, agrees, alike, Transfer.selected_release ..,
        rfl⟩
    released := by
      rintro done b l bytes m ⟨ends, -, ok, agrees, alike⟩ sentinel
      refine ⟨K.released ends sentinel, ?_⟩
      rw [after_append, take_sentinel sentinel rfl ok]
      exact ⟨agrees, rfl, alike⟩
    release_fault := fun h => K.release_fault h.1
    setUp := by
      rintro done b id ⟨rest, agrees, mode, alike⟩ fast
      refine ⟨K.setUp rest fast, agrees.answers, agrees, ⟨mode, ?_⟩, always_openWindow id alike⟩
      -- the chip has its fast-read hardware released, and so has the one of the dispatcher alone
      obtain ⟨w, ⟨⟨calm, -, -⟩, -⟩, rests⟩ := rest
      obtain ⟨⟨m, device⟩, -⟩ := alike
      have released : b.device.calm.fastReadActive = false := by rw [calm]; exact rests.stands.2
      rwa [device] at released
    opened := by
      rintro done b id r ⟨ends, -, agrees, free, lent⟩
      exact ⟨K.opened ends, agrees, free, lent⟩
    read := by
      rintro done b id r ⟨rest, agrees, free, lent⟩
      exact ⟨K.read rest, agrees.answers, agrees, free, always_fastRead id r _ _ lent⟩
    hasRead := by
      rintro done b id r result ⟨ends, -, agrees, free, lent⟩
      exact ⟨K.hasRead ends, agrees, free, lent⟩
    shutDown := by
      rintro done b id w ⟨rest, agrees, free, lent⟩
      exact ⟨K.shutDown rest, agrees.answers, agrees, free, always_shutWindow id w free lent⟩
    shut := by
      rintro done b id w bytes ⟨ends, -, agrees, free, alike⟩
      exact ⟨K.shut ends, agrees, free.1, alike⟩
    shut_fault := by
      rintro done b id w f ⟨ends, -, agrees, free, lent⟩
      exact ⟨K.shut_fault ends, agrees, free, lent⟩ }

end Solo

/-! ## Opening -/

/-- The bus of a dispatcher alone with a chip of the profile and the given bytes, after bring-up and
the given messages. -/
def Chip.alone (profile : Profile) (data : List UInt8) (config : Config)
    (messages : List Message) : Bus Chip :=
  match Gate.start transport config 0 ⟨make profile data, #[]⟩ with
  | (.ok (.ok c), b) => (Solo.after c.setup b.device messages).bus
  | (_, b) => b

variable {profile : Profile} {data : List UInt8} {config : Config} {depth : Nat} {id : ClientId}
  {c : Control} {b : Bus Chip}

/-- Neither the depth of the queue nor the client that opens the gate are seen by a dispatcher
alone. -/
theorem Chip.alone_eq (ready : profile.connectFailures = 0)
    (start : Gate.start transport { config with queueDepth := depth } id ⟨make profile data, #[]⟩ =
      (.ok (.ok c), b)) (messages : List Message) :
    alone profile data config messages = (Solo.after c.setup b.device messages).bus := by
  have fresh : (make profile data).IsFresh := ⟨rfl, rfl, rfl, rfl⟩
  obtain ⟨g, hg⟩ := ofSizes_of_start fresh start
  have left : (make profile data).connectFailuresLeft = 0 := ready
  obtain ⟨opened, device⟩ := start_eq left hg { config with queueDepth := depth } id
  obtain ⟨opened₀, device₀⟩ := start_eq left hg config 0
  rw [start] at opened device
  obtain rfl := Except.ok.inj (Except.ok.inj opened)
  unfold alone
  rcases h : Gate.start transport config 0 ⟨make profile data, #[]⟩ with ⟨r, b₀⟩
  rw [h] at opened₀ device₀
  obtain rfl : r = _ := opened₀
  have same : b₀.device = b.device := device₀.trans device.symm
  simp only [same]
  exact congrArg Solo.bus (Solo.run_queueDepth transport _ _ messages depth).symm

theorem Solo.stands_of_start (start : Gate.start transport config id ⟨make profile data, #[]⟩ =
      (.ok (.ok c), b)) : ∃ s : Setup, c = { setup := s } ∧
    (contract s profile (make profile data).memory b.device).Stands ⟨c, b⟩ [] := by
  have fresh : (make profile data).IsFresh := ⟨rfl, rfl, rfl, rfl⟩
  obtain ⟨s, rfl, -, -, -, taken, rest⟩ := start_opened fresh start
  refine ⟨s, rfl, Contract.Stands.opened ⟨rest, ?_, rfl, ⟨_, rfl⟩, by simp⟩ taken⟩
  have traffic := Gate.addsTraffic_start transport config id ⟨make profile data, #[]⟩
  rw [start] at traffic
  exact Bus.Agrees.traffic ⟨rfl, rfl⟩ traffic

end FlashGate

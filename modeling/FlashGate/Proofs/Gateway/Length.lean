/-
The lengths of what a gate hands over. Main statement: `lengths_of_reach`, that over a device whose
reads fill their buffers every read that the dispatcher is done with has been answered once, under
its ticket and with as many bytes as it asked for, and in the order in which the reads were taken.
-/
import FlashGate.Proofs.Gateway.Contract
import FlashGate.Proofs.Transfer

namespace FlashGate

/-- Whether an answer fills the buffer of a read. -/
def Call.Fills : (c : Call) → c.Reply → Prop
  | .readRaw _ _ buffer, (bytes : List UInt8) => bytes.length = buffer.length
  | .fastRead _ buffer, (bytes : List UInt8) => bytes.length = buffer.length
  | _, _ => True

/-- The reads of the device fill their buffers. -/
def Transport.Fills {σ : Type} (T : Transport σ) : Prop :=
  ∀ d c r, (T.perform d c).reply = .ok r → c.Fills r

/-- A read as a message asks for it: its ticket, and its length. -/
def Message.read? : Message → Option (Ticket × Nat)
  | .job j => if j.operation.isRead then some (j.ticket, j.operation.length) else none
  | _ => none

/-- The reads among the messages, in order. -/
def readsOf (messages : List Message) : List (Ticket × Nat) := messages.filterMap Message.read?

@[simp] theorem readsOf_append (a b : List Message) : readsOf (a ++ b) = readsOf a ++ readsOf b :=
  List.filterMap_append ..

/-- The lengths of the bytes that a journal hands over, in order. -/
def lengthsIn (journal : List Entry) : List (Ticket × Nat) :=
  (answeredIn journal).map fun r => (r.1, r.2.length)

/-- The world of an observer who knows that reads fill their buffers. -/
def World.filling : World Unit where
  permits _ _ := True
  reacts _ c r _ := ∀ x, r = .ok x → c.Fills x

namespace Length

open Script

theorem polls {E : Fault → Unit → Prop} (h : ∀ f, E f ()) : World.filling.Polls E () := by
  refine fun c _ => ⟨trivial, fun r w _ => ?_⟩
  cases r with
  | error f => exact h f
  | ok x => rfl

theorem always_masked (c : Call) : (masked c).Always World.filling
    (fun r _ => ∀ x, r = .ok x → c.Fills x) () := by
  refine Script.always_masked (polls nofun) trivial fun r w fills => ?_
  cases r with
  | error f => exact nofun
  | ok x => exact ⟨polls nofun, fills⟩

/-- A read in chunks fills its buffer if its fetches do. -/
theorem always_readChunked {g : Geometry} {chunk : Nat}
    {fetch : Piece → List UInt8 → Script (List UInt8)}
    (fills : ∀ p buffer, (fetch p buffer).Always World.filling
      (fun r _ => ∀ part, r = .ok part → part.length = buffer.length) ())
    (address : UInt32) (buffer : List UInt8) :
    (Transfer.readChunked g chunk fetch address buffer).Always World.filling
      (fun r _ => ∀ bytes, r = .ok bytes → bytes.length = buffer.length) () := by
  refine Always.mono ?_ (Transfer.always_readChunked (E := fun _ _ => True)
    (I := fun pieces bytes _ =>
      bytes.length + (pieces.map fun p => p.length + p.fill).sum = buffer.length) ?_ ?_ ?_)
  · rintro (f | bytes) w h x hx
    · cases hx
    · cases hx
      simpa using h
  · intro p rest bytes w h hp
    simp only [List.map_cons, List.sum_cons, hp, List.length_append, List.length_replicate] at h ⊢
    omega
  · intro p rest bytes w part h _ hpart
    refine Always.mono ?_ (fills p part)
    rintro (f | filled) w hf
    · trivial
    · have := hf filled rfl
      simp only [List.map_cons, List.sum_cons, List.length_append, List.length_replicate] at h ⊢
      omega
  · rw [Geometry.pieces, g.sum_piecesFrom, List.length_nil, Nat.zero_add]

/-- An operation that reads hands over as many bytes as it asks for. -/
theorem always_perform (s : Setup) {o : Operation} (read : o.isRead = true) :
    (Control.perform s o).Always World.filling
      (fun r _ => ∀ bytes, r = .ok bytes → bytes.length = o.length) () := by
  have zeros (n : Nat) : (Control.zeros n).length = n := List.length_replicate
  cases o with
  | read address length =>
    refine always_bind.2 (always_log.2 (Always.mono (fun r w h bytes hr => ?_) (always_readChunked
      (fun p buffer => always_masked (.readRaw s.commands.read p.address buffer)) _ _)))
    rw [h bytes hr, zeros]
    rfl
  | fastRead submode address length =>
    refine always_bind.2 (Always.mono (fun r w _ => ?_) (always_unit (fun _ => trivial)
        (ask (.fastReadSetMode submode))))
    cases r with
    | error f => exact nofun
    | ok x =>
      refine always_bind.2 (always_log.2 (Always.mono (fun r w h bytes hr => ?_)
        (always_readChunked (fun p buffer => always_masked (.fastRead p.address buffer)) _ _)))
      rw [h bytes hr, zeros]
      rfl
  | write => cases read
  | erase => cases read

theorem always_serve (s : Setup) (m : Mode) {o : Operation} (read : o.isRead = true) :
    (Control.serve s m o).Always World.filling
      (fun r _ => ∀ bytes, r = .ok bytes → bytes.length = o.length) () := by
  refine always_bind.2 (Always.mono ?_ (always_unit (fun _ => trivial) _))
  rintro (f | ⟨e | ⟨⟩⟩) w -
  · exact nofun
  · exact always_bind.2 (always_log.2 nofun)
  · exact always_perform s read

/-! ## The judgement -/

variable {σ : Type} {T : Transport σ}

/-- The answers so far are to the reads that the dispatcher is done with, one for each and as long
as asked for. -/
def judgement (fills : T.Fills) (env : σ → σ → Prop) (s : Setup) : Judgement T env s Unit where
  W _ := .filling
  Seen done b _ := lengthsIn b.journal.toList = readsOf done
  shows done who := {
    call := by
      intro b w c seen _
      refine ⟨(), fills b.device c, ?_⟩
      rwa [lengthsIn, answeredIn_call]
    log := by
      intro b w l seen
      rwa [lengthsIn, answeredIn_log] }
  aside := by
    intro done b w who events aside seen
    rwa [lengthsIn, Bus.toList_journal_record, answeredIn_append, answeredIn_aside aside,
      List.append_nil]
  outside _ seen := seen
  sentinel := by
    intro done b w m sentinel seen
    rw [readsOf_append, seen]
    cases m with
    | job j => cases sentinel
    | _ => exact (List.append_nil _).symm
  Rest _ _ _ := True
  Served _ j bytes _ := j.operation.isRead = true → bytes.length = j.operation.length
  May _ := True
  serve := by
    intro m done w j _ _ _
    cases read : j.operation.isRead with
    | false =>
      refine Always.mono (fun r w _ => ?_) (always_unit (fun _ => trivial) _)
      cases r with
      | error f => trivial
      | ok bytes => exact nofun
    | true =>
      refine Always.mono (fun r w h => ?_) (always_serve s m read)
      cases r with
      | error f => trivial
      | ok bytes => exact fun _ => h bytes rfl
  served := by
    intro done j bytes b w served seen
    refine ⟨?_, trivial⟩
    rw [lengthsIn, Bus.toList_journal_record, answeredIn_append, List.map_append, answeredIn_answer,
      readsOf_append, ← seen, lengthsIn]
    refine congrArg _ ?_
    unfold readsOf Message.read?
    cases read : j.operation.isRead with
    | false => simp [read]
    | true => simp [read, served read]
  release _ := by
    refine Always.mono (fun r w _ => ?_) (always_unit (fun _ => trivial) _)
    cases r <;> simp
  setUp _ _ := Always.mono (fun _ _ _ => trivial) (always_unit (fun _ => trivial) _)
  read _ := Always.mono (fun _ _ _ => trivial) (always_unit (fun _ => trivial) _)
  shutDown _ := by
    refine Always.mono (fun r w _ => ?_) (always_unit (fun _ => trivial) _)
    cases r <;> trivial

end Length

/-- At every moment of a run from the start of a gate, the reads that the dispatcher is done with
have been answered, each once and with as many bytes as it asked for. -/
theorem lengths_of_reach {σ : Type} {T : Transport σ} (fills : T.Fills) {env : σ → σ → Prop}
    {config : Config} {id : ClientId} {device : σ} {c : Control} {b : Bus σ}
    (start : Gate.start T config id ⟨device, #[]⟩ = (.ok (.ok c), b)) {g : Gate σ}
    (reach : Gate.Reach T env ⟨c, b⟩ g) : ∃ done current,
      takenIn g.bus.journal.toList = done ++ current ∧
        Control.Pending g.control.dispatcher current ∧
        lengthsIn g.bus.journal.toList = readsOf done := by
  obtain ⟨⟨s, rfl⟩, traffic, plain, journal⟩ := Gate.opened_of_start start
  have nothing := takenIn_start T config id device
  rw [start] at nothing
  have silent : lengthsIn b.journal.toList = readsOf [] := by
    rw [lengthsIn, journal, answeredIn_traffic plain]
    rfl
  obtain ⟨-, done, stands⟩ := Contract.reach (K := (Length.judgement fills env s).contract)
    (.opened ⟨(), silent, trivial⟩ nothing) (Control.sound_opened s) reach
  obtain ⟨current, taken, pending⟩ := stands.taken
  obtain ⟨_, seen⟩ := stands.holds
  exact ⟨done, current, taken, pending, seen⟩

end FlashGate

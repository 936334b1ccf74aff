/-
Interrupts are masked around each wire transaction, and around nothing else. Main statement:
`masks_transactions`, that the calls of a read, a fast read, a write, an erase and a wait are those
of `Exchange.Guarded` on every device, and that an operation whose calls are all answered leaves the
interrupts masked as they were before it.
-/
import FlashGate.Chip
import FlashGate.Proofs.Transcript

namespace FlashGate

/-- Whether a call is a transaction on the wire. -/
def Call.isWire : Call → Bool
  | .readRaw .. => true
  | .sendCommand _ => true
  | .programPage .. => true
  | .eraseSector .. => true
  | .isBusy => true
  | .fastRead .. => true
  | _ => false

/-! ## Masked regions -/

namespace Exchange

/-- Regions with interrupts masked, one after the other. Each holds one transaction on the wire and
nothing else, and ends with the token that its mask has returned. Between them a submode may be
selected. -/
inductive Guarded : List Exchange → Prop
  | nil : Guarded []
  | region (token : UInt32) {c : Call} (x : c.Reply) {t : List Exchange} (wire : c.isWire = true)
    (rest : Guarded t) : Guarded (masked token c x ++ t)
  | select (m : Submode) {t : List Exchange} (rest : Guarded t) :
    Guarded (⟨.fastReadSetMode m, ()⟩ :: t)

variable {t t' : List Exchange}

theorem guarded_masked (token : UInt32) {c : Call} (x : c.Reply) (wire : c.isWire = true) :
    Guarded (masked token c x) := .region token x wire .nil

theorem Guarded.append (h : Guarded t) (h' : Guarded t') : Guarded (t ++ t') := by
  induction h with
  | nil => exact h'
  | region token x wire rest ih =>
    rw [List.append_assoc]
    exact .region token x wire ih
  | select m rest ih => exact .select m ih

theorem Waits.guarded (h : Waits t) : Guarded t := by
  induction h with
  | ready token => exact guarded_masked token (c := .isBusy) false rfl
  | busy token waits ih => exact .region token (c := .isBusy) true rfl ih

/-- A transaction on the wire comes right after a mask and right before the restore of its token,
and what is said before the mask and after the restore is guarded as well. -/
theorem Guarded.around (h : Guarded t) : ∀ {before after : List Exchange} {x : Exchange},
    t = before ++ x :: after → x.call.isWire = true → ∃ token before' after',
      before = before' ++ [⟨.maskInterrupts, token⟩] ∧
      after = ⟨.restoreInterrupts token, ()⟩ :: after' ∧ Guarded before' ∧ Guarded after' := by
  induction h with
  | nil =>
    intro before after x ht
    simp at ht
  | @region token c y rest wire guarded ih =>
    intro before after x ht hx
    -- the place of the transaction in the first region, or after it
    rcases before with _ | ⟨m, _ | ⟨z, _ | ⟨r, before⟩⟩⟩ <;>
      simp only [masked, List.cons_append, List.nil_append, List.cons.injEq] at ht
    · obtain ⟨rfl, -⟩ := ht
      cases hx
    · obtain ⟨rfl, rfl, rfl⟩ := ht
      exact ⟨token, [], rest, rfl, rfl, .nil, guarded⟩
    · obtain ⟨-, -, rfl, -⟩ := ht
      cases hx
    · obtain ⟨rfl, rfl, rfl, ht⟩ := ht
      obtain ⟨token', before', after', rfl, rfl, hb, ha⟩ := ih ht hx
      exact ⟨token', masked token c y ++ before', after', rfl, rfl, .region token y wire hb, ha⟩
  | @select m rest guarded ih =>
    intro before after x ht hx
    rcases before with _ | ⟨y, before⟩ <;>
      simp only [List.cons_append, List.nil_append, List.cons.injEq] at ht
    · obtain ⟨rfl, -⟩ := ht
      cases hx
    · obtain ⟨rfl, ht⟩ := ht
      obtain ⟨token, before', after', rfl, rfl, hb, ha⟩ := ih ht hx
      exact ⟨token, _ :: before', after', rfl, rfl, .select m hb, ha⟩

end Exchange

/-! ## The operations -/

namespace Script

variable {α β : Type}

/-- Whatever the answers, the calls of the script are guarded. -/
def Guarded (s : Script α) : Prop := ∀ t r, s.Plays t r → Exchange.Guarded t

theorem guarded_pure (a : α) : (pure a : Script α).Guarded := by
  rintro _ _ ⟨rfl, -⟩
  exact .nil

theorem guarded_fault (f : Fault) : (.fault f : Script α).Guarded := by
  rintro _ _ ⟨rfl, -⟩
  exact .nil

theorem guarded_log (l : Line) : (log l).Guarded := guarded_pure ()

theorem Guarded.bind {s : Script α} {f : α → Script β} (hs : s.Guarded)
    (hf : ∀ a, (f a).Guarded) : (s >>= f).Guarded := by
  intro t r h
  obtain ⟨e, failed, -⟩ | ⟨a, t₁, t₂, rfl, first, rest⟩ := plays_bind.1 h
  · exact hs t _ failed
  · exact (hs t₁ _ first).append (hf a t₂ r rest)

theorem guarded_masked {c : Call} (wire : c.isWire = true) : (masked c).Guarded := by
  intro t r h
  obtain ⟨token, x, rfl, -⟩ := plays_masked.1 h
  exact Exchange.guarded_masked token x wire

theorem guarded_select (m : Submode) : (ask (.fastReadSetMode m)).Guarded := by
  rintro _ _ ⟨⟨⟩, _, rfl, rfl, -⟩
  exact .select m .nil

theorem guarded_waitReady : waitReady.Guarded := by
  rintro _ _ ⟨polls, _, rfl, waits, rfl, -⟩
  rw [List.append_nil]
  exact waits.guarded

theorem guarded_each {f : β → Script Unit} (hf : ∀ x, (f x).Guarded) :
    ∀ l : List β, (each f l).Guarded
  | [] => guarded_pure ()
  | x :: l => (hf x).bind fun _ => guarded_each hf l

end Script

namespace Transfer

open Script

variable {g : Geometry} {commands : CommandSet} {chunk : Nat} {address : UInt32}

theorem guarded_change {c : Call} (wire : c.isWire = true) : (change commands c).Guarded :=
  (guarded_masked rfl).bind fun _ => (guarded_masked wire).bind fun _ =>
    guarded_waitReady.bind fun _ => guarded_masked rfl

theorem guarded_fillPieces {fetch : Piece → List UInt8 → Script (List UInt8)}
    (hf : ∀ p bytes, (fetch p bytes).Guarded) :
    ∀ (pieces : List Piece) (buffer : List UInt8) (filled : List (List UInt8)),
      (fillPieces fetch pieces buffer filled).Guarded
  | [], _, filled => guarded_pure _
  | p :: pieces, buffer, filled => by
    rw [fillPieces]
    split
    · exact guarded_fillPieces hf pieces _ _
    · exact (guarded_log _).bind fun _ => (hf _ _).bind fun _ => guarded_fillPieces hf pieces _ _

theorem guarded_read (buffer : List UInt8) : (read g commands chunk address buffer).Guarded :=
  (guarded_log _).bind fun _ => guarded_fillPieces (fun _ _ => guarded_masked rfl) _ _ _

theorem guarded_fastRead (buffer : List UInt8) (submode : Option Submode) :
    (fastRead g chunk address buffer submode).Guarded := by
  refine (guarded_log _).bind fun _ => guarded_fillPieces (fun p bytes => ?_) _ _ _
  cases submode with
  | none => exact guarded_masked rfl
  | some m => exact (guarded_select m).bind fun _ => guarded_masked rfl

theorem guarded_write (data : List UInt8) : (write g commands address data).Guarded := by
  refine (guarded_log _).bind fun _ => Guarded.bind (guarded_each (fun p => ?_) _) fun _ => ?_
  · exact (guarded_log _).bind fun _ => guarded_change rfl
  · split
    · exact guarded_pure _
    · exact (guarded_log _).bind fun _ => guarded_pure _
    · exact guarded_fault _

theorem guarded_erase (length : Nat) : (erase g commands address length).Guarded := by
  have sectors (l : List SectorErase) : (each (eraseSector commands) l).Guarded :=
    guarded_each (fun s => (guarded_log _).bind fun _ => guarded_change rfl) l
  refine (guarded_log _).bind fun _ => ?_
  split
  · exact (guarded_log _).bind fun _ => (guarded_change rfl).bind fun _ => guarded_pure _
  · dsimp only
    split
    · exact (guarded_log _).bind fun _ => (sectors _).bind fun _ => guarded_pure _
    · exact (sectors _).bind fun _ => guarded_pure _

end Transfer

/-! ## Runs -/

/-- The device answers each exchange as it is told, one after the other. -/
inductive Transport.Replays {σ : Type} (T : Transport σ) : σ → List Exchange → σ → Prop
  | nil (d : σ) : Replays T d [] d
  | cons {d d' : σ} {c : Call} {x : c.Reply} {t : List Exchange}
    (reply : (T.perform d c).reply = .ok x) (rest : Replays T (T.perform d c).device t d') :
    Replays T d (⟨c, x⟩ :: t) d'

theorem Transport.Replays.append {σ : Type} {T : Transport σ} {d d' d'' : σ} {t t' : List Exchange}
    (h : T.Replays d t d') (h' : T.Replays d' t' d'') : T.Replays d (t ++ t') d'' := by
  induction h with
  | nil => exact h'
  | cons reply rest ih => exact .cons reply (ih h')

/-- The device has an interrupt mask: masking returns it, restoring a token sets it to the token,
and selecting a submode leaves it as it is. -/
structure Transport.HasMask {σ : Type} (T : Transport σ) (mask : σ → UInt32) : Prop where
  returned : ∀ d (token : UInt32), (T.perform d .maskInterrupts).reply = .ok token → token = mask d
  restored : ∀ d token, mask (T.perform d (.restoreInterrupts token)).device = token
  selected : ∀ d m, mask (T.perform d (.fastReadSetMode m)).device = mask d

/-- Guarded exchanges leave the interrupt mask as it was, whatever the transactions do to it. -/
theorem Exchange.Guarded.mask_eq {σ : Type} {T : Transport σ} {mask : σ → UInt32}
    (has : T.HasMask mask) {t : List Exchange} (h : Guarded t) :
    ∀ {d d' : σ}, T.Replays d t d' → mask d' = mask d := by
  induction h with
  | nil =>
    rintro d _ ⟨⟩
    rfl
  | region token x wire rest ih =>
    rintro d d' (_ | ⟨returned, _ | ⟨_, _ | ⟨_, replays⟩⟩⟩)
    rw [ih replays, has.restored, has.returned _ _ returned]
  | select m rest ih =>
    rintro d d' (_ | ⟨_, replays⟩)
    rw [ih replays, has.selected]

namespace Script

variable {α σ : Type} {T : Transport σ} {who : Actor}

/-- What calls and log lines keep, a run keeps. -/
theorem run_keeps {P : Bus σ → Prop} (call : ∀ b c, P b → P (b.call T who c).2)
    (log : ∀ b l, P b → P (b.log who l)) (s : Script α) (b : Bus σ) (h : P b) :
    P (s.run T who b).2 := by
  refine run_of_step (I := fun _ b => P b) (Q := fun _ b => P b) (fun s b h => ?_) s b h
  cases s with
  | done a => exact h
  | fault f => exact h
  | note l rest => exact log b l h
  | call c rest =>
    have next := call b c h
    rw [step]
    rcases hc : b.call T who c with ⟨f | x, b'⟩ <;> rw [hc] at next <;> exact next
  | untilReady rest =>
    have next := call b .maskInterrupts h
    rw [step]
    rcases hc : b.call T who .maskInterrupts with ⟨f | x, b'⟩ <;> rw [hc] at next <;> exact next

/-- The device answers the exchanges of a run as they are told. -/
theorem replays_run (T : Transport σ) (who : Actor) (s : Script α) (b : Bus σ) :
    ∃ added, (s.run T who b).2.journal.toList = b.journal.toList ++ added ∧
      (added.all Entry.isAnswered = true →
        T.Replays b.device (exchangesIn added) (s.run T who b).2.device) := by
  refine run_keeps (P := fun b' => ∃ added, b'.journal.toList = b.journal.toList ++ added ∧
    (added.all Entry.isAnswered = true → T.Replays b.device (exchangesIn added) b'.device))
    ?_ ?_ s b ⟨[], by simp, fun _ => .nil _⟩
  · rintro b' c ⟨added, journal, replays⟩
    have told := b'.toList_journal_call T who c
    rw [journal, List.append_assoc] at told
    refine ⟨_, told, fun answered => ?_⟩
    rw [List.all_append, Bool.and_eq_true] at answered
    rw [exchangesIn_append, Bus.call_device]
    refine (replays answered.1).append ?_
    rw [exchangesIn_call]
    rcases reply : (T.perform b'.device c).reply with f | x
    · simp [reply, Entry.isAnswered, Except.isOk, Except.toBool] at answered
    · exact .cons reply (.nil _)
  · rintro b' l ⟨added, journal, replays⟩
    refine ⟨added ++ [⟨who, .log l⟩], ?_, fun answered => ?_⟩
    · rw [Bus.log, Bus.toList_journal_record, journal, List.append_assoc]
      rfl
    · have none : exchangesIn [⟨who, .log l⟩] = [] := rfl
      rw [List.all_append, Bool.and_eq_true] at answered
      rw [exchangesIn_append, none, List.append_nil]
      exact replays answered.1

end Script

/-- The script comes to its end, and what it says begins guarded exchanges, in which each
transaction on the wire comes right after a mask and right before the restore of the token that the
mask has returned. If all calls are answered it says the whole of them, and the interrupt mask is
what it was before. -/
def Script.Masks {α σ : Type} (T : Transport σ) (who : Actor) (s : Script α) (b : Bus σ) : Prop :=
  s.Halts T who b ∧
  ∃ added t, (s.run T who b).2.journal.toList = b.journal.toList ++ added ∧ Exchange.Guarded t ∧
    (∀ before x after, t = before ++ x :: after → x.call.isWire = true →
      ∃ token before' after', before = before' ++ [⟨.maskInterrupts, token⟩] ∧
        after = ⟨.restoreInterrupts token, ()⟩ :: after') ∧
    exchangesIn added <+: t ∧ toldIn some added <+: t.map Exchange.call ∧
    (added.all Entry.isAnswered = true → exchangesIn added = t ∧
      ∀ mask, T.HasMask mask → mask (s.run T who b).2.device = mask b.device)

theorem Script.Guarded.masks {α σ : Type} {s : Script α} (h : s.Guarded) (T : Transport σ)
    (who : Actor) (b : Bus σ) : s.Masks T who b := by
  obtain ⟨added, t, r, journal, played, made, told, whole⟩ := s.ended_run T who b
  obtain ⟨_, journal', replays⟩ := s.replays_run T who b
  obtain rfl := List.append_cancel_left (journal.symm.trans journal')
  have guarded : Exchange.Guarded t := h t r played
  refine ⟨s.halts T who b, added, t, journal, guarded, fun before x after ht wire => ?_, made, told,
    fun answered => ?_⟩
  · obtain ⟨token, before', after', hb, ha, -⟩ := guarded.around ht wire
    exact ⟨token, before', after', hb, ha⟩
  · obtain ⟨rfl, -⟩ := whole answered
    exact ⟨rfl, fun mask has => guarded.mask_eq has (replays answered)⟩

/-- Interrupt masking, for every geometry, command set, transport and request: a read, a fast read
with or without a submode, a write, an erase and a wait make each of their transactions on the wire
in a masked region of its own, which ends with the token that its mask has returned, and select a
submode outside of these regions only. So they leave the interrupts masked as they were. -/
theorem masks_transactions {σ : Type} (T : Transport σ) (g : Geometry) (commands : CommandSet)
    (who : Actor) (b : Bus σ) (address : UInt32) :
    (∀ chunk buffer, (Transfer.read g commands chunk address buffer).Masks T who b) ∧
    (∀ chunk buffer submode, (Transfer.fastRead g chunk address buffer submode).Masks T who b) ∧
    (∀ data, (Transfer.write g commands address data).Masks T who b) ∧
    (∀ length, (Transfer.erase g commands address length).Masks T who b) ∧
    Script.waitReady.Masks T who b :=
  ⟨fun _ buffer => (Transfer.guarded_read buffer).masks T who b,
    fun _ buffer submode => (Transfer.guarded_fastRead buffer submode).masks T who b,
    fun data => (Transfer.guarded_write data).masks T who b,
    fun length => (Transfer.guarded_erase length).masks T who b,
    Script.guarded_waitReady.masks T who b⟩

/-- On a chip whose interrupt mask is five, a write of two bytes across the end of a page masks
interrupts for ten transactions and leaves the mask at five. -/
theorem masks_transactions_write :
    let g : Geometry := ⟨4096, 256, by decide, by decide⟩
    let chip : Chip := { Chip.make { size := 4096 } [] with connected := true, interruptMask := 5 }
    let run := (Transfer.write g .standard 0xFF [1, 2]).run Chip.transport .dispatcher ⟨chip, #[]⟩
    Chip.transport.HasMask Chip.interruptMask ∧
    run.2.journal.toList.all Entry.isAnswered = true ∧
    Exchange.Guarded (exchangesIn run.2.journal.toList) ∧
    ((toldIn some run.2.journal.toList).filter Call.isWire).length = 10 ∧
    run.2.device.interruptMask = 5 := by
  intro g chip run
  have has : Chip.transport.HasMask Chip.interruptMask := by
    refine ⟨fun d token returned => ?_, fun _ _ => rfl, fun _ _ => rfl⟩
    cases returned
    rfl
  obtain ⟨-, -, writes, -⟩ := masks_transactions Chip.transport g .standard .dispatcher ⟨chip, #[]⟩
    0xFF
  obtain ⟨-, added, t, journal, guarded, -, -, -, whole⟩ := writes [1, 2]
  obtain rfl : run.2.journal.toList = added := journal
  have answered : run.2.journal.toList.all Entry.isAnswered = true := by decide +kernel
  obtain ⟨rfl, kept⟩ := whole answered
  exact ⟨has, answered, guarded, by decide +kernel, kept _ has⟩

end FlashGate

/-
The write-enable latch and the busy time of the emulated chip. A `Latch` is what an observer sees of
them who counts the busy polls: a wait is due from a program or an erase on until a poll finds the
chip ready. Main statement: `tempo_shows`, that the world in
which the latch is all that is seen shows what any thread does to the chip, and that in the journal
every program or erase is followed by its busy polls.
-/
import FlashGate.Chip
import FlashGate.Gateway.BringUp
import FlashGate.Proofs.Device.Calm
import FlashGate.Proofs.Waiting

namespace FlashGate

open Script

/-! ## Kinds of calls -/

/-- Whether the call is a transaction that a busy chip would not take. -/
def Call.isTransaction : Call → Bool
  | .readRaw .. => true
  | .sendCommand _ => true
  | .programPage .. => true
  | .eraseSector .. => true
  | .fastRead .. => true
  | _ => false

/-- Whether the call starts a busy time: a program, or an erase of a sector or of the chip. -/
def Call.isChange : Call → Bool
  | .programPage .. => true
  | .eraseSector .. => true
  | .sendCommand command => command == Chip.commands.chipErase || command == Opcode.ce60
  | _ => false

/-- Whether the call asks if the chip is busy. -/
def Call.asksBusy : Call → Bool
  | .isBusy => true
  | _ => false

/-- Whether the call has to do with neither latch nor busy time. -/
def Call.isPassive : Call → Bool
  | .programPage .. => false
  | .eraseSector .. => false
  | .sendCommand _ => false
  | .isBusy => false
  | _ => true

/-! ## The beats of a journal -/

/-- What a journal tells about busy times. -/
inductive Beat where
  /-- A program or an erase. -/
  | change
  /-- A poll that finds the chip busy. -/
  | busy
  /-- A poll that finds it ready. -/
  | ready
  deriving DecidableEq, Repr

/-- The beat of a call. -/
def Call.beat? : (c : Call) → Except Fault c.Reply → Option Beat
  | .isBusy, .ok busy => some (if show Bool from busy then .busy else .ready)
  | c, _ => if c.isChange then some .change else none

/-- The beat of an event. -/
def Event.beat? : Event → Option Beat
  | .call c reply => c.beat? reply
  | _ => none

/-- The beats of a journal, in order. -/
def beatsIn (journal : List Entry) : List Beat := journal.filterMap (·.event.beat?)

@[simp] theorem beatsIn_append (a b : List Entry) : beatsIn (a ++ b) = beatsIn a ++ beatsIn b :=
  List.filterMap_append ..

theorem beatsIn_wireless {who : Actor} {events : List Event}
    (h : ∀ e ∈ events, e.beat? = none) : beatsIn (events.map (⟨who, ·⟩)) = [] := by
  rw [beatsIn, List.filterMap_eq_nil_iff]
  intro x hx
  obtain ⟨e, he, rfl⟩ := List.mem_map.1 hx
  exact h e he

/-- A program or an erase with its wait: so many polls that find the chip busy, and one that finds
it ready. -/
def Beat.measure (polls : Nat) : List Beat := .change :: (List.replicate polls .busy ++ [.ready])

namespace Chip

/-! ## The latch -/

/-- What is seen of a chip's latch and busy time. -/
structure Latch where
  /-- Number of polls that will find the chip busy. -/
  busy : Nat
  enabled : Bool
  /-- Whether the chip has still to be waited for. -/
  due : Bool
  deriving DecidableEq, Repr

/-- Neither busy nor write-enabled, and nothing to wait for. -/
def Latch.clean : Latch := ⟨0, false, false⟩

/-- The latch of a chip. -/
def latch (chip : Chip) (due : Bool) : Latch := ⟨chip.busy.toNat, chip.writeEnabled, due⟩

/-- Whether a wait is due after a call. -/
def owes (due : Bool) : (c : Call) → Except Fault c.Reply → Bool
  | .isBusy, .ok busy => due && show Bool from busy
  | c, _ => due || c.isChange

variable (chip : Chip)

/-- A call that is no program and no erase leaves the stored bytes as they are, and the busy time
too unless it polls. -/
theorem kept_perform {c : Call} (hc : c.isChange = false) :
    (chip.perform c).device.memory = chip.memory ∧
      (c.asksBusy = false → (chip.perform c).device.busy = chip.busy) := by
  cases c with
  | programPage => cases hc
  | eraseSector => cases hc
  | isBusy =>
    refine ⟨?_, fun hp => by cases hp⟩
    simp only [perform, poll]
    split <;> rfl
  | sendCommand command =>
    simp only [Call.isChange, Bool.or_eq_false_iff, beq_eq_false_iff_ne] at hc
    simp only [perform, sendCommand, hc.1, hc.2, or_self, if_false]
    split
    · exact ⟨rfl, fun _ => rfl⟩
    · split <;> exact ⟨rfl, fun _ => rfl⟩
  | connect => simp only [perform, connect]; split <;> exact ⟨rfl, fun _ => rfl⟩
  | readRaw command address buffer =>
    simp only [perform, readRaw]; split <;> exact ⟨rfl, fun _ => rfl⟩
  | fastRead address buffer =>
    simp only [perform, fastRead]; split <;> exact ⟨rfl, fun _ => rfl⟩
  | _ => exact ⟨rfl, fun _ => rfl⟩

theorem passive_perform {c : Call} (hc : c.isPassive = true) :
    (chip.perform c).reply.isOk = true ∧
      (chip.perform c).device.writeEnabled = chip.writeEnabled := by
  cases c with
  | programPage => cases hc
  | eraseSector => cases hc
  | sendCommand => cases hc
  | isBusy => cases hc
  | connect => simp only [perform, connect]; split <;> exact ⟨rfl, rfl⟩
  | readRaw command address buffer =>
    simp only [perform, readRaw]; split <;> exact ⟨rfl, rfl⟩
  | fastRead address buffer => simp only [perform, fastRead]; split <;> exact ⟨rfl, rfl⟩
  | _ => exact ⟨rfl, rfl⟩

/-- A program or an erase while the latch is on consumes it and starts the busy time, unless it
faults. -/
theorem change_perform {c : Call} (hc : c.isChange = true) (enabled : chip.writeEnabled = true)
    (answered : (chip.perform c).reply.isOk = true) :
    (chip.perform c).device.busy = chip.profile.busyPolls ∧
      (chip.perform c).device.writeEnabled = false := by
  cases c with
  | programPage command address data =>
    simp only [perform, programPage, enabled, if_true] at answered ⊢
    split at answered
    · cases answered
    next inside =>
      rw [if_neg inside]
      split at answered
      · cases answered
      next some =>
        rw [if_neg some]
        split <;> exact ⟨rfl, rfl⟩
  | eraseSector command address =>
    simp only [perform, eraseSector, enabled, if_true] at answered ⊢
    split at answered
    · cases answered
    next some =>
      rw [if_neg some]
      split <;> exact ⟨rfl, rfl⟩
  | sendCommand command =>
    simp only [Call.isChange, Bool.or_eq_true, beq_iff_eq] at hc
    have other : command ≠ commands.writeEnable ∧ command ≠ commands.writeDisable := by
      rcases hc with rfl | rfl <;> decide
    simp only [perform, sendCommand, other.1, other.2, if_false, hc, if_true, enabled]
    exact ⟨rfl, rfl⟩
  | _ => cases hc

/-! ## The tempo of a chip -/

/-- The world of an observer of the latch of chips of one profile. Transactions may be made while
the chip is not busy and no wait is due, programs and erases while the latch is on, and busy polls
while a wait is due; and no call may be made that faults. -/
def tempo (profile : Profile) : Tempo Latch where
  permits l c := (∀ chip : Chip, chip.profile = profile → (chip.perform c).reply.isOk = true) ∧
    (c.isTransaction = true → l.busy = 0 ∧ l.due = false) ∧
    (c.isChange = true → l.enabled = true) ∧ (c.asksBusy = true → l.due = true)
  reacts l c r l' := ∃ (chip : Chip) (due : Bool), chip.profile = profile ∧ l = chip.latch due ∧
    r = (chip.perform c).reply ∧ l' = (chip.perform c).device.latch (owes due c r)
  due l := l.due = true
  rested l := ⟨0, l.enabled, false⟩
  mask l := by
    refine ⟨⟨fun _ _ => rfl, nofun, nofun, nofun⟩, ?_⟩
    rintro r l' ⟨chip, due, -, rfl, rfl, rfl⟩
    exact ⟨rfl, congrArg (Latch.mk chip.busy.toNat chip.writeEnabled) (Bool.or_false due)⟩
  restore l token := by
    refine ⟨⟨fun _ _ => rfl, nofun, nofun, nofun⟩, ?_⟩
    rintro r l' ⟨chip, due, -, rfl, rfl, rfl⟩
    exact ⟨rfl, congrArg (Latch.mk chip.busy.toNat chip.writeEnabled) (Bool.or_false due)⟩
  poll l due := by
    refine ⟨⟨fun chip _ => ?_, nofun, nofun, fun _ => due⟩, ?_⟩
    · simp only [perform, poll]
      split <;> rfl
    · rintro r l' ⟨chip, d, -, rfl, rfl, rfl⟩
      obtain rfl : d = true := due
      by_cases busy : 0 < chip.busy
      · refine .inl ?_
        simp only [perform, poll, busy, if_true]
        exact ⟨trivial, rfl, rfl⟩
      · refine .inr ?_
        have none : chip.busy.toNat = 0 := by
          rw [UInt32.lt_iff_toNat_lt] at busy
          exact Nat.eq_zero_of_not_pos busy
        simp only [perform, poll, busy, if_false]
        exact ⟨trivial, congrArg (Latch.mk · chip.writeEnabled false) none⟩

theorem tempo_permits {profile : Profile} {l : Latch} {c : Call} :
    (tempo profile).permits l c ↔
      (∀ chip : Chip, chip.profile = profile → (chip.perform c).reply.isOk = true) ∧
        (c.isTransaction = true → l.busy = 0 ∧ l.due = false) ∧
        (c.isChange = true → l.enabled = true) ∧ (c.asksBusy = true → l.due = true) := Iff.rfl

/-- The beats of the measure that has begun while a wait is due. -/
def Latch.begun (polls : Nat) (l : Latch) : List Beat :=
  if l.due then .change :: List.replicate (polls - l.busy) .busy else []

/-- What is seen of a chip with its journal: its latch, and after the given beats whole measures and
the one that has begun. -/
structure Kept (profile : Profile) (before : List Beat) (b : Bus Chip) (l : Latch) : Prop where
  built : b.device.profile = profile
  latch : l = b.device.latch l.due
  bound : l.busy ≤ profile.busyPolls.toNat
  idle : l.due = false → l.busy = 0
  beats : ∃ n, beatsIn b.journal.toList = before ++
    (List.replicate n (Beat.measure profile.busyPolls.toNat)).flatten ++
      l.begun profile.busyPolls.toNat

variable {profile : Profile} {before : List Beat} {b : Bus Chip} {l : Latch}

theorem Kept.told (h : Kept profile before b l) {who : Actor} {events : List Event}
    (wireless : ∀ e ∈ events, e.beat? = none) : Kept profile before (b.record who events) l := by
  refine ⟨h.built, h.latch, h.bound, h.idle, ?_⟩
  rw [Bus.toList_journal_record, beatsIn_append, beatsIn_wireless wireless, List.append_nil]
  exact h.beats

theorem beatsIn_call (who : Actor) (c : Call) (b : Bus Chip) :
    beatsIn (b.call transport who c).2.journal.toList =
      beatsIn b.journal.toList ++ (c.beat? (b.device.perform c).reply).toList := by
  have breaches : beatsIn (((transport.perform b.device c).breaches.map Event.breach).map
      (⟨who, ·⟩)) = [] := by
    refine beatsIn_wireless fun e he => ?_
    obtain ⟨x, -, rfl⟩ := List.mem_map.1 he
    rfl
  have call : beatsIn [⟨who, .call c (transport.perform b.device c).reply⟩] =
      (c.beat? (b.device.perform c).reply).toList := by
    have same : Event.beat? (.call c (transport.perform b.device c).reply) =
        c.beat? (b.device.perform c).reply := rfl
    cases h : c.beat? (b.device.perform c).reply <;> simp [beatsIn, same, h]
  rw [Bus.toList_journal_call, beatsIn_append, List.map_cons, ← List.singleton_append,
    beatsIn_append, breaches, List.append_nil, call]

/-- A call that is no busy poll makes a wait due if it changes the stored bytes, and has a beat only
then. -/
theorem owes_of_call {c : Call} (hc : c.asksBusy = false) (due : Bool)
    (r : Except Fault c.Reply) : owes due c r = (due || c.isChange) ∧
      c.beat? r = if c.isChange then some .change else none := by
  cases c <;> first | exact ⟨rfl, rfl⟩ | cases hc

theorem transaction_of_change {c : Call} (hc : c.isChange = true) :
    c.isTransaction = true ∧ c.asksBusy = false := by
  cases c <;> first | exact ⟨rfl, rfl⟩ | cases hc

/-- A program or an erase begins a measure. -/
theorem Kept.change (h : Kept profile before b l) (who : Actor) {c : Call} (hc : c.isChange = true)
    (enabled : l.enabled = true) (free : l.due = false)
    (answered : (b.device.perform c).reply.isOk = true) :
    Kept profile before (b.call transport who c).2
      ((b.device.perform c).device.latch (owes l.due c (b.device.perform c).reply)) := by
  obtain ⟨n, beats⟩ := h.beats
  obtain ⟨due, beat⟩ := owes_of_call (transaction_of_change hc).2 l.due (b.device.perform c).reply
  have on : b.device.writeEnabled = true := (congrArg Latch.enabled h.latch).symm.trans enabled
  have busy := (change_perform b.device hc on answered).1
  rw [h.built] at busy
  rw [due, hc, Bool.or_true]
  refine ⟨(profile_perform ..).trans h.built, rfl, ?_, nofun, n, ?_⟩
  · simp only [Chip.latch, busy, Nat.le_refl]
  · rw [beatsIn_call, beats, beat, if_pos hc]
    simp only [Latch.begun, free, Chip.latch, busy, Nat.sub_self, List.replicate_zero, if_true,
      Bool.false_eq_true, if_false, List.append_nil, Option.toList_some]

/-- A poll that finds the chip busy takes one off its busy polls, and the wait goes on. -/
theorem poll_of_busy {chip : Chip} (busy : 0 < chip.busy) :
    (chip.perform .isBusy).device.latch (owes true .isBusy (chip.perform .isBusy).reply) =
        ⟨chip.busy.toNat - 1, chip.writeEnabled, true⟩ ∧
      Call.beat? .isBusy (chip.perform .isBusy).reply = some Beat.busy := by
  have one : (1 : UInt32) ≤ chip.busy := by
    rw [UInt32.le_iff_toNat_le]
    exact UInt32.lt_iff_toNat_lt.1 busy
  have outcome : chip.perform .isBusy = ⟨.ok true, { chip with busy := chip.busy - 1 }, []⟩ :=
    if_pos busy
  rw [outcome]
  exact ⟨congrArg (Latch.mk · chip.writeEnabled true) (UInt32.toNat_sub_of_le _ _ one), rfl⟩

/-- A poll that finds the chip ready leaves it so, and ends the wait. -/
theorem poll_of_ready {chip : Chip} (ready : chip.busy.toNat = 0) :
    (chip.perform .isBusy).device.latch (owes true .isBusy (chip.perform .isBusy).reply) =
        ⟨0, chip.writeEnabled, false⟩ ∧
      Call.beat? .isBusy (chip.perform .isBusy).reply = some Beat.ready := by
  have outcome : chip.perform .isBusy = ⟨.ok false, chip, []⟩ :=
    if_neg fun busy => absurd (UInt32.lt_iff_toNat_lt.1 busy) (by rw [ready]; decide)
  rw [outcome]
  exact ⟨congrArg (Latch.mk · chip.writeEnabled false) ready, rfl⟩

/-- A busy poll goes on with the measure, or ends it. -/
theorem Kept.poll (h : Kept profile before b l) (who : Actor) (due : l.due = true) :
    Kept profile before (b.call transport who .isBusy).2
      ((b.device.perform .isBusy).device.latch
        (owes l.due .isBusy (b.device.perform .isBusy).reply)) := by
  obtain ⟨n, beats⟩ := h.beats
  have counted : l.busy = b.device.busy.toNat := congrArg Latch.busy h.latch
  have bound := h.bound
  have told := beatsIn_call who .isBusy b
  rw [beats, Latch.begun, if_pos due] at told
  have built := (profile_perform b.device .isBusy).trans h.built
  by_cases busy : 0 < b.device.busy
  · have left : 0 < l.busy := by
      rw [counted]
      exact UInt32.lt_iff_toNat_lt.1 busy
    obtain ⟨next, beat⟩ := poll_of_busy busy
    rw [← counted, ← due] at next
    refine ⟨built, rfl, ?_, fun none => ?_, n, ?_⟩
    · rw [next]
      exact Nat.le_trans (Nat.sub_le ..) bound
    · rw [next, due] at none
      cases none
    · have more : profile.busyPolls.toNat - (l.busy - 1) =
          profile.busyPolls.toNat - l.busy + 1 := by
        omega
      rw [told, beat, next, Latch.begun, if_pos due, more, List.replicate_succ']
      simp
  · have none : b.device.busy.toNat = 0 := by
      rw [UInt32.lt_iff_toNat_lt] at busy
      exact Nat.eq_zero_of_not_pos busy
    obtain ⟨next, beat⟩ := poll_of_ready none
    rw [← due] at next
    refine ⟨built, rfl, ?_, fun _ => ?_, n + 1, ?_⟩
    · rw [next]
      exact Nat.zero_le _
    · rw [next]
    · rw [told, beat, next, counted, none, Latch.begun, List.replicate_succ', List.flatten_append]
      simp [Beat.measure]

/-- A call of another kind leaves the measures as they are. -/
theorem Kept.other (h : Kept profile before b l) (who : Actor) {c : Call}
    (hc : c.isChange = false) (hp : c.asksBusy = false) :
    Kept profile before (b.call transport who c).2
      ((b.device.perform c).device.latch (owes l.due c (b.device.perform c).reply)) := by
  obtain ⟨n, beats⟩ := h.beats
  obtain ⟨due, beat⟩ := owes_of_call hp l.due (b.device.perform c).reply
  have busy : (b.device.perform c).device.busy.toNat = l.busy := by
    rw [(kept_perform b.device hc).2 hp]
    exact (congrArg Latch.busy h.latch).symm
  rw [due, hc, Bool.or_false]
  refine ⟨(profile_perform ..).trans h.built, rfl, ?_, fun free => ?_, n, ?_⟩
  · exact Nat.le_trans (Nat.le_of_eq busy) h.bound
  · exact busy.trans (h.idle free)
  · rw [beatsIn_call, beats, beat, hc]
    simp only [Latch.begun, Chip.latch, busy, Bool.false_eq_true, if_false, Option.toList_none,
      List.append_nil]

theorem Kept.passive (h : Kept profile before b l) (who : Actor) {c : Call}
    (hc : c.isPassive = true) : Kept profile before (b.call transport who c).2 l := by
  have kind : c.isChange = false ∧ c.asksBusy = false := by
    cases c <;> first | exact ⟨rfl, rfl⟩ | cases hc
  have next := h.other who kind.1 kind.2
  have same : (b.device.perform c).device.latch l.due = l := by
    rw [Chip.latch, (b.device.kept_perform kind.1).2 kind.2, (b.device.passive_perform hc).2]
    exact h.latch.symm
  rwa [(owes_of_call kind.2 _ _).1, kind.1, Bool.or_false, same] at next

/-- The tempo of a chip shows what any thread does to it. -/
theorem tempo_shows (profile : Profile) (before : List Beat) (who : Actor) :
    (tempo profile).toWorld.Shows transport who (Kept profile before) where
  log b l line h := h.told (by simp [Event.beat?])
  call b l c h permitted := by
    obtain ⟨answers, free, changes, asks⟩ := permitted
    have answered := answers b.device h.built
    refine ⟨_, ⟨b.device, l.due, h.built, h.latch, rfl, rfl⟩, ?_⟩
    cases change : c.isChange with
    | true =>
      exact h.change who change (changes change) (free (transaction_of_change change).1).2 answered
    | false =>
      cases ask : c.asksBusy with
      | true =>
        cases c <;> first | exact h.poll who (asks ask) | cases ask
      | false => exact h.other who change ask

end Chip

end FlashGate

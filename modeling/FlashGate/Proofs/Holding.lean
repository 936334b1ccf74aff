/-
Holds on the flash. Main statement: `holds_exclude`, that over any device and whatever the
interleaving of the threads the spin lock counts its guards, which are all of one client; that
nobody adds a level to a lock that is not its own; and that while a client holds the flash all
requests accepted are its own and no read past the queue gets through.
-/
import FlashGate.Proofs.Gateway.Hold
import FlashGate.Proofs.Linearization

namespace FlashGate

variable {σ : Type} {T : Transport σ} {env : σ → σ → Prop}

namespace Control

variable {c next : Control} {id : ClientId} {e : Deed} {d : Client} {events : List Event}
  {who : Actor}

theorem sender_message (c : Control) (id : ClientId) (s : Submission) :
    (c.message id s).sender? = some id := by
  cases s <;> rfl

theorem Turn.releases (h : Turn c id .unspin d events) : (c.client id).releases = true := by
  cases h
  case unhold a h => simp only [Client.releases, h]
  case bypassUnspin a h => simp only [Client.releases, h]
  case release h held => simpa only [Client.releases, h, decide_eq_true_eq] using held

/-- A turn leaves the count of the spin lock, adds a guard, or drops one that there is. -/
theorem Goes.count (h : c.Goes who next events) (locks : Locks c) :
    next.spin.count = c.spin.count ∨ next.spin.count = c.spin.count + 1 ∨
      next.spin.count + 1 = c.spin.count ∧ ∃ id, who = .client id ∧
        (c.client id).releases = true := by
  cases h with
  | dispatcher h => exact .inl (by rw [h.others.2])
  | @client id _ _ h =>
    obtain ⟨e, d, turn, allowed, rfl⟩ := h
    cases e with
    | spin =>
      have free : c.spin.count = 0 := allowed
      exact .inr (.inl (by rw [free]; rfl))
    | respin => exact .inr (.inl rfl)
    | unspin =>
      have pos := locks.count_pos_of_releases turn.releases
      exact .inr (.inr ⟨Nat.sub_add_cancel pos, id, rfl, turn.releases⟩)
    | _ => exact .inl rfl

/-- The rules that the guards of the spin lock keep. -/
structure Guarded (c : Control) : Prop where
  /-- The count is the number of guards, of all clients together. -/
  count : ∀ ids : List ClientId, ids.Nodup → (∀ id, 0 < (c.client id).levels → id ∈ ids) →
    (ids.map fun id => (c.client id).levels).sum = c.spin.count
  /-- All guards are one client's. -/
  sole : ∀ i j, 0 < (c.client i).levels → 0 < (c.client j).levels → i = j
  /-- Who is about to drop a guard finds the lock counting one. -/
  release : ∀ id, (c.client id).releases = true → 0 < c.spin.count
  /-- Who is about to add a level without a look at the lock holds the flash, and all of the count
  is its own. -/
  relock : ∀ id p, (c.client id).task = .spinning p true → 0 < (c.client id).holds ∧
    0 < c.spin.count ∧ (c.client id).levels = c.spin.count ∧
    ∀ j, j ≠ id → (c.client j).levels = 0

theorem Locks.guarded (locks : Locks c) : Guarded c where
  count _ distinct all := locks.spin.sum_eq distinct all
  sole _ _ := locks.spin_unique
  release _ := locks.count_pos_of_releases
  relock id p there := by
    have held := (locks.reentry id p true there).1 rfl
    exact ⟨held, Nat.pos_of_ne_zero (locks.taken_of_holds held), locks.guards_of_holds held⟩

end Control

namespace Gate

variable {g₀ g g' : Gate σ} {id : ClientId}

/-- In a step from a gate that a client holds the queue takes nothing but a message of the client.
-/
theorem Step.accepts_held (h : Step T g g') (sound : g.control.Sound) (pure : g.control.Pure)
    (held : Holds id g.control) :
    ∃ own, acceptedIn g'.bus.journal.toList = acceptedIn g.bus.journal.toList ++ own ∧
      ∀ m ∈ own, m.sender? = some id := by
  rcases h.admitted sound with same | ⟨m, more, ⟨-, dropped⟩ | ⟨i, s, rfl, owner, -⟩⟩
  · exact ⟨[], by rw [same, List.append_nil], by simp⟩
  · have free := pure.dropped dropped id
    exact absurd held (by rw [Holds, free]; exact Nat.lt_irrefl 0)
  · -- who holds the flash has admission
    have mine : g.control.admission.owner = some id :=
      (sound.locks.owner id).2 (Nat.lt_of_lt_of_le held (Nat.le_add_right _ _))
    obtain rfl : i = id := Option.some.inj (owner.symm.trans mine)
    refine ⟨_, more, fun m hm => ?_⟩
    rw [List.mem_singleton.1 hm, Control.sender_message]

/-- While a client holds the flash the requests accepted are all its own. -/
theorem During.accepts_held (h : During T env (Holds id) g g') (sound : g.control.Sound)
    (pure : g.control.Pure) :
    ∃ own, acceptedIn g'.bus.journal.toList = acceptedIn g.bus.journal.toList ++ own ∧
      ∀ m ∈ own, m.sender? = some id := by
  induction h with
  | refl => exact ⟨[], by simp, by simp⟩
  | step before held move ih =>
    obtain ⟨own, accepted, mine⟩ := ih
    obtain ⟨sound, pure⟩ := before.reach.pure sound pure
    obtain ⟨more, further, more_mine⟩ := move.accepts_held sound pure held
    refine ⟨own ++ more, by rw [further, accepted, List.append_assoc], fun m hm => ?_⟩
    rcases List.mem_append.1 hm with hm | hm
    · exact mine m hm
    · exact more_mine m hm
  | outside _ _ _ ih => exact ih

theorem pure_of_start {config : Config} {device : σ} {c : Control} {b : Bus σ}
    (start : Gate.start T config id ⟨device, #[]⟩ = (.ok (.ok c), b))
    (reach : Reach T env ⟨c, b⟩ g) : g.control.Sound ∧ g.control.Pure := by
  obtain ⟨⟨s, rfl⟩, -⟩ := opened_of_start start
  exact reach.pure (Control.sound_opened s) (Control.pure_opened s)

end Gate

/-- Holds on the flash exclude, for any number of clients, over any device, which may be changed
from outside at any time, and whatever the order in which the threads move. The spin lock counts
the guards that there are, and all of them are one client's; a step changes the count by one guard
taken or one dropped; and who adds a level without a look at the lock has all of the count. While a
client holds the flash every request accepted is its own, so that its requests stand together; no
read past the queue has the spin lock, one that tries is refused, and one that is begun makes no
call and is refused, the holder's own included. -/
theorem holds_exclude (config : Config) (id : ClientId) (device : σ) (c : Control) (b : Bus σ)
    (start : Gate.start T config id ⟨device, #[]⟩ = (.ok (.ok c), b)) (g : Gate σ)
    (reach : Gate.Reach T env ⟨c, b⟩ g) :
    g.control.Guarded ∧
    (∀ g', Gate.Step T g g' → g'.control.spin.count = g.control.spin.count ∨
      g'.control.spin.count = g.control.spin.count + 1 ∨
      g'.control.spin.count + 1 = g.control.spin.count ∧
        ∃ j, (g.control.client j).releases = true) ∧
    ∀ i, (∀ g', Gate.During T env (Gate.Holds i) g g' →
        ∃ own, acceptedIn g'.bus.journal.toList = acceptedIn g.bus.journal.toList ++ own ∧
          ∀ m ∈ own, m.sender? = some i) ∧
      (Gate.Holds i g.control → ∀ j, (g.control.client j).task.spins = 0 ∧
        ∀ r m, (g.control.client j).task = .bypassSpinning r →
          g.control.move? (.client j) = some m →
          m = .quiet (g.control.finish j (.refused .lockUnavailable r.buffer)) []) ∧
      ∀ j r, (g.control.client j).task = .bypassChecking r ∨
          (g.control.client j).task = .bypassSpinning r →
        ∀ g', Gate.During T env
            (fun c => Gate.Holds i c ∧ (c.client j).task.isIdle = false) g g' →
          Gate.Silent (.client j) g.bus g'.bus ∧
            ((g'.control.client j).task = .idle →
              ∃ a, (g'.control.client j).answer = some a ∧ Control.Refuses r a) := by
  obtain ⟨sound, pure⟩ := Gate.pure_of_start start reach
  refine ⟨sound.locks.guarded, fun g' step => ?_, fun i => ⟨fun g' h => h.accepts_held sound pure,
    fun held j => ⟨sound.locks.spins_held pure held j, fun r m there hm =>
      sound.locks.refused_held held there hm⟩, fun j r there g' during => ?_⟩⟩
  · obtain ⟨who, _, _, _, _, goes⟩ := step.goes
    rcases goes.count sound.locks with same | more | ⟨fewer, j, -, releases⟩
    · exact .inl same
    · exact .inr (.inl more)
    · exact .inr (.inr ⟨fewer, j, releases⟩)
  · have barred : Control.Barred r (g.control.client j) := there.elim .checking .spinning
    obtain ⟨-, silent, barred⟩ := during.barred sound barred
    refine ⟨silent, fun idle => ?_⟩
    cases barred with
    | refused a _ answer ha => exact ⟨a, answer, ha⟩
    | checking h => rw [h] at idle; cases idle
    | spinning h => rw [h] at idle; cases idle

/-- The small gate after one client has locked the flash twice and another asks for a write, then
the holder for an erase. -/
def Gate.smallHeld (c : Control) : Gate Chip :=
  ((((({ gate := ⟨c, Gate.small.2⟩ } : Session Chip).act Chip.transport 0 .lock).act
    Chip.transport 0 .lock).act Chip.transport 1 (.write 1 [0x0F])).act
    Chip.transport 0 (.erase 0 1)).gate

/-- On the small gate the lock counts two, no read past the queue has a guard, and the holder's
request alone is accepted. -/
theorem holds_exclude_small : ∃ c, Gate.small.1 = .ok (.ok c) ∧
    (Gate.smallHeld c).control.Guarded ∧ (Gate.smallHeld c).control.spin.count = 2 ∧
    (∀ j, ((Gate.smallHeld c).control.client j).task.spins = 0) ∧
    (acceptedIn (Gate.smallHeld c).bus.journal.toList).map (·.sender?) = [some 0] := by
  obtain ⟨c, opened⟩ := Gate.small_opens
  have fresh : Gate.Reach Chip.transport Gate.undisturbed ⟨c, Gate.small.2⟩
      ({ gate := ⟨c, Gate.small.2⟩ } : Session Chip).gate := .refl
  have reach : Gate.Reach Chip.transport Gate.undisturbed ⟨c, Gate.small.2⟩ (Gate.smallHeld c) :=
    Session.reach_act 0 _
      (Session.reach_act 1 _ (Session.reach_act 0 _ (Session.reach_act 0 _ fresh)))
  have start := Gate.start_of_small opened
  have played : Gate.ofSmall (fun c => ((Gate.smallHeld c).control.spin.count,
      ((Gate.smallHeld c).control.client 0).holds,
      (acceptedIn (Gate.smallHeld c).bus.journal.toList).map (·.sender?))) =
      some (2, 2, [some 0]) := by
    decide +kernel
  simp only [Gate.ofSmall, opened, Option.some.injEq, Prod.mk.injEq] at played
  obtain ⟨count, holds, accepted⟩ := played
  obtain ⟨guarded, -, rules⟩ := holds_exclude _ 0 _ c _ start _ reach
  have held : Gate.Holds 0 (Gate.smallHeld c).control := by
    rw [Gate.Holds, holds]
    decide
  exact ⟨c, opened, guarded, count, fun j => ((rules 0).2.1 held j).1, accepted⟩

end FlashGate

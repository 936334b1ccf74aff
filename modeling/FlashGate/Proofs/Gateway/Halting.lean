/-
Every run of the threads comes to an end. A quiet move and the end of a script lower the rank of the
control state; at one rank there is one script at most that goes on, and it ends on every device, as
the busy polls do. Main statement: `acc_moves`, that no gate is left by infinitely many moves,
whichever thread moves next and whatever happens to the device from outside in between.
-/
import FlashGate.Proofs.Gateway.Stage

namespace FlashGate

/-- Nothing that happens from outside keeps a device busy for longer. -/
def Transport.Calms {σ : Type} (T : Transport σ) (env : σ → σ → Prop) : Prop :=
  ∀ d d', env d d' → T.pending d' ≤ T.pending d

/-- The bus as it is, or with the device changed from outside. -/
inductive Bus.Drifts {σ : Type} (env : σ → σ → Prop) (b : Bus σ) : Bus σ → Prop
  | still : Drifts env b b
  | changed {device : σ} (h : env b.device device) : Drifts env b { b with device }

namespace Script

variable {α σ : Type} (T : Transport σ) (env : σ → σ → Prop) (who : Actor)

/-- A script that has not ended goes on by one turn. -/
def GoesOn (p q : Script α × Bus σ) : Prop :=
  ∃ b, p.2.Drifts env b ∧ p.1.step T who b = (.unfinished q.1, q.2)

variable {T env who}

theorem pending_drifts (calms : T.Calms env) {b b' : Bus σ} (h : b.Drifts env b') :
    T.pending b'.device ≤ T.pending b.device := by
  cases h with
  | still => exact Nat.le_refl _
  | changed h => exact calms _ _ h

/-- A call goes on with the script after its answer. -/
theorem acc_call {c : Call} {rest : c.Reply → Script α} {b : Bus σ}
    (h : ∀ b' r, b.Drifts env b' → (T.perform b'.device c).reply = .ok r →
      ∀ b'', b''.device = (T.perform b'.device c).device →
        Acc (fun q p => GoesOn T env who p q) (rest r, b'')) :
    Acc (fun q p => GoesOn T env who p q) (.call c rest, b) := by
  refine Acc.intro _ ?_
  rintro ⟨next, b''⟩ ⟨b', drift, turn⟩
  have reply := Bus.call_reply T who c b'
  have device := Bus.call_device T who c b'
  rw [step] at turn
  rcases hc : b'.call T who c with ⟨f | r, b₁⟩ <;> rw [hc] at turn reply device <;> cases turn
  exact h b' r drift reply.symm _ device

/-- Polling comes to an end: each poll that is answered with yes takes one off the busy time. -/
theorem acc_untilReady (calms : T.Calms env) {rest : Script α}
    (h : ∀ b, Acc (fun q p => GoesOn T env who p q) (rest, b)) (n : Nat) :
    ∀ b : Bus σ, T.pending b.device ≤ n →
      Acc (fun q p => GoesOn T env who p q) (.untilReady rest, b) := by
  induction n using Nat.strongRecOn with
  | ind n ih =>
    intro b bound
    refine Acc.intro _ ?_
    rintro ⟨next, b₁⟩ ⟨b₀, drift, turn⟩
    have low₀ : T.pending b₀.device ≤ T.pending b.device := pending_drifts calms drift
    have low₁ := T.pending_mask b₀.device
    have device := Bus.call_device T who .maskInterrupts b₀
    rw [step] at turn
    rcases hc : b₀.call T who .maskInterrupts with ⟨f | token, b₁'⟩ <;> rw [hc] at turn device <;>
      cases turn
    change b₁.device = _ at device
    refine acc_call fun b₂ busy drift₂ reply b₃ device₃ =>
      acc_call fun b₄ _ drift₄ _ b₅ device₅ => ?_
    show Acc _ (if (show Bool from busy) = true then .untilReady rest else rest, b₅)
    split
    next yes =>
      have low₂ := pending_drifts calms drift₂
      have less := T.pending_isBusy b₂.device (reply.trans (congrArg Except.ok yes))
      have low₄ := pending_drifts calms drift₄
      have low₅ := T.pending_restore b₄.device token
      rw [← device₃] at less
      rw [← device₅] at low₅
      rw [← device] at low₁
      exact ih (T.pending b₅.device) (by omega) b₅ (Nat.le_refl _)
    next => exact h b₅

/-- A script alone comes to its end on every device. -/
theorem acc_goesOn (calms : T.Calms env) (s : Script α) :
    ∀ b : Bus σ, Acc (fun q p => GoesOn T env who p q) (s, b) := by
  induction s with
  | done a =>
    refine fun b => Acc.intro _ ?_
    rintro _ ⟨_, -, turn⟩
    cases turn
  | fault f =>
    refine fun b => Acc.intro _ ?_
    rintro _ ⟨_, -, turn⟩
    cases turn
  | note l rest ih =>
    refine fun b => Acc.intro _ ?_
    rintro ⟨_, _⟩ ⟨_, -, turn⟩
    cases turn
    exact ih _
  | call c rest ih => exact fun b => acc_call fun _ r _ _ b'' _ => ih r b''
  | untilReady rest ih => exact fun b => acc_untilReady calms ih _ b (Nat.le_refl _)

variable (T who)

/-- The script comes to its end turn by turn, where nothing happens to the device in between. -/
def Halts (s : Script α) (b : Bus σ) : Prop :=
  Acc (fun q p => GoesOn T (fun _ _ => False) who p q) (s, b)

theorem halts (s : Script α) (b : Bus σ) : s.Halts T who b := acc_goesOn (fun _ _ => False.elim) s b

end Script

namespace Gate

variable {σ : Type} (T : Transport σ) (env : σ → σ → Prop)

/-- A move of a thread, after a change of the device from outside or without one. -/
inductive Moves (g : Gate σ) : Gate σ → Prop
  | move {b : Bus σ} {who : Actor} {m : Move} (drift : g.bus.Drifts env b)
    (h : g.control.move? who = some m) : Moves g (perform T .single who m b)

variable {T env}

theorem Moves.sound {g g' : Gate σ} (h : Moves T env g g') (sound : g.control.Sound) :
    g'.control.Sound := by
  obtain @⟨b, who, m, drift, move⟩ := h
  have step : Step T ⟨g.control, b⟩ (perform T .single who m b) := .move move
  obtain ⟨who, -, events, -, -, goes⟩ := step.goes
  exact goes.sound sound

/-- A move lowers the rank, or it is a turn of the script that a thread is on. -/
theorem Moves.lowers {g g' : Gate σ} (h : Moves T env g g') :
    g'.control.rank < g.control.rank ∨ ∃ (d : Duty) (s rest : Script (List UInt8)),
      d.On g.control s ∧ Script.GoesOn T env d.actor (s, g.bus) (rest, g'.bus) ∧
        g'.control = d.resumed g.control rest := by
  obtain @⟨b, who, m, drift, move⟩ := h
  have lowers := Control.move?_lowers move
  rcases Control.move?_duty move with ⟨next, events, rfl⟩ | ⟨d, s, rfl, on, rfl⟩
  · exact .inl lowers
  · simp only [perform, Script.advance]
    rcases turn : s.step T d.actor b with ⟨rest | r, b'⟩
    · exact .inr ⟨d, s, rest, on, ⟨b, drift, turn⟩, rfl⟩
    · exact .inl (lowers r)

/-- Going on with a script leaves the rank as it is. -/
theorem rank_resumed {c : Control} {d : Duty} {s : Script (List UInt8)} (on : d.On c s)
    (rest : Script (List UInt8)) : (d.resumed c rest).rank = c.rank := by
  have client (id : ClientId) (t : Task) (h : t.rank = (c.client id).task.rank) :
      (c.place id t).rank = c.rank := by
    have h' : (c.place id t).rank + _ = _ := c.rank_set id { c.client id with task := t }
    have : ({ c.client id with task := t } : Client).task.rank = t.rank := rfl
    omega
  cases d with
  | serve j =>
    have hd : c.dispatcher = .serving j s := on
    simp [Duty.resumed, Control.rank, hd, Dispatcher.rank]
  | release l =>
    have hd : c.dispatcher = .releasing l s := on
    simp [Duty.resumed, Control.rank, hd, Dispatcher.rank]
  | setUp id =>
    have ht : (c.client id).task = .opening s := on
    exact client id _ (by simp [ht, Task.rank])
  | shutDown id w =>
    have ht : (c.client id).task = .shutting w s := on
    exact client id _ (by simp [ht, Task.rank])
  | read id r =>
    have ht : (c.client id).task = .bypassReading r s := on
    exact client id _ (by simp [ht, Task.rank])

/-- No gate is left by infinitely many moves. -/
theorem acc_moves (calms : T.Calms env) {g : Gate σ} (sound : g.control.Sound) :
    Acc (fun g' g => Moves T env g g') g := by
  generalize hn : g.control.rank = n
  induction n using Nat.strongRecOn generalizing g with
  | ind n ih =>
    -- at this rank a script goes on; what it does ends by itself
    have running (p : Script (List UInt8) × Bus σ) (d : Duty)
        (acc : Acc (fun q p => Script.GoesOn T env d.actor p q) p) :
        ∀ c : Control, d.On c p.1 → c.Sound → c.rank = n →
          Acc (fun g' g => Moves T env g g') ⟨c, p.2⟩ := by
      induction acc with
      | intro p _ goOn =>
        intro c on sound rank
        refine Acc.intro _ fun g' move => ?_
        have sound' := move.sound sound
        rcases move.lowers with less | ⟨d', s, rest, on', turn, control⟩
        · exact ih _ (by rw [← rank]; exact less) sound' rfl
        · obtain ⟨rfl, rfl⟩ := on.unique on' sound.locks
          obtain ⟨c', b'⟩ := g'
          obtain rfl : c' = _ := control
          exact goOn (rest, b') turn _ Duty.on_resumed sound' ((rank_resumed on rest).trans rank)
    refine Acc.intro _ fun g' move => ?_
    have sound' := move.sound sound
    rcases move.lowers with less | ⟨d, s, rest, on, turn, control⟩
    · exact ih _ (by rw [← hn]; exact less) sound' rfl
    · obtain ⟨c', b'⟩ := g'
      obtain rfl : c' = _ := control
      exact running (rest, b') d (Script.acc_goesOn calms rest b') _ Duty.on_resumed sound'
        ((rank_resumed on rest).trans hn)

end Gate

end FlashGate

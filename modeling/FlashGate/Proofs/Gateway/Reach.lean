/-
The gates that a run can reach. A run is any sequence of steps, whichever thread moves next, with
changes of the device from outside in between where the environment makes them. Main statements:
`Step.goes`, that a step is one turn of one thread and what it adds to the journal, and
`Reach.invariant`, that what every turn keeps holds of every gate reached.
-/
import FlashGate.Gateway.Rest
import FlashGate.Proofs.World
import FlashGate.Proofs.Gateway.Turn

namespace FlashGate

/-- Whether an event is left by a script: a call, a breach or a log line. -/
def Event.isTraffic : Event → Bool
  | .call .. => true
  | .breach _ => true
  | .log _ => true
  | _ => false

/-! ## What a script leaves -/

section Traffic

variable {α σ : Type} (T : Transport σ) (who : Actor)

/-- The journal of `b'` is the one of `b` with traffic of one thread at its end. -/
def Bus.AddsTraffic (who : Actor) (b b' : Bus σ) : Prop :=
  ∃ traffic : List Event, (∀ e ∈ traffic, e.isTraffic = true) ∧
    b'.journal.toList = b.journal.toList ++ traffic.map (⟨who, ·⟩)

theorem Bus.addsTraffic_refl (b : Bus σ) : b.AddsTraffic who b := ⟨[], by simp, by simp⟩

theorem Bus.toList_journal_call (c : Call) (b : Bus σ) : (b.call T who c).2.journal.toList =
    b.journal.toList ++ (Event.call c (T.perform b.device c).reply ::
      (T.perform b.device c).breaches.map .breach).map (⟨who, ·⟩) :=
  Bus.toList_journal_record ..

theorem Bus.addsTraffic_call (c : Call) (b : Bus σ) : b.AddsTraffic who (b.call T who c).2 := by
  refine ⟨_, ?_, b.toList_journal_call T who c⟩
  intro e he
  rcases List.mem_cons.1 he with rfl | he
  · rfl
  · obtain ⟨x, -, rfl⟩ := List.mem_map.1 he
    rfl

theorem Script.addsTraffic_step : ∀ (s : Script α) (b : Bus σ), b.AddsTraffic who (s.step T who b).2
  | .done _, b => b.addsTraffic_refl who
  | .fault _, b => b.addsTraffic_refl who
  | .note l _, b => ⟨[.log l], by simp [Event.isTraffic], Bus.toList_journal_record ..⟩
  | .call c rest, b => by
    have h := b.addsTraffic_call T who c
    rw [Script.step]
    rcases hc : b.call T who c with ⟨f | x, b'⟩ <;> rw [hc] at h <;> exact h
  | .untilReady rest, b => by
    have h := b.addsTraffic_call T who .maskInterrupts
    rw [Script.step]
    rcases hc : b.call T who .maskInterrupts with ⟨f | x, b'⟩ <;> rw [hc] at h <;> exact h

variable {T who} in
theorem Bus.AddsTraffic.trans {b b' b'' : Bus σ} (h : b.AddsTraffic who b')
    (h' : b'.AddsTraffic who b'') : b.AddsTraffic who b'' := by
  obtain ⟨t, ht, hj⟩ := h
  obtain ⟨t', ht', hj'⟩ := h'
  refine ⟨t ++ t', fun e he => ?_, ?_⟩
  · rcases List.mem_append.1 he with h | h
    · exact ht e h
    · exact ht' e h
  · rw [hj', hj, List.map_append, List.append_assoc]

theorem Script.addsTraffic_run (s : Script α) (b : Bus σ) :
    b.AddsTraffic who (s.run T who b).2 := by
  refine run_of_step (I := fun _ b' => b.AddsTraffic who b')
    (Q := fun _ b' => b.AddsTraffic who b') (fun s b' h => ?_) s b (b.addsTraffic_refl who)
  have next := h.trans (s.addsTraffic_step T who b')
  rcases hs : s.step T who b' with ⟨rest | r, b''⟩ <;> rw [hs] at next <;> exact next

theorem Gate.addsTraffic_start (config : Config) (id : ClientId) (b : Bus σ) :
    b.AddsTraffic (.client id) (Gate.start T config id b).2 := by
  have run := (BringUp.script config).addsTraffic_run T (.client id) b
  unfold Gate.start
  split
  next h => rw [h] at run; exact run
  next h => rw [h] at run; exact run
  next g st b' h =>
    rw [h] at run
    exact run.trans ⟨[.log (BringUp.readyLine g st)], by simp [Event.isTraffic],
      Bus.toList_journal_record ..⟩

end Traffic

namespace Gate

variable {σ : Type} {T : Transport σ}

/-! ## Steps -/

/-- A move as it is carried out: where it leads, and the entries that the journal gets, traffic
before all others and only by a script. -/
theorem perform_leads {who : Actor} {m : Move} {P : Control → List Event → Prop} (h : m.Leads P)
    (b : Bus σ) :
    ∃ traffic events, (∀ e ∈ traffic, e.isTraffic = true) ∧
      (traffic = [] ∨ ∃ script resume, m = .drive script resume) ∧
      (perform T .single who m b).bus.journal.toList =
        b.journal.toList ++ (traffic ++ events).map (⟨who, ·⟩) ∧
      P (perform T .single who m b).control events := by
  cases m with
  | quiet next events =>
    exact ⟨[], events, by simp, .inl rfl, Bus.toList_journal_record .., h⟩
  | drive s resume =>
    obtain ⟨traffic, ht, hj⟩ := s.addsTraffic_step T who b
    refine ⟨traffic, (resume (s.step T who b).1).2, ht, .inr ⟨s, resume, rfl⟩, ?_, h _⟩
    rw [List.map_append, ← List.append_assoc, ← hj]
    exact Bus.toList_journal_record ..

/-- A move of a thread as its turn: what becomes of the control state, and the entries that the
journal gets, traffic before all others. -/
theorem perform_goes {who : Actor} {m : Move} {g : Gate σ} (h : g.control.move? who = some m) :
    ∃ traffic events, (∀ e ∈ traffic, e.isTraffic = true) ∧
      (perform T .single who m g.bus).bus.journal.toList =
        g.bus.journal.toList ++ (traffic ++ events).map (⟨who, ·⟩) ∧
      g.control.Goes who (perform T .single who m g.bus).control events := by
  obtain ⟨traffic, events, plain, -, journal, goes⟩ := perform_leads (Control.move?_goes h) g.bus
  exact ⟨traffic, events, plain, journal, goes⟩

/-- So is every step. -/
theorem Step.goes {g g' : Gate σ} (h : Step T g g') :
    ∃ who traffic events, (∀ e ∈ traffic, e.isTraffic = true) ∧
      g'.bus.journal.toList = g.bus.journal.toList ++ (traffic ++ events).map (⟨who, ·⟩) ∧
      g.control.Goes who g'.control events := by
  cases h with
  | @move who m h => exact ⟨who, perform_goes h⟩
  | @begin id k c h =>
    exact ⟨.client id, [], [], by simp, by simp, .client (Control.begin?_turn h)⟩

/-! ## Runs -/

/-- The gates that a run from `g₀` reaches, with changes of the device that `env` makes. -/
inductive Reach (T : Transport σ) (env : σ → σ → Prop) (g₀ : Gate σ) : Gate σ → Prop
  | refl : Reach T env g₀ g₀
  | step {g g' : Gate σ} (h : Reach T env g₀ g) (move : Step T g g') : Reach T env g₀ g'
  | outside {g : Gate σ} {device : σ} (h : Reach T env g₀ g) (change : env g.bus.device device) :
    Reach T env g₀ { g with bus := { g.bus with device } }

/-- No change from outside. -/
def undisturbed (_ _ : σ) : Prop := False

variable {env : σ → σ → Prop} {g₀ g g₁ : Gate σ}

/-- What every turn keeps holds of every gate reached. -/
theorem Reach.invariant {P : Control → Prop} (hr : Reach T env g₀ g) (h₀ : P g₀.control)
    (hP : ∀ c who next events, P c → c.Goes who next events → P next) : P g.control := by
  induction hr with
  | refl => exact h₀
  | step _ move ih =>
    obtain ⟨who, _, events, _, _, goes⟩ := move.goes
    exact hP _ _ _ _ ih goes
  | outside _ _ ih => exact ih

theorem Reach.trans (h : Reach T env g₀ g) (h₁ : Reach T env g g₁) : Reach T env g₀ g₁ := by
  induction h₁ with
  | refl => exact h
  | step _ move ih => exact .step ih move
  | outside _ change ih => exact .outside ih change

theorem Reach.mono {env' : σ → σ → Prop} (h : ∀ a b, env a b → env' a b)
    (hr : Reach T env g₀ g) : Reach T env' g₀ g := by
  induction hr with
  | refl => exact .refl
  | step _ move ih => exact .step ih move
  | outside _ change ih => exact .outside ih (h _ _ change)

end Gate

end FlashGate

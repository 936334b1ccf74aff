/-
What is known of device and journal at every moment of a run, whatever the messages: between the
scripts, and while the script of a duty runs. Main statement: `Watch.reach`, that what is known when
the gate is opened, and carried on by every script, is known at every gate reached, also after a
fault of the dispatcher.
-/
import FlashGate.Proofs.Gateway.Contract

namespace FlashGate

/-- Whether an event is left by the device: a call or a breach. -/
def Event.isWire : Event → Bool
  | .call .. => true
  | .breach _ => true
  | _ => false

theorem Event.wireless_of_aside {e : Event} (h : e.isAside = true) : e.isWire = false := by
  cases e <;> first | rfl | cases h

namespace Duty

variable {c : Control} {d : Duty} {script : Script (List UInt8)} {r : Except Fault (List UInt8)}

theorem wireless_ended : ∀ e ∈ (d.ended c r).2, e.isWire = false := by
  intro e he
  cases d <;> cases r <;> simp only [ended, List.not_mem_nil] at he
  unfold Control.served at he
  split at he <;> simp only [List.mem_singleton, List.not_mem_nil] at he
  subst he
  rfl

theorem off_ended {d' : Duty} (same : d'.actor = d.actor) (script : Script (List UInt8)) :
    ¬ d'.On (d.ended c r).1 script := by
  intro on
  cases d with
  | serve j =>
    cases r with
    | ok bytes =>
      cases d' <;> cases same <;> simp only [On, ended, Control.served] at on <;> split at on <;>
        cases on
    | error f => cases d' <;> cases same <;> cases f <;> cases on
  | release l =>
    cases r with
    | ok bytes => cases d' <;> cases same <;> cases on
    | error f => cases d' <;> cases same <;> cases f <;> cases on
  | setUp id =>
    cases r <;> cases d' <;> cases same <;>
      simp [On, ended, Control.place, Control.client] at on
  | shutDown id w =>
    cases r <;> cases d' <;> cases same <;>
      simp [On, ended, Control.place, Control.finish, Control.client] at on
  | read id q =>
    cases r <;> cases d' <;> cases same <;>
      simp [On, ended, Control.place, Control.client] at on

theorem nobody_ended (on : d.On c script) (locks : c.Locks) {events : List Event}
    (goes : c.Goes d.actor (d.ended c r).1 events) (d' : Duty) (script' : Script (List UInt8)) :
    ¬ d'.On (d.ended c r).1 script' := by
  intro on'
  by_cases same : d'.actor = d.actor
  · exact off_ended same script' on'
  · obtain ⟨rfl, -⟩ := on.unique ((goes.on_iff same).1 on') locks
    exact same rfl

end Duty

variable {σ : Type}

/-- What is known of device and journal between the scripts (`Off`) and while a script runs (`On`),
where `P` is known of every gate. -/
structure Watch (T : Transport σ) (env : σ → σ → Prop) (P : Gate σ → Prop) where
  Off : Bus σ → Prop
  On : Duty → Script (List UInt8) → Bus σ → Prop
  -- what is told beside the device, and what happens to the device from outside
  told_off : ∀ {b who events}, (∀ e ∈ events, e.isWire = false) → Off b → Off (b.record who events)
  told_on : ∀ {d script b who events}, (∀ e ∈ events, e.isWire = false) → On d script b →
    On d script (b.record who events)
  outside_off : ∀ {b device}, env b.device device → Off b → Off { b with device }
  outside_on : ∀ {d script b device}, env b.device device → On d script b →
    On d script { b with device }
  -- how a script begins, goes on and ends
  begins : ∀ {g d script}, P g → (∀ (d : Duty) script, ¬ d.On g.control script) →
    g.control.Begins d script → Off g.bus → On d script g.bus
  carries : ∀ {d script b}, On d script b →
    Script.Carries (On d) (fun _ => Off) (script.step T d.actor b)

namespace Watch

variable {T : Transport σ} {env : σ → σ → Prop} {P : Gate σ → Prop}

/-- What is known holds at a gate. -/
structure Stands (K : Watch T env P) (g : Gate σ) : Prop where
  on : ∀ (d : Duty) script, d.On g.control script → K.On d script g.bus
  off : (∀ (d : Duty) script, ¬ d.On g.control script) → K.Off g.bus

variable {K : Watch T env P} {g g' : Gate σ}

/-- A turn of a thread that is on no duty keeps what is known. -/
theorem Stands.quiet (h : K.Stands g) (known : P g) {who : Actor} {next : Control}
    {events : List Event} (goes : g.control.Goes who next events) (sound : g.control.Sound)
    (idle : ∀ (d : Duty) script, d.actor = who → ¬ d.On g.control script) :
    K.Stands ⟨next, g.bus.record who events⟩ := by
  have locks : next.Locks := (goes.sound sound).locks
  obtain ⟨aside, turn⟩ := goes.quiet sound idle
  have told : ∀ e ∈ events, e.isWire = false := fun e he => Event.wireless_of_aside (aside e he)
  refine ⟨fun d script on => ?_, fun nobody => ?_⟩
  · by_cases mine : d.actor = who
    · -- the thread has just taken up the duty, and before that nobody was on one
      rcases turn with ⟨d', script', -, on', begins⟩ | ⟨away, -⟩
      · obtain ⟨rfl, rfl⟩ := on.unique on' locks
        have nobody := goes.nobody_of_begun locks idle on mine
        exact K.told_on told (K.begins known nobody begins (h.off nobody))
      · exact absurd on (away d script mine)
    · exact K.told_on told (h.on d script ((goes.on_iff mine).1 on))
  · exact K.told_off told (h.off (goes.nobody_before idle fun d script _ => nobody d script))

/-- Every step of a gate keeps what is known. -/
theorem Stands.step (h : K.Stands g) (known : P g) (sound : g.control.Sound)
    (move : Gate.Step T g g') : K.Stands g' := by
  cases move with
  | @begin id k c hb =>
    have goes : g.control.Goes (.client id) c [] := .client (Control.begin?_turn hb)
    have idle : (g.control.client id).task.isDuty = false := by
      rw [Control.idle_of_begin? hb]
      rfl
    exact h.quiet known goes sound (Duty.not_on_of_off idle)
  | @move who m hm =>
    have goes := Control.move?_goes hm
    rcases Control.move?_duty hm with ⟨next, events, rfl⟩ | ⟨d, script, rfl, on, rfl⟩
    · refine h.quiet known goes sound fun d script hd on => ?_
      have := Control.move?_of_on on (Control.alive_of_move? hm)
      rw [hd, hm] at this
      cases this
    · have carries := K.carries (h.on d script on)
      simp only [Gate.perform, Script.advance]
      rcases hs : script.step T d.actor g.bus with ⟨rest | r, b⟩ <;> rw [hs] at carries
      · have goes : g.control.Goes d.actor (d.resumed g.control rest) [] := goes (.unfinished rest)
        refine ⟨fun d' script' on' => ?_, fun nobody => absurd Duty.on_resumed (nobody d rest)⟩
        obtain ⟨rfl, rfl⟩ := Duty.On.unique Duty.on_resumed on' (goes.sound sound).locks
        exact carries
      · have nobody := Duty.nobody_ended on sound.locks (goes (.finished r))
        exact ⟨fun d' script' on' => absurd on' (nobody d' script'),
          fun _ => K.told_off Duty.wireless_ended carries⟩

/-- What is known at a gate is known at every gate reached from it. -/
theorem reach {g₀ : Gate σ} (h₀ : K.Stands g₀) (sound : g₀.control.Sound)
    (known : ∀ g, Gate.Reach T env g₀ g → P g) (hr : Gate.Reach T env g₀ g) : K.Stands g := by
  have sounds {g : Gate σ} (hr : Gate.Reach T env g₀ g) : g.control.Sound :=
    hr.invariant sound fun _ _ _ _ hs goes => goes.sound hs
  induction hr with
  | refl => exact h₀
  | step hr move ih => exact ih.step (known _ hr) (sounds hr) move
  | outside hr change ih =>
    exact ⟨fun d script on => K.outside_on change (ih.on d script on),
      fun nobody => K.outside_off change (ih.off nobody)⟩

theorem Stands.opened {s : Setup} {b : Bus σ} (off : K.Off b) : K.Stands ⟨{ setup := s }, b⟩ := by
  refine ⟨fun d script on => ?_, fun _ => off⟩
  cases d <;> simp [Duty.On, Control.client, Roster.get, Roster.find] at on

end Watch

end FlashGate

/-
Reasoning about scripts that wait. In a `Tempo` busy polls are counted: while a wait is due a poll
either finds the device busy and leaves the wait due, or ends it. `Script.Settles` judges a script
there as `Always` does in a world that looks past the polls, and says what is seen after a wait.
Main statements: `settles_bind` and `settles_each`, which follow the structure of a script, and
`Settles.step` and `Settles.run`, which carry a judgement over to the turns of a script on a device.
-/
import FlashGate.Proofs.Transfer

namespace FlashGate

/-- A world in which busy polls are counted. -/
structure Tempo (ω : Type) extends World ω where
  /-- Whether the device has still to be waited for. -/
  due : ω → Prop
  /-- What is seen when it has been waited for. -/
  rested : ω → ω
  mask : ∀ w, permits w .maskInterrupts ∧
    ∀ r w', reacts w .maskInterrupts r w' → r.isOk = true ∧ w' = w
  restore : ∀ w token, permits w (.restoreInterrupts token) ∧
    ∀ r w', reacts w (.restoreInterrupts token) r w' → r.isOk = true ∧ w' = w
  poll : ∀ w, due w → permits w .isBusy ∧ ∀ r w', reacts w .isBusy r w' →
    (r = .ok true ∧ due w' ∧ rested w' = rested w) ∨ (r = .ok false ∧ w' = rested w)

namespace Script

variable {α β σ ω : Type} {W : Tempo ω}

/-- Whatever the answers, the script makes permitted calls only, waits only where a wait is due, and
ends as `Q` says. -/
def Settles (W : Tempo ω) (Q : Except Fault α → ω → Prop) : Script α → ω → Prop
  | .done a, w => Q (.ok a) w
  | .fault f, w => Q (.error f) w
  | .note _ rest, w => rest.Settles W Q w
  | .call c rest, w => W.permits w c ∧ ∀ r w', W.reacts w c r w' →
    match r with
    | .error f => Q (.error f) w'
    | .ok x => (rest x).Settles W Q w'
  | .untilReady rest, w => W.due w ∧ rest.Settles W Q (W.rested w)

/-! ## Structure -/

/-- What a script must guarantee for the script after it. -/
def ThenSettles (W : Tempo ω) (Q : Except Fault β → ω → Prop) (f : α → Script β) :
    Except Fault α → ω → Prop
  | .ok a, w => (f a).Settles W Q w
  | .error e, w => Q (.error e) w

theorem settles_bind {Q : Except Fault β → ω → Prop} {f : α → Script β} :
    ∀ {s : Script α} {w : ω}, (s >>= f).Settles W Q w ↔ s.Settles W (ThenSettles W Q f) w
  | .done _, _ => Iff.rfl
  | .fault _, _ => Iff.rfl
  | .note _ rest, _ => settles_bind (s := rest)
  | .call c rest, w => by
    refine and_congr_right fun _ => forall₃_congr fun r w' _ => ?_
    cases r with
    | error e => exact Iff.rfl
    | ok x => exact settles_bind (s := rest x)
  | .untilReady rest, _ => and_congr_right fun _ => settles_bind (s := rest)

theorem Settles.mono {Q Q' : Except Fault α → ω → Prop} (h : ∀ r w, Q r w → Q' r w) :
    ∀ {s : Script α} {w : ω}, s.Settles W Q w → s.Settles W Q' w
  | .done _, _, hs => h _ _ hs
  | .fault _, _, hs => h _ _ hs
  | .note _ rest, _, hs => Settles.mono (s := rest) h hs
  | .call c rest, w, ⟨permitted, reacts⟩ => by
    refine ⟨permitted, fun r w' hr => ?_⟩
    cases r with
    | error f => exact h _ _ (reacts _ w' hr)
    | ok x => exact Settles.mono (s := rest x) h (reacts _ w' hr)
  | .untilReady rest, _, ⟨due, hs⟩ => ⟨due, Settles.mono (s := rest) h hs⟩

theorem settles_ask {c : Call} {Q : Except Fault c.Reply → ω → Prop} {w : ω} :
    (ask c).Settles W Q w ↔ W.permits w c ∧ ∀ r w', W.reacts w c r w' → Q r w' := by
  refine and_congr_right fun _ => forall₃_congr fun r w' _ => ?_
  cases r <;> exact Iff.rfl

theorem settles_log {Q : Except Fault Unit → ω → Prop} {l : Line} {w : ω} :
    (log l).Settles W Q w ↔ Q (.ok ()) w := Iff.rfl

theorem settles_masked {c : Call} {Q : Except Fault c.Reply → ω → Prop} {w : ω}
    (h : (ask c).Settles W Q w) : (masked c).Settles W Q w := by
  obtain ⟨permitted, mask⟩ := W.mask w
  refine ⟨permitted, fun r w₁ hr => ?_⟩
  obtain ⟨answered, same⟩ := mask r w₁ hr
  cases r with
  | error f => cases answered
  | ok token =>
    obtain rfl : w₁ = w := same
    obtain ⟨permitted, reacts⟩ := settles_ask.1 h
    refine ⟨permitted, fun r w₂ hr => ?_⟩
    have hq := reacts r w₂ hr
    cases r with
    | error f => exact hq
    | ok x =>
      obtain ⟨permitted, restore⟩ := W.restore w₂ token
      refine ⟨permitted, fun r w₃ hr => ?_⟩
      obtain ⟨answered, same⟩ := restore r w₃ hr
      cases r with
      | error f => cases answered
      | ok _ =>
        obtain rfl : w₃ = w₂ := same
        exact hq

/-- An action for each element that leads back to where it begins does so as a whole. -/
theorem settles_each {f : β → Script Unit} {w : ω} {l : List β}
    (hf : ∀ x ∈ l, (f x).Settles W (fun r w' => r = .ok () ∧ w' = w) w) :
    (each f l).Settles W (fun r w' => r = .ok () ∧ w' = w) w := by
  induction l with
  | nil => exact ⟨rfl, rfl⟩
  | cons x l ih =>
    refine settles_bind.2 (Settles.mono ?_ (hf x (by simp)))
    rintro r w' ⟨rfl, rfl⟩
    exact ih fun y hy => hf y (by simp [hy])

/-- A script of calls that all lead back to what is seen before them, and without a wait, does so as
a whole; and it ends as it does wherever calls are answered. -/
theorem Only.settles {V : World Unit} {p : Call → Prop} {Q : Except Fault α → Prop} {w : ω}
    (polls : ¬ p .isBusy)
    (h : ∀ c, p c → W.permits w c ∧ ∀ r w', W.reacts w c r w' → r.isOk = true ∧ w' = w)
    (answered : ∀ (c : Call) r, r.isOk = true → V.reacts () c r ()) :
    ∀ {s : Script α}, s.Only p → s.Always V (fun r _ => Q r) () →
      s.Settles W (fun r w' => Q r ∧ w' = w) w
  | .done _, _, hv => ⟨hv, rfl⟩
  | .fault _, _, hv => ⟨hv, rfl⟩
  | .note _ rest, hs, hv => Only.settles polls h answered (s := rest) hs hv
  | .call c rest, ⟨hc, hs⟩, ⟨_, hv⟩ => by
    obtain ⟨permitted, reacts⟩ := h c hc
    refine ⟨permitted, fun r w' hr => ?_⟩
    obtain ⟨ok, rfl⟩ := reacts r w' hr
    cases r with
    | error f => cases ok
    | ok x =>
      exact Only.settles polls h answered (s := rest x) (hs (.ok x) () trivial)
        (hv (.ok x) () (answered c _ ok))
  | .untilReady rest, ⟨hp, _⟩, _ => absurd (hp .isBusy rfl).1 polls

theorem Settles.permits {Q : Except Fault α → ω → Prop} {s : Script α} {w : ω} {c : Call}
    (h : s.Settles W Q w) (hc : s.next? = some c) : W.permits w c := by
  cases s with
  | call c' rest =>
    cases hc
    exact h.1
  | untilReady rest =>
    cases hc
    exact (W.mask w).1
  | _ => cases hc

/-- The rest of a poll, after its mask: a device that is still busy is polled again. -/
theorem settles_poll {Q : Except Fault α → ω → Prop} {rest : Script α} {w : ω} (due : W.due w)
    (h : rest.Settles W Q (W.rested w)) (token : UInt32) :
    (Script.call .isBusy fun (busy : Bool) => .call (.restoreInterrupts token) fun _ =>
      if busy then .untilReady rest else rest).Settles W Q w := by
  obtain ⟨permitted, poll⟩ := W.poll w due
  refine ⟨permitted, fun r w' hr => ?_⟩
  have back (busy : Bool) {w' : ω} (hw : Settles W Q (if busy then .untilReady rest else rest) w') :
      (Script.call (.restoreInterrupts token) fun _ =>
        if busy then .untilReady rest else rest).Settles W Q w' := by
    obtain ⟨permitted, restore⟩ := W.restore w' token
    refine ⟨permitted, fun r w'' hr => ?_⟩
    obtain ⟨answered, rfl⟩ := restore r w'' hr
    cases r with
    | error f => cases answered
    | ok _ => exact hw
  rcases poll r w' hr with ⟨rfl, still, same⟩ | ⟨rfl, rfl⟩
  · exact back true ⟨still, by rwa [same]⟩
  · exact back false h

/-! ## Turns on a device -/

section Device

variable {T : Transport σ} {who : Actor} {R : Bus σ → ω → Prop}

/-- One turn of a script keeps its judgement. -/
theorem Settles.step (hW : W.Shows T who R) {Q : Except Fault α → ω → Prop} :
    ∀ {s : Script α} {b : Bus σ} {w : ω}, s.Settles W Q w → R b w →
      ∃ w', R (s.step T who b).2 w' ∧ match (s.step T who b).1 with
        | .unfinished rest => rest.Settles W Q w'
        | .finished r => Q r w'
  | .done _, _, w, h, hr => ⟨w, hr, h⟩
  | .fault _, _, w, h, hr => ⟨w, hr, h⟩
  | .note l _, b, w, h, hr => ⟨w, hW.log b w l hr, h⟩
  | .call c rest, b, w, ⟨permitted, reacts⟩, hr => by
    obtain ⟨w', hreact, hr'⟩ := hW.call b w c hr permitted
    have h := reacts _ w' hreact
    rw [Script.step]
    rcases hc : b.call T who c with ⟨_ | x, b'⟩ <;> rw [hc] at h hr' <;> exact ⟨w', hr', h⟩
  | .untilReady rest, b, w, ⟨due, h⟩, hr => by
    obtain ⟨permitted, mask⟩ := W.mask w
    obtain ⟨w', hreact, hr'⟩ := hW.call b w .maskInterrupts hr permitted
    obtain ⟨answered, rfl⟩ := mask _ w' hreact
    rw [Script.step]
    rcases hc : b.call T who .maskInterrupts with ⟨f | token, b'⟩ <;> rw [hc] at answered hr'
    · cases answered
    · exact ⟨w', hr', settles_poll due h token⟩

/-- A whole run keeps the judgement of its script. -/
theorem Settles.run (hW : W.Shows T who R) {Q : Except Fault α → ω → Prop} {s : Script α}
    {b : Bus σ} {w : ω} (hs : s.Settles W Q w) (hr : R b w) :
    ∃ w', R (s.run T who b).2 w' ∧ Q (s.run T who b).1 w' := by
  refine run_of_step (I := fun s b => ∃ w, R b w ∧ s.Settles W Q w)
    (Q := fun r b => ∃ w, R b w ∧ Q r w) (fun s b ⟨w, hr, hs⟩ => ?_) s b ⟨w, hr, hs⟩
  obtain ⟨w', hr', h⟩ := Settles.step hW hs hr
  rcases hb : s.step T who b with ⟨rest | r, b'⟩ <;> rw [hb] at h hr' <;> exact ⟨w', hr', h⟩

end Device

end Script

end FlashGate

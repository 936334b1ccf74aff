/-
Reasoning about scripts without running them. A `World` says which calls an observer lets pass and
which answers may come to them; `Script.Always` says of a script that, whatever the answers, it
makes only calls that pass and ends as it should. Main statements: `always_bind` and `always_each`,
which follow the structure of a script, and `Always.step` and `Always.run`, which carry a judgement
over to the turns of a script on a device, one call at a time or all at once.
-/
import FlashGate.Script
import Mathlib.Algebra.GroupWithZero.Nat

namespace FlashGate

/-- The calls of a busy poll. An observer sees nothing change at them. -/
def Call.isPoll : Call → Bool
  | .maskInterrupts => true
  | .isBusy => true
  | .restoreInterrupts _ => true
  | _ => false

/-- How a device looks to an observer: the calls that may be made, the answers that may come to
them, and what is seen afterwards. -/
structure World (ω : Type) where
  permits : ω → Call → Prop
  reacts : ω → (c : Call) → Except Fault c.Reply → ω → Prop

/-- Polls may be made, change nothing that is seen, and a fault in one of them ends as `E` says. -/
def World.Polls {ω : Type} (W : World ω) (E : Fault → ω → Prop) (w : ω) : Prop :=
  ∀ c : Call, c.isPoll = true → W.permits w c ∧ ∀ r w', W.reacts w c r w' →
    match r with
    | .error f => E f w'
    | .ok _ => w' = w

/-- The world shows what a device does to a relation between the device and what is seen: every
permitted call of the thread gets an answer of the world, and log lines are not seen. -/
structure World.Shows {ω σ : Type} (W : World ω) (T : Transport σ) (who : Actor)
    (R : Bus σ → ω → Prop) : Prop where
  call : ∀ b w c, R b w → W.permits w c →
    ∃ w', W.reacts w c (b.call T who c).1 w' ∧ R (b.call T who c).2 w'
  log : ∀ b w l, R b w → R (b.log who l) w

/-- The world of a transport itself: nothing of the device is hidden. -/
def World.exact {σ : Type} (T : Transport σ) : World σ where
  permits _ _ := True
  reacts d c r d' := r = (T.perform d c).reply ∧ d' = (T.perform d c).device

theorem World.exact_shows {σ : Type} (T : Transport σ) (who : Actor) :
    (World.exact T).Shows T who fun b d => b.device = d where
  call := by
    rintro b d c rfl -
    exact ⟨_, ⟨rfl, rfl⟩, rfl⟩
  log := by
    rintro b d l rfl
    rfl

namespace Script

variable {α β σ ω : Type} {W : World ω}

/-- Whatever the answers, the script makes permitted calls only and ends as `Q` says. -/
def Always (W : World ω) (Q : Except Fault α → ω → Prop) : Script α → ω → Prop
  | .done a, w => Q (.ok a) w
  | .fault f, w => Q (.error f) w
  | .note _ rest, w => rest.Always W Q w
  | .call c rest, w => W.permits w c ∧ ∀ r w', W.reacts w c r w' →
    match r with
    | .error f => Q (.error f) w'
    | .ok x => (rest x).Always W Q w'
  | .untilReady rest, w => W.Polls (fun f => Q (.error f)) w ∧ rest.Always W Q w

/-- What a script must guarantee for the script after it. -/
def Then (W : World ω) (Q : Except Fault β → ω → Prop) (f : α → Script β) :
    Except Fault α → ω → Prop
  | .ok a, w => (f a).Always W Q w
  | .error e, w => Q (.error e) w

/-! ## Structure -/

theorem always_bind {Q : Except Fault β → ω → Prop} {f : α → Script β} :
    ∀ {s : Script α} {w : ω}, (s >>= f).Always W Q w ↔ s.Always W (Then W Q f) w
  | .done _, _ => Iff.rfl
  | .fault _, _ => Iff.rfl
  | .note _ rest, _ => always_bind (s := rest)
  | .call c rest, w => by
    refine and_congr_right fun _ => forall₃_congr fun r w' _ => ?_
    cases r with
    | error e => exact Iff.rfl
    | ok x => exact always_bind (s := rest x)
  | .untilReady rest, _ => and_congr_right fun _ => always_bind (s := rest)

theorem World.Polls.mono {E E' : Fault → ω → Prop} {w : ω} (h : ∀ f w, E f w → E' f w)
    (hp : W.Polls E w) : W.Polls E' w := by
  intro c hc
  obtain ⟨permitted, reacts⟩ := hp c hc
  refine ⟨permitted, fun r w' hr => ?_⟩
  cases r with
  | error f => exact h f w' (reacts _ w' hr)
  | ok x => exact reacts _ w' hr

theorem Always.mono {Q Q' : Except Fault α → ω → Prop} (h : ∀ r w, Q r w → Q' r w) :
    ∀ {s : Script α} {w : ω}, s.Always W Q w → s.Always W Q' w
  | .done _, _, hs => h _ _ hs
  | .fault _, _, hs => h _ _ hs
  | .note _ rest, _, hs => Always.mono (s := rest) h hs
  | .call c rest, w, ⟨permitted, reacts⟩ => by
    refine ⟨permitted, fun r w' hr => ?_⟩
    cases r with
    | error f => exact h _ _ (reacts _ w' hr)
    | ok x => exact Always.mono (s := rest x) h (reacts _ w' hr)
  | .untilReady rest, _, ⟨polls, hs⟩ =>
    ⟨World.Polls.mono (fun _ _ => h _ _) polls, Always.mono (s := rest) h hs⟩

theorem always_ask {Q : Except Fault (Call.Reply c) → ω → Prop} {w : ω} :
    (ask c).Always W Q w ↔ W.permits w c ∧ ∀ r w', W.reacts w c r w' → Q r w' := by
  refine and_congr_right fun _ => forall₃_congr fun r w' _ => ?_
  cases r <;> exact Iff.rfl

/-- In the world of a transport itself a call is judged by what it does. -/
theorem always_exact {T : Transport σ} {c : Call} {Q : Except Fault (Call.Reply c) → σ → Prop}
    {d : σ} (h : Q (T.perform d c).reply (T.perform d c).device) :
    (ask c).Always (World.exact T) Q d := by
  refine always_ask.2 ⟨trivial, ?_⟩
  rintro r d' ⟨rfl, rfl⟩
  exact h

theorem always_log {Q : Except Fault Unit → ω → Prop} {l : Line} {w : ω} :
    (log l).Always W Q w ↔ Q (.ok ()) w := Iff.rfl

theorem always_masked {c : Call} {Q : Except Fault c.Reply → ω → Prop} {w : ω}
    (hw : W.Polls (fun f => Q (.error f)) w) (hc : W.permits w c)
    (h : ∀ r w', W.reacts w c r w' → match r with
      | .error f => Q (.error f) w'
      | .ok x => W.Polls (fun f => Q (.error f)) w' ∧ Q (.ok x) w') :
    (masked c).Always W Q w := by
  obtain ⟨permitted, mask⟩ := hw .maskInterrupts rfl
  refine ⟨permitted, fun r w' hr => ?_⟩
  have hm := mask r w' hr
  cases r with
  | error f => exact hm
  | ok token =>
    obtain rfl : w' = w := hm
    refine ⟨hc, fun r w₂ hr => ?_⟩
    have h₂ := h r w₂ hr
    cases r with
    | error f => exact h₂
    | ok x =>
      obtain ⟨permitted, restore⟩ := h₂.1 (.restoreInterrupts token) rfl
      refine ⟨permitted, fun r w₃ hr => ?_⟩
      have h₃ := restore r w₃ hr
      cases r with
      | error f => exact h₃
      | ok _ =>
        obtain rfl : w₃ = w₂ := h₃
        exact h₂.2

/-- An action for each element keeps what each single action passes on. -/
theorem always_each {f : β → Script Unit} {I : List β → ω → Prop}
    {E : Fault → ω → Prop} (hf : ∀ x rest w, I (x :: rest) w →
      (f x).Always W (fun r w => match r with
        | .ok () => I rest w
        | .error e => E e w) w) :
    ∀ {l : List β} {w : ω}, I l w →
      (each f l).Always W (fun r w => match r with
        | .ok () => I [] w
        | .error e => E e w) w
  | [], _, hi => hi
  | x :: rest, w, hi => by
    refine always_bind.2 (Always.mono (fun r w h => ?_) (hf x rest w hi))
    cases r with
    | error e => exact h
    | ok u => exact always_each hf h

/-- The call that a script makes in its next turn. -/
def next? : Script α → Option Call
  | .call c _ => some c
  | .untilReady _ => some .maskInterrupts
  | _ => none

theorem Always.permits {Q : Except Fault α → ω → Prop} {s : Script α} {w : ω} {c : Call}
    (h : s.Always W Q w) (hc : s.next? = some c) : W.permits w c := by
  cases s with
  | call c' rest =>
    cases hc
    exact h.1
  | untilReady rest =>
    cases hc
    exact (h.1 .maskInterrupts rfl).1
  | _ => cases hc

/-- The rest of a poll, after its mask: a device that is still busy is polled again, from the same
view. -/
theorem always_poll {Q : Except Fault α → ω → Prop} {rest : Script α} {w : ω}
    (polls : W.Polls (fun f => Q (.error f)) w) (h : rest.Always W Q w) (token : UInt32) :
    (Script.call .isBusy fun (busy : Bool) => .call (.restoreInterrupts token) fun _ =>
      if busy then .untilReady rest else rest).Always W Q w := by
  refine ⟨(polls .isBusy rfl).1, fun r w₂ hb => ?_⟩
  have hbusy := (polls .isBusy rfl).2 r w₂ hb
  cases r with
  | error f => exact hbusy
  | ok busy =>
    obtain rfl : w₂ = w := hbusy
    refine ⟨(polls (.restoreInterrupts token) rfl).1, fun r w₃ hs => ?_⟩
    have hrestore := (polls (.restoreInterrupts token) rfl).2 r w₃ hs
    cases r with
    | error f => exact hrestore
    | ok _ =>
      obtain rfl : w₃ = w₂ := hrestore
      show Always W Q (if (show Bool from busy) = true then .untilReady rest else rest) w₃
      split
      · exact ⟨polls, h⟩
      · exact h

/-! ## Turns on a device -/

section Device

variable {T : Transport σ} {who : Actor} {R : Bus σ → ω → Prop}

theorem Shows.poll (hW : W.Shows T who R) {E : Fault → ω → Prop} {b : Bus σ} {w : ω} {c : Call}
    (hc : c.isPoll = true) (polls : W.Polls E w) (hr : R b w) :
    ∃ w', R (b.call T who c).2 w' ∧ match (b.call T who c).1 with
      | .error f => E f w'
      | .ok _ => w' = w := by
  obtain ⟨permitted, reacts⟩ := polls c hc
  obtain ⟨w', hreact, hr'⟩ := hW.call b w c hr permitted
  exact ⟨w', hr', reacts _ w' hreact⟩

/-- One turn of a script keeps its judgement. -/
theorem Always.step (hW : W.Shows T who R) {Q : Except Fault α → ω → Prop} :
    ∀ {s : Script α} {b : Bus σ} {w : ω}, s.Always W Q w → R b w →
      ∃ w', R (s.step T who b).2 w' ∧ match (s.step T who b).1 with
        | .unfinished rest => rest.Always W Q w'
        | .finished r => Q r w'
  | .done _, _, w, h, hr => ⟨w, hr, h⟩
  | .fault _, _, w, h, hr => ⟨w, hr, h⟩
  | .note l _, b, w, h, hr => ⟨w, hW.log b w l hr, h⟩
  | .call c rest, b, w, ⟨permitted, reacts⟩, hr => by
    obtain ⟨w', hreact, hr'⟩ := hW.call b w c hr permitted
    have h := reacts _ w' hreact
    rw [Script.step]
    rcases hc : b.call T who c with ⟨_ | x, b'⟩ <;> rw [hc] at h hr' <;> exact ⟨w', hr', h⟩
  | .untilReady rest, b, w, ⟨polls, h⟩, hr => by
    obtain ⟨w', hr', hm⟩ := Shows.poll hW (c := .maskInterrupts) rfl polls hr
    rw [Script.step]
    rcases hc : b.call T who .maskInterrupts with ⟨f | token, b'⟩ <;> rw [hc] at hm hr'
    · exact ⟨w', hr', hm⟩
    · obtain rfl : w' = w := hm
      exact ⟨w', hr', always_poll polls h token⟩

end Device

/-! ## Whole runs -/

section Run

variable (T : Transport σ) (who : Actor)

/-- A wait polls once, and starts again while the device answers that it is busy. -/
theorem settle_eq (b : Bus σ) : settle T who b =
    match b.call T who .maskInterrupts with
    | (.error f, b) => (.error f, b)
    | (.ok token, b) =>
      match b.call T who .isBusy with
      | (.error f, b) => (.error f, b)
      | (.ok busy, b) =>
        match b.call T who (.restoreInterrupts token) with
        | (.error f, b) => (.error f, b)
        | (.ok _, b) => if (show Bool from busy) = true then settle T who b else (.ok (), b) := by
  rw [settle]
  split
  next h₁ => rw [h₁]
  next h₁ =>
    rw [h₁]
    dsimp only
    split
    next h₂ => rw [h₂]
    next h₂ =>
      rw [h₂]
      dsimp only
      split
      next h₃ => rw [h₃]
      next h₃ =>
        rw [h₃]
        rfl

variable {T who}

variable (T who) in
theorem run_call (c : Call) (rest : c.Reply → Script α) (b : Bus σ) :
    run T who (.call c rest) b = match b.call T who c with
      | (.error f, b) => (.error f, b)
      | (.ok r, b) => (rest r).run T who b := by
  rcases h : b.call T who c with ⟨f | x, b'⟩ <;> rw [run, h]

variable (T who) in
/-- The run of a script that goes on is the run of its first part and then that of the rest. -/
theorem run_bind (f : α → Script β) :
    ∀ (s : Script α) (b : Bus σ), (s >>= f).run T who b =
      match s.run T who b with
      | (.ok a, b) => (f a).run T who b
      | (.error e, b) => (.error e, b)
  | .done _, _ => rfl
  | .fault _, _ => rfl
  | .note l rest, b => run_bind f rest (b.log who l)
  | .call c rest, b => by
    show run T who (.call c fun x => rest x >>= f) b = _
    rw [run_call, run_call]
    rcases b.call T who c with ⟨e | x, b'⟩
    · rfl
    · exact run_bind f (rest x) b'
  | .untilReady rest, b => by
    show run T who (.untilReady (rest >>= f)) b = _
    rw [run, run]
    rcases settle T who b with ⟨e | x, b'⟩
    · rfl
    · exact run_bind f rest b'

variable (T who) in
/-- A run is one turn, and then the run of what is left. -/
theorem run_eq (s : Script α) (b : Bus σ) : s.run T who b =
    match s.step T who b with
    | (.unfinished rest, b) => rest.run T who b
    | (.finished r, b) => (r, b) := by
  cases s with
  | call c rest =>
    rw [run, step]
    rcases b.call T who c with ⟨f | x, b'⟩ <;> rfl
  | untilReady rest =>
    rw [run, step, settle_eq]
    rcases b.call T who .maskInterrupts with ⟨f | token, b₁⟩
    · rfl
    dsimp only
    refine Eq.trans ?_ (run_call T who .isBusy _ b₁).symm
    rcases b₁.call T who .isBusy with ⟨f | busy, b₂⟩
    · rfl
    dsimp only
    refine Eq.trans ?_ (run_call T who (.restoreInterrupts token) _ b₂).symm
    rcases b₂.call T who (.restoreInterrupts token) with ⟨f | x, b₃⟩
    · rfl
    cases busy <;> rfl
  | _ => rfl

/-- What a turn carries on: to the rest of the script, or to its end. -/
def Carries (I : Script α → Bus σ → Prop) (Q : Except Fault α → Bus σ → Prop) :
    Progress α × Bus σ → Prop
  | (.unfinished rest, b) => I rest b
  | (.finished r, b) => Q r b

variable {I : Script α → Bus σ → Prop} {Q : Except Fault α → Bus σ → Prop}

/-- What every turn carries on, a call carries on to the script after it. -/
theorem Carries.call (h : ∀ s b, I s b → Carries I Q (s.step T who b)) {c : Call}
    {rest : c.Reply → Script α} {b b' : Bus σ} {r : Except Fault c.Reply}
    (hc : b.call T who c = (r, b')) (hi : I (.call c rest) b) :
    match r with
    | .error f => Q (.error f) b'
    | .ok x => I (rest x) b' := by
  have turn := h _ _ hi
  rw [step, hc] at turn
  cases r <;> exact turn

theorem settle_of_step (h : ∀ s b, I s b → Carries I Q (s.step T who b)) {rest : Script α} :
    ∀ b, I (.untilReady rest) b →
      match settle T who b with
      | (.error f, b) => Q (.error f) b
      | (.ok _, b) => I rest b := by
  intro b
  induction b using settle.induct T who with
  | case1 b f b₁ h₁ =>
    intro hi
    have turn := h _ _ hi
    rw [step, h₁] at turn
    rw [settle_eq, h₁]
    exact turn
  | case2 b token b₁ h₁ f b₂ h₂ =>
    intro hi
    have turn := h _ _ hi
    rw [step, h₁] at turn
    rw [settle_eq, h₁]
    dsimp only
    rw [h₂]
    exact Carries.call h h₂ turn
  | case3 b token b₁ h₁ busy b₂ h₂ f b₃ h₃ =>
    intro hi
    have turn := h _ _ hi
    rw [step, h₁] at turn
    rw [settle_eq, h₁]
    dsimp only
    rw [h₂]
    dsimp only
    rw [h₃]
    exact Carries.call h h₃ (Carries.call h h₂ turn)
  | case4 b token b₁ h₁ busy b₂ h₂ x b₃ h₃ hb ih =>
    intro hi
    have turn := h _ _ hi
    rw [step, h₁] at turn
    have turn₃ := Carries.call h h₃ (Carries.call h h₂ turn)
    rw [settle_eq, h₁]
    dsimp only
    rw [h₂]
    dsimp only
    rw [h₃]
    dsimp only
    rw [if_pos hb] at turn₃ ⊢
    exact ih turn₃
  | case5 b token b₁ h₁ busy b₂ h₂ x b₃ h₃ hb =>
    intro hi
    have turn := h _ _ hi
    rw [step, h₁] at turn
    have turn₃ := Carries.call h h₃ (Carries.call h h₂ turn)
    rw [settle_eq, h₁]
    dsimp only
    rw [h₂]
    dsimp only
    rw [h₃]
    dsimp only
    rw [if_neg hb] at turn₃ ⊢
    exact turn₃

/-- A run ends as its turns end: what every turn carries on holds at the end of the whole. -/
theorem run_of_step (h : ∀ s b, I s b → Carries I Q (s.step T who b)) :
    ∀ (s : Script α) (b : Bus σ), I s b → Q (s.run T who b).1 (s.run T who b).2
  | .done _, _, hi => h _ _ hi
  | .fault _, _, hi => h _ _ hi
  | .note l rest, b, hi => run_of_step h rest (b.log who l) (h _ _ hi)
  | .call c rest, b, hi => by
    rw [run]
    rcases hc : b.call T who c with ⟨f | x, b'⟩
    · exact Carries.call h hc hi
    · exact run_of_step h (rest x) b' (Carries.call h hc hi)
  | .untilReady rest, b, hi => by
    have hs := settle_of_step h b hi
    rw [run]
    rcases hb : settle T who b with ⟨f | x, b'⟩ <;> rw [hb] at hs
    · exact hs
    · exact run_of_step h rest b' hs

/-- A whole run keeps the judgement of its script. -/
theorem Always.run {R : Bus σ → ω → Prop} (hW : W.Shows T who R) {Q : Except Fault α → ω → Prop}
    {s : Script α} {b : Bus σ} {w : ω} (hs : s.Always W Q w) (hr : R b w) :
    ∃ w', R (s.run T who b).2 w' ∧ Q (s.run T who b).1 w' := by
  refine run_of_step (I := fun s b => ∃ w, R b w ∧ s.Always W Q w)
    (Q := fun r b => ∃ w, R b w ∧ Q r w) (fun s b ⟨w, hr, hs⟩ => ?_) s b ⟨w, hr, hs⟩
  obtain ⟨w', hr', h⟩ := Always.step hW hs hr
  rcases hb : s.step T who b with ⟨rest | r, b'⟩ <;> rw [hb] at h hr' <;> exact ⟨w', hr', h⟩

end Run

end Script

end FlashGate

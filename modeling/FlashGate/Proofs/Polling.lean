/-
Devices that may stay busy however often they are polled. A transport comes with a bound on its busy
polls; a device does not, and a wait on it may go on for ever. `Device.timed` makes it a transport
on pairs of a device and the number of busy polls that it may still answer with yes. Main
statements: `Device.ends_iff`, that the runs on a device that come to an end are just the runs on
the pairs that leave a poll over, so that no run that ends is lost by the bound; and
`Device.Ends.of_transports`, that what a script does on every transport, it does on every device on
which it comes to an end.
-/
import FlashGate.Proofs.Transcript

namespace FlashGate

/-- A device that reacts to calls, with no bound on its busy polls. -/
structure Device (σ : Type) where
  commandSet : σ → CommandSet
  perform : σ → (c : Call) → Outcome σ c

/-! ## Counting polls -/

namespace Outcome

variable {σ : Type} {c : Call}

/-- The polls that an outcome takes: one, if a poll is answered with yes. -/
def polls : {c : Call} → Outcome σ c → Nat
  | .isBusy, ⟨.ok true, _, _⟩ => 1
  | _, _ => 0

/-- The outcome where so many polls may be answered with yes. When none is left the answer is no. -/
def timed (n : Nat) : {c : Call} → Outcome σ c → Outcome (σ × Nat) c
  | .isBusy, ⟨.ok true, device, breaches⟩ =>
    match n with
    | 0 => ⟨.ok false, (device, 0), breaches⟩
    | n + 1 => ⟨.ok true, (device, n), breaches⟩
  | _, ⟨reply, device, breaches⟩ => ⟨reply, (device, n), breaches⟩

theorem timed_le (n : Nat) (o : Outcome σ c) : (o.timed n).device.2 ≤ n := by
  unfold timed
  split
  · split <;> simp
  · exact Nat.le_refl n

theorem timed_eq {n : Nat} {o : Outcome σ c} (left : o.polls ≤ n) :
    o.timed n = ⟨o.reply, (o.device, n - o.polls), o.breaches⟩ := by
  obtain ⟨reply, device, breaches⟩ := o
  cases c with
  | isBusy =>
    rcases reply with f | busy
    · rfl
    · cases (busy : Bool) with
      | false => rfl
      | true =>
        cases n with
        | zero => cases left
        | succ n => rfl
  | _ => rfl

theorem polls_le_one (o : Outcome σ c) : o.polls ≤ 1 := by
  unfold polls
  split <;> omega

theorem timed_lt {n : Nat} {o : Outcome σ .isBusy} (busy : (o.timed n).reply = .ok true) :
    (o.timed n).device.2 < n := by
  obtain ⟨reply, device, breaches⟩ := o
  rcases reply with f | answer
  · cases busy
  · cases (answer : Bool) with
    | false => cases busy
    | true =>
      cases n with
      | zero => cases busy
      | succ n => exact Nat.lt_succ_self n

end Outcome

namespace Device

variable {σ α : Type} {D : Device σ} {who : Actor}

/-- The device with the number of busy polls that it may still answer with yes. -/
def timed (D : Device σ) : Transport (σ × Nat) where
  commandSet p := D.commandSet p.1
  perform p c := (D.perform p.1 c).timed p.2
  pending p := p.2
  pending_mask _ := Outcome.timed_le ..
  pending_restore _ _ := Outcome.timed_le ..
  pending_isBusy _ := Outcome.timed_lt

/-! ## Runs on a device -/

/-- Makes one call on a device, and notes it as it is noted for a transport. -/
def call (D : Device σ) (who : Actor) (c : Call) (b : Bus σ) : Except Fault c.Reply × Bus σ :=
  match D.perform b.device c with
  | ⟨reply, device, breaches⟩ =>
    (reply, Bus.record ⟨device, b.journal⟩ who (.call c reply :: breaches.map .breach))

/-- One round of a wait: a poll with interrupts masked, and the wait again if the device is busy. -/
def round (rest : Script α) : Script α :=
  .call .maskInterrupts fun token =>
    .call .isBusy fun (busy : Bool) =>
      .call (.restoreInterrupts token) fun _ => if busy then .untilReady rest else rest

/-- The script, run on the device, comes to its end with this result. -/
inductive Ends (D : Device σ) (who : Actor) :
    Script α → Bus σ → Except Fault α → Bus σ → Prop
  | done (a : α) (b : Bus σ) : Ends D who (.done a) b (.ok a) b
  | fault (f : Fault) (b : Bus σ) : Ends D who (.fault f) b (.error f) b
  | note {l : Line} {rest : Script α} {b b' : Bus σ} {r : Except Fault α}
    (ends : Ends D who rest (b.log who l) r b') : Ends D who (.note l rest) b r b'
  | fails {c : Call} {rest : c.Reply → Script α} {b b' : Bus σ} {f : Fault}
    (made : D.call who c b = (.error f, b')) : Ends D who (.call c rest) b (.error f) b'
  | call {c : Call} {rest : c.Reply → Script α} {b b₁ b' : Bus σ} {x : c.Reply}
    {r : Except Fault α} (made : D.call who c b = (.ok x, b₁))
    (ends : Ends D who (rest x) b₁ r b') :
    Ends D who (.call c rest) b r b'
  | waits {rest : Script α} {b b' : Bus σ} {r : Except Fault α}
    (ends : Ends D who (round rest) b r b') : Ends D who (.untilReady rest) b r b'

/-! ## Calls on the pairs -/

/-- The bus of a device, with so many polls left. -/
def withPolls (b : Bus σ) (n : Nat) : Bus (σ × Nat) := ⟨(b.device, n), b.journal⟩

/-- The bus of a device, whatever polls are left. -/
def bare (b : Bus (σ × Nat)) : Bus σ := ⟨b.device.1, b.journal⟩

theorem call_withPolls {c : Call} {b : Bus σ} {n : Nat} (left : (D.perform b.device c).polls ≤ n) :
    (withPolls b n).call D.timed who c =
      ((D.call who c b).1, withPolls (D.call who c b).2 (n - (D.perform b.device c).polls)) := by
  have outcome : D.timed.perform (b.device, n) c = _ := Outcome.timed_eq left
  simp only [Bus.call, withPolls, outcome, call]
  rfl

/-- A call that leaves a poll over is a call of the device. -/
theorem call_bare {c : Call} {p p' : Bus (σ × Nat)} {r : Except Fault c.Reply}
    (made : p.call D.timed who c = (r, p')) (left : 0 < p'.device.2) :
    0 < p.device.2 ∧ D.call who c (bare p) = (r, bare p') := by
  obtain ⟨⟨d, n⟩, journal⟩ := p
  have spent : p'.device.2 ≤ n := by
    have device := Bus.call_device D.timed who c ⟨(d, n), journal⟩
    rw [made] at device
    rw [device]
    exact Outcome.timed_le n (D.perform d c)
  have some : 0 < n := Nat.lt_of_lt_of_le left spent
  have polls : (D.perform d c).polls ≤ n := Nat.le_trans (Outcome.polls_le_one _) some
  have same : (withPolls ⟨d, journal⟩ n).call D.timed who c = _ := call_withPolls polls
  rw [withPolls, made] at same
  cases same
  exact ⟨some, rfl⟩

/-! ## Runs on the pairs -/

theorem run_round (T : Transport σ) (rest : Script α) (b : Bus σ) :
    (Script.untilReady rest).run T who b = (round rest).run T who b := by
  rw [Script.run_eq, Script.step, round, Script.run_call]
  rcases b.call T who .maskInterrupts with ⟨f | token, b'⟩ <;> rfl

/-- A run that ends takes so many polls, and leaves all others over. -/
theorem Ends.run_timed {s : Script α} {b b' : Bus σ} {r : Except Fault α}
    (ends : D.Ends who s b r b') :
    ∃ k, ∀ n, s.run D.timed who (withPolls b (n + k)) = (r, withPolls b' n) := by
  induction ends with
  | done | fault => exact ⟨0, fun _ => rfl⟩
  | note _ ih =>
    obtain ⟨k, run⟩ := ih
    exact ⟨k, fun n => run n⟩
  | @fails c rest b b' f made =>
    refine ⟨(D.perform b.device c).polls, fun n => ?_⟩
    rw [Script.run_call, call_withPolls (Nat.le_add_left ..), made, Nat.add_sub_cancel]
  | @call c rest b b₁ b' x r made _ ih =>
    obtain ⟨k, run⟩ := ih
    refine ⟨k + (D.perform b.device c).polls, fun n => ?_⟩
    rw [Script.run_call, call_withPolls (by omega), made, ← Nat.add_assoc, Nat.add_sub_cancel]
    exact run n
  | waits _ ih =>
    obtain ⟨k, run⟩ := ih
    exact ⟨k, fun n => (run_round _ _ _).trans (run n)⟩

/-- A run on the pairs that leaves a poll over is a run of the device that ends. -/
theorem ends_of_run {s : Script α} {p p' : Bus (σ × Nat)} {r : Except Fault α}
    (run : s.run D.timed who p = (r, p')) (left : 0 < p'.device.2) :
    D.Ends who s (bare p) r (bare p') := by
  -- all along, what is left of the script ends as the script does, if a poll is left over
  have carries (s' : Script α) (q : Bus (σ × Nat))
      (h : 0 < q.device.2 → ∀ r b', D.Ends who s' (bare q) r b' → D.Ends who s (bare p) r b') :
      Script.Carries (fun s' q => 0 < q.device.2 →
          ∀ r b', D.Ends who s' (bare q) r b' → D.Ends who s (bare p) r b')
        (fun r q => 0 < q.device.2 → D.Ends who s (bare p) r (bare q))
        (s'.step D.timed who q) := by
    cases s' with
    | done a => exact fun left => h left _ _ (.done a _)
    | fault f => exact fun left => h left _ _ (.fault f _)
    | note l rest => exact fun left r b' ends => h left r b' (.note ends)
    | call c rest =>
      rw [Script.step]
      rcases made : q.call D.timed who c with ⟨f | x, q'⟩
      · intro left
        obtain ⟨before, made⟩ := call_bare made left
        exact h before _ _ (.fails made)
      · intro left r b' ends
        obtain ⟨before, made⟩ := call_bare made left
        exact h before r b' (.call made ends)
    | untilReady rest =>
      rw [Script.step]
      rcases made : q.call D.timed who .maskInterrupts with ⟨f | token, q'⟩
      · intro left
        obtain ⟨before, made⟩ := call_bare made left
        exact h before _ _ (.waits (.fails made))
      · intro left r b' ends
        obtain ⟨before, made⟩ := call_bare made left
        exact h before r b' (.waits (.call made ends))
  have ends := Script.run_of_step carries s p fun _ _ _ ends => ends
  rw [run] at ends
  exact ends left

/-! ## What the bound leaves out -/

/-- The runs on a device that come to an end are the runs on the pairs that leave a poll over. -/
theorem ends_iff {s : Script α} {b b' : Bus σ} {r : Except Fault α} :
    D.Ends who s b r b' ↔
      ∃ n n', 0 < n' ∧ s.run D.timed who (withPolls b n) = (r, withPolls b' n') := by
  constructor
  · intro ends
    obtain ⟨k, run⟩ := ends.run_timed
    exact ⟨1 + k, 1, Nat.one_pos, run 1⟩
  · rintro ⟨n, n', left, run⟩
    exact ends_of_run run left

/-- What a script makes of the journal on every transport, it makes of it on every device on which
it comes to an end. -/
theorem Ends.of_transports {s : Script α} {b b' : Bus σ} {r : Except Fault α}
    {P : List Entry → Except Fault α → List Entry → Prop}
    (all : ∀ (τ : Type) (T : Transport τ) (b : Bus τ),
      P b.journal.toList (s.run T who b).1 (s.run T who b).2.journal.toList)
    (ends : D.Ends who s b r b') : P b.journal.toList r b'.journal.toList := by
  obtain ⟨n, n', -, run⟩ := ends_iff.1 ends
  have holds := all (σ × Nat) D.timed (withPolls b n)
  rw [run] at holds
  exact holds

/-- So also there the calls of a run are a transcript that the script plays, from which all that a
transfer does is read off. -/
theorem Ends.plays {s : Script α} {b b' : Bus σ} {r : Except Fault α}
    (ends : D.Ends who s b r b') :
    ∃ added, b'.journal.toList = b.journal.toList ++ added ∧
      (added.all Entry.isAnswered = true → s.Plays (exchangesIn added) r) :=
  ends.of_transports (P := fun before r after => ∃ added, after = before ++ added ∧
    (added.all Entry.isAnswered = true → s.Plays (exchangesIn added) r))
    fun _ T b => s.plays_run T who b

end Device

end FlashGate

/-
What a script and a device say to each other. `Script.Plays` relates a script with a transcript, the
calls that it makes with the answers that it gets, for every device that answers each call. Main
statements: `plays_bind` and `plays_each`, which follow the structure of a script,
`changes_of_plays`, what is said in a transaction that changes the device, and `ended_run` and
`plays_run`, that the calls of a run are a transcript that the script plays, or the beginning of one
if one of them faults.
-/
import FlashGate.Proofs.Bounds
import FlashGate.Proofs.Gateway.Halting
import Mathlib.Data.List.Forall2

namespace FlashGate

/-- A call with its answer. -/
structure Exchange where
  call : Call
  reply : call.Reply

namespace Exchange

/-- A call made while interrupts are masked. -/
def masked (token : UInt32) (c : Call) (x : c.Reply) : List Exchange :=
  [⟨.maskInterrupts, token⟩, ⟨c, x⟩, ⟨.restoreInterrupts token, ()⟩]

/-- Polls that find the device busy, up to one that finds it ready. -/
inductive Waits : List Exchange → Prop
  | ready (token : UInt32) : Waits (masked token .isBusy false)
  | busy (token : UInt32) {t : List Exchange} (h : Waits t) : Waits (masked token .isBusy true ++ t)

/-- A transaction that changes the device: a write enable, the call, polls until the device is ready
and a write disable. -/
inductive Changes (commands : CommandSet) (c : Call) : List Exchange → Prop
  | intro (enable token disable : UInt32) (x : c.Reply) {polls : List Exchange}
    (waits : Waits polls) :
    Changes commands c (masked enable (.sendCommand commands.writeEnable) () ++
      (masked token c x ++
        (polls ++ masked disable (.sendCommand commands.writeDisable) ())))

theorem Changes.mem {commands : CommandSet} {c : Call} {t : List Exchange}
    (h : Changes commands c t) : ∃ x ∈ t, x.call = c := by
  obtain ⟨enable, token, disable, x, waits⟩ := h
  exact ⟨⟨c, x⟩, by simp [masked], rfl⟩

end Exchange

/-- The exchange in an entry of the journal, if it is a call that was answered. -/
def Entry.exchange? (e : Entry) : Option Exchange :=
  match e.event with
  | .call c (.ok x) => some ⟨c, x⟩
  | _ => none

/-- The exchanges of a journal, in order. -/
def exchangesIn (journal : List Entry) : List Exchange := journal.filterMap Entry.exchange?

@[simp] theorem exchangesIn_append (a b : List Entry) :
    exchangesIn (a ++ b) = exchangesIn a ++ exchangesIn b := List.filterMap_append ..

theorem filterMap_breaches {γ : Type} {f : Entry → Option γ}
    (hf : ∀ who b, f ⟨who, .breach b⟩ = none) (who : Actor) (breaches : List Breach) :
    ((breaches.map Event.breach).map (⟨who, ·⟩)).filterMap f = [] := by
  refine List.filterMap_eq_nil_iff.2 fun e he => ?_
  obtain ⟨_, hx, rfl⟩ := List.mem_map.1 he
  obtain ⟨x, -, rfl⟩ := List.mem_map.1 hx
  exact hf who x

theorem exchangesIn_call (who : Actor) (c : Call) (r : Except Fault c.Reply)
    (breaches : List Breach) :
    exchangesIn ((Event.call c r :: breaches.map .breach).map (⟨who, ·⟩)) =
      (Entry.exchange? ⟨who, .call c r⟩).toList := by
  have none : exchangesIn ((breaches.map Event.breach).map (⟨who, ·⟩)) = [] :=
    filterMap_breaches (fun _ _ => rfl) who breaches
  rw [List.map_cons, ← List.singleton_append, exchangesIn_append, none, List.append_nil]
  cases r <;> rfl

theorem toldIn_call (who : Actor) (c : Call) (r : Except Fault c.Reply) (breaches : List Breach) :
    toldIn some ((Event.call c r :: breaches.map .breach).map (⟨who, ·⟩)) = [c] :=
  congrArg (c :: ·) (filterMap_breaches (fun _ _ => rfl) who breaches)

theorem toldIn_append {γ : Type} {f : Call → Option γ} (a b : List Entry) :
    toldIn f (a ++ b) = toldIn f a ++ toldIn f b := List.filterMap_append ..

theorem toldIn_of_answered {journal : List Entry} (answered : journal.all Entry.isAnswered = true) :
    toldIn some journal = (exchangesIn journal).map Exchange.call := by
  induction journal with
  | nil => rfl
  | cons e journal ih =>
    rw [List.all_cons, Bool.and_eq_true] at answered
    have rest := ih answered.2
    obtain ⟨who, event⟩ := e
    cases event with
    | call c r =>
      cases r with
      | ok x => exact congrArg (c :: ·) rest
      | error f => cases answered.1
    | _ => exact rest

/-- All calls of a journal are as `p` says. -/
def CallsIn (p : Call → Prop) (journal : List Entry) : Prop :=
  ∀ e ∈ journal, ∀ c r, e.event = .call c r → p c

theorem CallsIn.append {p : Call → Prop} {journal : List Entry} (h : CallsIn p journal)
    (who : Actor) {events : List Event} (he : ∀ c r, .call c r ∈ events → p c) :
    CallsIn p (journal ++ events.map (⟨who, ·⟩)) := by
  intro e hmem c r hc
  rcases List.mem_append.1 hmem with hmem | hmem
  · exact h e hmem c r hc
  · obtain ⟨x, hx, rfl⟩ := List.mem_map.1 hmem
    exact he c r (hc ▸ hx)

namespace Script

variable {α β : Type} {t : List Exchange}

/-- The script makes the calls of the transcript, in order, where it gets the answers there, and
ends with the given result. -/
def Plays : Script α → List Exchange → Except Fault α → Prop
  | .done a, t, r => t = [] ∧ r = .ok a
  | .fault f, t, r => t = [] ∧ r = .error f
  | .note _ rest, t, r => rest.Plays t r
  | .call c rest, t, r => ∃ x t', t = ⟨c, x⟩ :: t' ∧ (rest x).Plays t' r
  | .untilReady rest, t, r => ∃ polls t', t = polls ++ t' ∧ Exchange.Waits polls ∧ rest.Plays t' r

/-! ## Structure -/

/-- A script that goes on plays its first part and then the rest, unless the first part faults. -/
theorem plays_bind {f : α → Script β} {r : Except Fault β} :
    ∀ {s : Script α} {t : List Exchange}, (s >>= f).Plays t r ↔
      (∃ e, s.Plays t (.error e) ∧ r = .error e) ∨
        ∃ a t₁ t₂, t = t₁ ++ t₂ ∧ s.Plays t₁ (.ok a) ∧ (f a).Plays t₂ r
  | .done a, t => by
    show (f a).Plays t r ↔ _
    constructor
    · exact fun h => .inr ⟨a, [], t, rfl, ⟨rfl, rfl⟩, h⟩
    · rintro (⟨_, ⟨-, ⟨⟩⟩, -⟩ | ⟨_, _, _, rfl, ⟨rfl, ⟨⟩⟩, h⟩)
      exact h
  | .fault e, t => by
    show t = [] ∧ r = .error e ↔ _
    constructor
    · rintro ⟨rfl, rfl⟩
      exact .inl ⟨e, ⟨rfl, rfl⟩, rfl⟩
    · rintro (⟨_, ⟨rfl, ⟨⟩⟩, rfl⟩ | ⟨_, _, _, -, ⟨-, ⟨⟩⟩, -⟩)
      exact ⟨rfl, rfl⟩
  | .note _ rest, t => plays_bind (s := rest)
  | .call c rest, t => by
    show (∃ x t', t = _ ∧ (rest x >>= f).Plays t' r) ↔ _
    simp only [plays_bind (s := rest _)]
    constructor
    · rintro ⟨x, t', rfl, ⟨e, h, rfl⟩ | ⟨a, t₁, t₂, rfl, h, h'⟩⟩
      · exact .inl ⟨e, ⟨x, t', rfl, h⟩, rfl⟩
      · exact .inr ⟨a, ⟨c, x⟩ :: t₁, t₂, rfl, ⟨x, t₁, rfl, h⟩, h'⟩
    · rintro (⟨e, ⟨x, t', rfl, h⟩, rfl⟩ | ⟨a, _, t₂, rfl, ⟨x, t₁, rfl, h⟩, h'⟩)
      · exact ⟨x, t', rfl, .inl ⟨e, h, rfl⟩⟩
      · exact ⟨x, t₁ ++ t₂, rfl, .inr ⟨a, t₁, t₂, rfl, h, h'⟩⟩
  | .untilReady rest, t => by
    show (∃ polls t', t = _ ∧ _ ∧ (rest >>= f).Plays t' r) ↔ _
    simp only [plays_bind (s := rest)]
    constructor
    · rintro ⟨polls, t', rfl, waits, ⟨e, h, rfl⟩ | ⟨a, t₁, t₂, rfl, h, h'⟩⟩
      · exact .inl ⟨e, ⟨polls, t', rfl, waits, h⟩, rfl⟩
      · exact .inr ⟨a, polls ++ t₁, t₂, (List.append_assoc ..).symm, ⟨polls, t₁, rfl, waits, h⟩, h'⟩
    · rintro (⟨e, ⟨polls, t', rfl, waits, h⟩, rfl⟩ |
        ⟨a, _, t₂, rfl, ⟨polls, t₁, rfl, waits, h⟩, h'⟩)
      · exact ⟨polls, t', rfl, waits, .inl ⟨e, h, rfl⟩⟩
      · exact ⟨polls, t₁ ++ t₂, List.append_assoc .., waits, .inr ⟨a, t₁, t₂, rfl, h, h'⟩⟩

theorem plays_masked {c : Call} {r : Except Fault c.Reply} :
    (masked c).Plays t r ↔ ∃ token x, t = Exchange.masked token c x ∧ r = .ok x := by
  constructor
  · rintro ⟨token, _, rfl, x, _, rfl, ⟨⟩, _, rfl, rfl, rfl⟩
    exact ⟨token, x, rfl, rfl⟩
  · rintro ⟨token, x, rfl, rfl⟩
    exact ⟨token, _, rfl, x, _, rfl, (), _, rfl, rfl, rfl⟩

theorem plays_after {P : List Exchange → Prop} {s : Script Unit} {f : Unit → Script β}
    {r : Except Fault β} (hs : ∀ t r, s.Plays t r → P t ∧ r = .ok ()) (h : (s >>= f).Plays t r) :
    ∃ t₁ t₂, t = t₁ ++ t₂ ∧ P t₁ ∧ (f ()).Plays t₂ r := by
  obtain ⟨e, failed, -⟩ | ⟨_, t₁, t₂, rfl, h₁, h₂⟩ := plays_bind.1 h
  · cases (hs _ _ failed).2
  · exact ⟨t₁, t₂, rfl, (hs _ _ h₁).1, h₂⟩

/-- An action for each element is played block by block, where each action ends well. -/
theorem plays_each {f : β → Script Unit} {P : β → List Exchange → Prop}
    (hf : ∀ x t r, (f x).Plays t r → P x t ∧ r = .ok ()) :
    ∀ (l : List β) (t : List Exchange) (r : Except Fault Unit), (each f l).Plays t r →
      (∃ blocks, t = blocks.flatten ∧ List.Forall₂ P l blocks) ∧ r = .ok ()
  | [], _, _, ⟨ht, hr⟩ => ⟨⟨[], ht, .nil⟩, hr⟩
  | x :: l, _, r, h => by
    obtain ⟨block, rest, rfl, done, h⟩ := plays_after (hf x) h
    obtain ⟨⟨blocks, rfl, all⟩, ended⟩ := plays_each hf l rest r h
    exact ⟨⟨block :: blocks, rfl, .cons done all⟩, ended⟩

theorem plays_masked_bind {c : Call} {f : c.Reply → Script β} {r : Except Fault β} :
    (masked c >>= f).Plays t r ↔
      ∃ token x t', t = Exchange.masked token c x ++ t' ∧ (f x).Plays t' r := by
  rw [plays_bind]
  simp only [plays_masked]
  constructor
  · rintro (⟨e, ⟨_, _, _, ⟨⟩⟩, _⟩ | ⟨x, _, t', rfl, ⟨token, _, rfl, ⟨⟩⟩, h⟩)
    exact ⟨token, x, t', rfl, h⟩
  · rintro ⟨token, x, t', rfl, h⟩
    exact .inr ⟨x, _, t', rfl, ⟨token, x, rfl, rfl⟩, h⟩

theorem nonempty_reply (c : Call) : Nonempty c.Reply := by
  cases c <;> first
    | exact ⟨(.ok () : Except DeviceError Unit)⟩
    | exact ⟨(0 : UInt32)⟩
    | exact ⟨([] : List UInt8)⟩
    | exact ⟨false⟩
    | exact ⟨()⟩

theorem exists_plays : ∀ s : Script α, ∃ t r, s.Plays t r
  | .done a => ⟨[], _, rfl, rfl⟩
  | .fault f => ⟨[], _, rfl, rfl⟩
  | .note _ rest => exists_plays rest
  | .call c rest => by
    obtain ⟨x⟩ := nonempty_reply c
    obtain ⟨t, r, plays⟩ := exists_plays (rest x)
    exact ⟨⟨c, x⟩ :: t, r, x, t, rfl, plays⟩
  | .untilReady rest => by
    obtain ⟨t, r, plays⟩ := exists_plays rest
    exact ⟨_, r, _, t, rfl, .ready 0, plays⟩

/-- A poll that has masked interrupts goes on to a transcript of its wait. -/
theorem plays_untilReady {rest : Script α} {token : UInt32} {r : Except Fault α}
    (h : (Script.call .isBusy fun (busy : Bool) => .call (.restoreInterrupts token) fun _ =>
      if busy then .untilReady rest else rest).Plays t r) :
    (Script.untilReady rest).Plays (⟨.maskInterrupts, token⟩ :: t) r := by
  obtain ⟨busy, _, rfl, ⟨⟩, t, rfl, plays⟩ := h
  cases busy with
  | false => exact ⟨Exchange.masked token .isBusy false, t, rfl, .ready token, plays⟩
  | true =>
    obtain ⟨polls, t, rfl, waits, plays⟩ := plays
    exact ⟨Exchange.masked token .isBusy true ++ polls, t, rfl, .busy token waits, plays⟩

/-! ## Transactions -/

theorem changes_of_plays {commands : CommandSet} {c : Call} (t : List Exchange)
    (r : Except Fault Unit) (h : (Transfer.change commands c).Plays t r) :
    Exchange.Changes commands c t ∧ r = .ok () := by
  obtain ⟨enable, _, _, rfl, enabled⟩ := plays_masked_bind.1 h
  obtain ⟨token, x, _, rfl, polls, _, rfl, waits, ready⟩ := plays_masked_bind.1 enabled
  obtain ⟨disable, _, rfl, ended⟩ := plays_masked.1 ready
  exact ⟨.intro enable token disable x waits, ended⟩

/-! ## Runs -/

section Run

variable {σ : Type} {before : List Entry} {s left : Script α} {b : Bus σ}

/-- The calls since `before` are answered, and begin each transcript of the script that goes on with
one of what is left of it. -/
def Begun (before : List Entry) (s : Script α) (b : Bus σ) (left : Script α) : Prop :=
  ∃ added, b.journal.toList = before ++ added ∧ added.all Entry.isAnswered = true ∧
    ∀ t r, left.Plays t r → s.Plays (exchangesIn added ++ t) r

/-- The calls since `before` begin a transcript of the script. If all of them are answered they are
the whole of it, and it has the given result. -/
def Ended (before : List Entry) (s : Script α) (result : Except Fault α) (b : Bus σ) : Prop :=
  ∃ added t r, b.journal.toList = before ++ added ∧ s.Plays t r ∧ exchangesIn added <+: t ∧
    toldIn some added <+: t.map Exchange.call ∧
    (added.all Entry.isAnswered = true → exchangesIn added = t ∧ result = r)

theorem Begun.ended (h : Begun before s b left) {r : Except Fault α} (ends : left.Plays [] r) :
    Ended before s r b := by
  obtain ⟨added, journal, answered, plays⟩ := h
  have played := plays [] r ends
  rw [List.append_nil] at played
  exact ⟨added, _, r, journal, played, List.prefix_rfl,
    toldIn_of_answered answered ▸ List.prefix_rfl, fun _ => ⟨rfl, rfl⟩⟩

theorem Begun.log (h : Begun before s b left) (who : Actor) (l : Line) :
    Begun before s (b.log who l) left := by
  obtain ⟨added, journal, answered, plays⟩ := h
  refine ⟨added ++ [⟨who, .log l⟩], ?_, ?_, fun t r played => ?_⟩
  · rw [Bus.log, Bus.toList_journal_record, journal, List.append_assoc]
    rfl
  · rw [List.all_append, answered]
    rfl
  · have none : exchangesIn [⟨who, .log l⟩] = [] := rfl
    rw [exchangesIn_append, none, List.append_nil]
    exact plays t r played

/-- A call goes on with its answer, or a fault of it ends the run. -/
theorem Begun.call (T : Transport σ) (who : Actor) {c : Call} (next : c.Reply → Script α)
    (h : Begun before s b left)
    (goes : ∀ x t r, (next x).Plays t r → left.Plays (⟨c, x⟩ :: t) r) :
    match b.call T who c with
    | (.error _, b') => ∀ r, Ended before s r b'
    | (.ok x, b') => Begun before s b' (next x) := by
  obtain ⟨added, journal, answered, plays⟩ := h
  have told := b.toList_journal_call T who c
  have reply := b.call_reply T who c
  rw [journal, List.append_assoc] at told
  rcases hc : b.call T who c with ⟨f | x, b'⟩ <;> rw [hc] at told reply
  · obtain ⟨x⟩ := nonempty_reply c
    obtain ⟨t, r, played⟩ := exists_plays (next x)
    refine fun _ => ⟨_, exchangesIn added ++ ⟨c, x⟩ :: t, r, told, plays _ r (goes x t r played),
      ?_, ?_, fun all => ?_⟩
    · rw [exchangesIn_append, exchangesIn_call, ← reply]
      simp [Entry.exchange?]
    · rw [toldIn_append, toldIn_call, toldIn_of_answered answered, List.map_append, List.map_cons,
        List.prefix_append_right_inj]
      exact List.prefix_append [c] _
    · simp [← reply, Entry.isAnswered, Except.isOk, Except.toBool] at all
  · refine ⟨_, told, ?_, fun t r played => ?_⟩
    · rw [List.all_append, answered, ← reply]
      simp [Entry.isAnswered, Except.isOk, Except.toBool]
    · rw [exchangesIn_append, ← reply, exchangesIn_call, List.append_assoc]
      exact plays _ r (goes x t r played)

/-- A turn of a script carries on with its transcript. -/
theorem begun_step (T : Transport σ) (who : Actor) (left : Script α) (b : Bus σ)
    (h : Begun before s b left) : Carries (fun left b => Begun before s b left)
      (fun r b => Ended before s r b) (left.step T who b) := by
  cases left with
  | done a => exact h.ended ⟨rfl, rfl⟩
  | fault f => exact h.ended ⟨rfl, rfl⟩
  | note l rest => exact Begun.log h who l
  | call c rest =>
    have next := h.call T who rest fun x t r played => ⟨x, t, rfl, played⟩
    rw [step]
    rcases hc : b.call T who c with ⟨f | x, b'⟩ <;> rw [hc] at next
    · exact next _
    · exact next
  | untilReady rest =>
    have next := h.call T who (c := .maskInterrupts) (fun token => .call .isBusy
      fun (busy : Bool) => .call (.restoreInterrupts token) fun _ =>
        if busy then .untilReady rest else rest) fun _ _ _ => plays_untilReady
    rw [step]
    rcases hc : b.call T who .maskInterrupts with ⟨f | token, b'⟩ <;> rw [hc] at next
    · exact next _
    · exact next

end Run

/-- The calls of a run begin a transcript that its script plays, also if one of them faults. -/
theorem ended_run {σ : Type} (T : Transport σ) (who : Actor) (s : Script α) (b : Bus σ) :
    Ended b.journal.toList s (s.run T who b).1 (s.run T who b).2 :=
  run_of_step (begun_step T who) s b ⟨[], by simp, rfl, fun _ _ played => played⟩

/-- The calls of a run are a transcript that the script plays, if all of them are answered. -/
theorem plays_run {σ : Type} (T : Transport σ) (who : Actor) (s : Script α) (b : Bus σ) :
    ∃ added, (s.run T who b).2.journal.toList = b.journal.toList ++ added ∧
      (added.all Entry.isAnswered = true → s.Plays (exchangesIn added) (s.run T who b).1) := by
  obtain ⟨added, t, r, journal, played, -, -, whole⟩ := ended_run T who s b
  refine ⟨added, journal, fun answered => ?_⟩
  obtain ⟨same, result⟩ := whole answered
  rw [same, result]
  exact played

/-- The calls of a run are of the kind that its script makes. -/
theorem Only.run {σ : Type} {T : Transport σ} {who : Actor} {p : Call → Prop} {s : Script α}
    {b : Bus σ} (hs : s.Only p) {added : List Entry}
    (journal : (s.run T who b).2.journal.toList = b.journal.toList ++ added) : CallsIn p added := by
  have shows : (World.any p).Shows T who fun b' _ => ∃ more,
      b'.journal.toList = b.journal.toList ++ more ∧ CallsIn p more := by
    constructor
    · rintro b' _ c ⟨more, told, all⟩ hc
      have grown := b'.toList_journal_call T who c
      rw [told, List.append_assoc] at grown
      refine ⟨(), trivial, _, grown, all.append who fun c' r hc' => ?_⟩
      rcases List.mem_cons.1 hc' with same | other
      · cases same
        exact hc
      · simp at other
    · rintro b' _ l ⟨more, told, all⟩
      have grown := b'.toList_journal_record who [.log l]
      rw [told, List.append_assoc] at grown
      exact ⟨_, grown, all.append who fun c' r hc' => by simp at hc'⟩
  have start : ∃ more, b.journal.toList = b.journal.toList ++ more ∧ CallsIn p more :=
    ⟨[], by simp, fun _ he => by cases he⟩
  obtain ⟨_, ⟨more, told, all⟩, -⟩ := Always.run shows hs start
  obtain rfl := List.append_cancel_left (journal.symm.trans told)
  exact all

theorem Only.device_run {σ : Type} (T : Transport σ) (who : Actor) {s : Script α}
    (hs : s.Only fun _ => False) (b : Bus σ) : (s.run T who b).2.device = b.device := by
  have shows : (World.any fun _ => False).Shows T who fun b' _ => b'.device = b.device :=
    ⟨fun _ _ _ _ no => no.elim, fun _ _ _ same => same⟩
  obtain ⟨_, same, -⟩ := Always.run shows hs rfl
  exact same

end Script

end FlashGate

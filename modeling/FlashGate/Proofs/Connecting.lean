/-
Connecting with retries. Main statement: `connects_exactly`, how often a connect is tried and how it
ends on each transport that refuses it so many times, for every retry policy; and that a dispatcher
whose connect has failed for good makes no further call and hands over nothing, over any transport
and whatever the order in which the threads move.
-/
import FlashGate.Proofs.Reconfiguration
import FlashGate.Proofs.Transcript

namespace FlashGate

/-! ## A connect that is refused -/

/-- The device refuses the next connects, so many of them, and then connects. Between two connects
it is left alone for the delay. -/
inductive Transport.Refuses {σ : Type} (T : Transport σ) (delay : UInt32) : Nat → σ → Prop
  | connects {d : σ}
    (reply : (T.perform d .connect).reply =
      (.ok (.ok ()) : Except Fault (Except DeviceError Unit))) :
    Refuses T delay 0 d
  | refuses {d : σ} {k : Nat} {e : DeviceError}
    (reply : (T.perform d .connect).reply =
      (.ok (.error e) : Except Fault (Except DeviceError Unit)))
    (waits : (T.perform (T.perform d .connect).device (.delay delay)).reply = .ok ())
    (rest : Refuses T delay k (T.perform (T.perform d .connect).device (.delay delay)).device) :
    Refuses T delay (k + 1) d

namespace Script

variable {α σ : Type} {T : Transport σ} {who : Actor}

/-- The run makes just these calls, all of them are answered, and it ends with the value. -/
def Makes (T : Transport σ) (who : Actor) (s : Script α) (b : Bus σ) (calls : List Call) (a : α) :
    Prop :=
  ∃ added, (s.run T who b).2.journal.toList = b.journal.toList ++ added ∧
    added.all Entry.isAnswered = true ∧ toldIn some added = calls ∧ (s.run T who b).1 = .ok a

theorem makes_done (a : α) (b : Bus σ) : Makes T who (.done a) b [] a :=
  ⟨[], by simp [run], rfl, rfl, rfl⟩

theorem Makes.note {rest : Script α} {b : Bus σ} {calls : List Call} {a : α} (l : Line)
    (h : Makes T who rest (b.log who l) calls a) : Makes T who (.note l rest) b calls a := by
  obtain ⟨added, journal, answered, told, result⟩ := h
  refine ⟨⟨who, .log l⟩ :: added, ?_, answered, told, result⟩
  rw [run, journal, Bus.log, Bus.toList_journal_record, List.append_assoc]
  rfl

theorem Makes.call {c : Call} {x : c.Reply} {rest : c.Reply → Script α} {b : Bus σ}
    {calls : List Call} {a : α} (reply : (T.perform b.device c).reply = .ok x)
    (h : Makes T who (rest x) (b.call T who c).2 calls a) :
    Makes T who (.call c rest) b (c :: calls) a := by
  obtain ⟨added, journal, answered, told, result⟩ := h
  have step : (Script.call c rest).run T who b = (rest x).run T who (b.call T who c).2 := by
    have same := b.call_reply T who c
    rw [run_call]
    rcases hc : b.call T who c with ⟨f | y, b'⟩ <;> rw [hc, reply] at same <;> cases same
    rfl
  have grown := b.toList_journal_call T who c
  rw [grown, List.append_assoc] at journal
  rw [Makes, step, result]
  refine ⟨_, journal, ?_, ?_, rfl⟩
  · rw [List.all_append, answered, reply]
    simp [Entry.isAnswered, Except.isOk, Except.toBool]
  · rw [toldIn_append, toldIn_call, told]
    rfl

end Script

namespace Transfer

open Script

variable {σ : Type} {T : Transport σ} {who : Actor}

theorem makes_connected (attempts : Nat) (b : Bus σ) :
    Makes T who (connectFrom.connected attempts) b [] (.ok ()) := by
  unfold connectFrom.connected
  split
  · exact Makes.note _ (makes_done _ _)
  · exact makes_done _ _

theorem makes_connectFrom (delay : UInt32) (left : Nat) : ∀ (attempts k : Nat) (b : Bus σ),
    attempts + min k left < 2 ^ 32 → T.Refuses delay k b.device →
      Makes T who (connectFrom delay left attempts) b
        ((List.replicate (min k left) [.connect, .delay delay]).flatten ++ [.connect])
        (if k ≤ left then .ok ()
          else .error (.connectFailed (UInt32.ofNat (attempts + left)))) := by
  induction left with
  | zero =>
    rintro attempts _ b - (reply | ⟨reply, -, -⟩)
    · exact Makes.call reply (makes_connected attempts _)
    · exact Makes.call reply (makes_done _ _)
  | succ left ih =>
    rintro attempts _ b range (reply | @⟨_, k, _, reply, waits, rest⟩)
    · exact Makes.call reply (makes_connected attempts _)
    · have fits : attempts + 1 < 0x100000000 := by omega
      have fewer : min (k + 1) (left + 1) = min k left + 1 := by omega
      have count : attempts + (left + 1) = attempts + 1 + left := by omega
      rw [fewer, count, List.replicate_succ, List.flatten_cons]
      simp only [Nat.add_le_add_iff_right]
      refine Makes.call reply (Makes.note _ (Makes.call waits ?_))
      show Makes T who (if attempts + 1 < 0x100000000 then connectFrom delay left (attempts + 1)
        else .fault .overflow) _ _ _
      rw [if_pos fits]
      exact ih (attempts + 1) k _ (by omega) rest

end Transfer

/-! ## A connect that has failed for good -/

/-- Whether a connect was refused. -/
def Except.refuses : Except Fault (Except DeviceError Unit) → Bool
  | .ok (.error _) => true
  | _ => false

/-- How many connects have been refused in a row after a call: delays do not count, and any other
call ends the row. -/
def Call.refusals (n : Nat) : (c : Call) → Except Fault c.Reply → Nat
  | .connect, r => if Except.refuses r then n + 1 else 0
  | .delay _, _ => n
  | _, _ => 0

/-- How many connects of the dispatcher have been refused in a row after an entry of the journal. -/
def Entry.refusals (n : Nat) (e : Entry) : Nat :=
  match e.actor, e.event with
  | .dispatcher, .call c r => c.refusals n r
  | _, _ => n

/-- How many connects of the dispatcher have been refused in a row at the end of a journal. -/
def refusalsIn (journal : List Entry) : Nat := journal.foldl Entry.refusals 0

/-- Whether the entry is a call of the dispatcher, or hands over the bytes of a read. -/
def Entry.isService (e : Entry) : Bool :=
  match e.actor, e.event with
  | .dispatcher, .call .. => true
  | _, .answered .. => true
  | _, _ => false

theorem Call.refusals_zero {c : Call} (h : c ≠ .connect) (r : Except Fault c.Reply) :
    c.refusals 0 r = 0 := by
  cases c <;> first | rfl | exact absurd rfl h

theorem refusalsIn_append (a b : List Entry) :
    refusalsIn (a ++ b) = b.foldl Entry.refusals (refusalsIn a) := List.foldl_append ..

/-- Entries of clients, and entries without calls, leave the row as it is. -/
theorem refusals_quiet {who : Actor} {events : List Event}
    (h : who ≠ .dispatcher ∨ ∀ e ∈ events, ∀ c r, e ≠ .call c r) (n : Nat) :
    (events.map (⟨who, ·⟩)).foldl Entry.refusals n = n := by
  induction events with
  | nil => rfl
  | cons e events ih =>
    have rest := ih (h.imp_right fun h e he => h e (List.mem_cons_of_mem _ he))
    have first : Entry.refusals n ⟨who, e⟩ = n := by
      cases who with
      | client id => rfl
      | dispatcher =>
        have none := h.resolve_left (by simp) e (List.mem_cons_self ..)
        cases e with
        | call c r => exact absurd rfl (none c r)
        | _ => rfl
    rw [List.map_cons, List.foldl_cons, first, rest]

theorem refusalsIn_call {σ : Type} (T : Transport σ) (who : Actor) (c : Call) (b : Bus σ) :
    refusalsIn (b.call T who c).2.journal.toList =
      Entry.refusals (refusalsIn b.journal.toList) ⟨who, .call c (b.call T who c).1⟩ := by
  rw [Bus.toList_journal_call, refusalsIn_append, List.map_cons, List.foldl_cons,
    refusals_quiet (.inr fun e he c r => ?_), Bus.call_reply]
  obtain ⟨x, -, rfl⟩ := List.mem_map.1 he
  simp

/-- No service comes after as many refused connects as give a connect up. -/
def Persists (retries : Nat) (journal : List Entry) : Prop :=
  ∀ before e after, journal = before ++ e :: after → e.isService = true →
    refusalsIn before ≤ retries

variable {retries : Nat}

theorem Persists.concat {journal : List Entry} (h : Persists retries journal) {e : Entry}
    (he : e.isService = true → refusalsIn journal ≤ retries) :
    Persists retries (journal ++ [e]) := by
  intro before x after hj hx
  rcases List.eq_nil_or_concat after with rfl | ⟨after, y, rfl⟩
  · obtain ⟨rfl, same⟩ := List.append_inj' hj rfl
    obtain rfl : e = x := by simpa using same
    exact he hx
  · rw [List.concat_eq_append, ← List.cons_append, ← List.append_assoc] at hj
    exact h before x after (List.append_inj' hj rfl).1 hx

theorem Persists.append {journal added : List Entry} (h : Persists retries journal)
    (quiet : ∀ e ∈ added, e.isService = false) : Persists retries (journal ++ added) := by
  induction added generalizing journal with
  | nil => simpa using h
  | cons e added ih =>
    rw [← List.singleton_append, ← List.append_assoc]
    refine ih (h.concat fun he => ?_) fun x hx => quiet x (List.mem_cons_of_mem _ hx)
    rw [quiet e (List.mem_cons_self ..)] at he
    cases he

/-- After a connect that has failed for good there is no service at all. -/
theorem Persists.none_after {after : List Entry} : ∀ {before : List Entry},
    Persists retries (before ++ after) → retries < refusalsIn before →
      ∀ e ∈ after, e.isService = false := by
  induction after with
  | nil => simp
  | cons e after ih =>
    intro before h lost
    have first : e.isService = false :=
      eq_false_of_ne_true fun he => by have := h before e after rfl he; omega
    have same : Entry.refusals (refusalsIn before) e = refusalsIn before := by
      obtain ⟨who, event⟩ := e
      cases who <;> cases event <;> first | rfl | cases first
    rintro x (_ | ⟨_, hx⟩)
    · exact first
    · have rest : Persists retries ((before ++ [e]) ++ after) := by rwa [List.append_assoc]
      refine ih rest ?_ x hx
      rw [refusalsIn_append, List.foldl_cons, List.foldl_nil, same]
      exact lost

namespace Persisting

open Script

/-- The world of an observer who counts the refused connects of the dispatcher, and lets its calls
pass as long as a connect has not failed for good. -/
def world (retries : Nat) (who : Actor) : World Nat where
  permits n _ := who = .dispatcher → n ≤ retries
  reacts n c r n' := n' = Entry.refusals n ⟨who, .call c r⟩

variable {α : Type}

theorem always_client (id : ClientId) (s : Script α) {n : Nat} :
    s.Always (world retries (.client id)) (fun _ n' => n' = n) n := by
  have permits (n : Nat) (c : Call) : (world retries (.client id)).permits n c := by rintro ⟨⟩
  refine Only.always (p := fun _ => True) (I := fun n' => n' = n) ?_ ?_
    (always_unit (fun _ => trivial) s) rfl
  · rintro _ c rfl -
    exact ⟨permits _ c, fun _ _ h => h⟩
  · rintro _ rfl c -
    refine ⟨permits _ c, ?_⟩
    rintro (f | x) _ rfl <;> rfl

/-- Calls of the dispatcher that do not connect leave it without refused connects. -/
theorem always_only {s : Script α} (hs : s.Only Transfer.stays) :
    s.Always (world retries .dispatcher) (fun _ n => n = 0) 0 := by
  have zero {c : Call} (h : c ≠ .connect) (r : Except Fault c.Reply) :
      Entry.refusals 0 ⟨.dispatcher, .call c r⟩ = 0 := Call.refusals_zero h r
  refine Only.always (p := Transfer.stays) (I := fun n => n = 0) ?_ ?_ hs rfl
  · rintro _ c rfl hc
    refine ⟨fun _ => Nat.zero_le _, ?_⟩
    rintro r _ rfl
    exact zero (fun h => by subst h; cases hc) r
  · rintro _ rfl c hc
    refine ⟨fun _ => Nat.zero_le _, ?_⟩
    rintro r _ rfl
    have := zero (fun h => by subst h; cases hc) r
    cases r <;> exact this

theorem always_call {n : Nat} (c : Call) (passes : n ≤ retries) :
    (ask c).Always (world retries .dispatcher) (fun r n' => n' = c.refusals n r) n :=
  always_ask.2 ⟨fun _ => passes, fun _ _ h => h⟩

/-- How a reconfiguration ends: without refused connects, unless it fails for good. -/
abbrev Arrives : Transfer.Pins → Except Fault (Except DeviceError Unit) → Nat → Prop :=
  Transfer.Arrives (fun _ n => n = 0) fun _ _ => True

theorem always_connected (attempts : Nat) : (Transfer.connectFrom.connected attempts).Always
    (world retries .dispatcher) (Arrives ⟨true, false⟩) 0 := by
  unfold Transfer.connectFrom.connected
  split <;> exact rfl

/-- A connect makes its calls before it has failed for good, and leaves no refused connects where it
succeeds. -/
theorem always_connectFrom (delay : UInt32) (left : Nat) : ∀ (attempts n : Nat),
    n + left = retries → (Transfer.connectFrom delay left attempts).Always
      (world retries .dispatcher) (Arrives ⟨true, false⟩) n := by
  induction left with
  | zero =>
    intro attempts n row
    refine always_bind.2 (Always.mono ?_ (always_call .connect (by omega)))
    rintro (f | ⟨e | ⟨⟩⟩) _ rfl
    · trivial
    · trivial
    · exact always_connected attempts
  | succ left ih =>
    intro attempts n row
    refine always_bind.2 (Always.mono ?_ (always_call .connect (by omega)))
    rintro (f | ⟨e | ⟨⟩⟩) _ rfl
    · trivial
    · refine always_bind.2 (always_log.2 (always_bind.2
        (Always.mono ?_ (always_call (.delay delay) (n := n + 1) (by omega)))))
      rintro (f | x) _ rfl
      · trivial
      · show Always _ _ (if _ then _ else _) _
        split
        · exact ih (attempts + 1) (n + 1) (by omega)
        · trivial
    · exact always_connected attempts

theorem moves :
    Transfer.Moves (world retries .dispatcher) (fun _ n => n = 0) (fun _ _ => True) where
  disconnect := by
    rintro p _ rfl
    refine Always.mono ?_ (always_call .disconnect (Nat.zero_le _))
    rintro (f | x) _ rfl
    · trivial
    · exact rfl
  shutdown := by
    rintro p _ rfl
    refine Always.mono ?_ (always_call .fastReadShutdown (Nat.zero_le _))
    rintro (f | x) _ rfl
    · trivial
    · exact rfl
  claim := by
    rintro p _ - rfl
    refine always_bind.2 (Always.mono ?_ (always_call .fastReadSetup (Nat.zero_le _)))
    rintro (f | x) _ rfl
    · trivial
    · refine Always.mono ?_ (always_call .fastReadApplyCalibration (Nat.zero_le _))
      rintro (f | x) _ rfl
      · trivial
      · exact rfl

/-- A job runs into a connect that fails for good, or ends without refused connects. -/
theorem always_serve (s : Setup) (m : Mode) (o : Operation) :
    (Control.serve s m o).Always (world s.retry.retries.toNat .dispatcher)
      (fun r n => match r with
        | .ok _ => n = 0
        | .error _ => True) 0 := by
  have reconfigures : (Transfer.reconfigure (m.stepsTo o.kind) s.retry).Always
      (world s.retry.retries.toNat .dispatcher) (Arrives (.of o.kind)) 0 := by
    refine Transfer.always_reconfigure_to moves (fun _ _ h => h) ?_ o.kind rfl
    rintro p _ - rfl
    exact always_connectFrom s.retry.delay _ 1 0 (Nat.zero_add _)
  refine always_bind.2 (Always.mono ?_ reconfigures)
  rintro (f | ⟨e | ⟨⟩⟩) n h
  · trivial
  · exact always_bind.2 (always_log.2 trivial)
  · obtain rfl : n = 0 := h
    refine Always.mono ?_ (always_only (Transfer.only_perform s o))
    rintro (f | bytes) n none
    · trivial
    · exact none

theorem always_release (s : Setup) (m : Mode) :
    (Control.release s m).Always (world retries .dispatcher)
      (fun r n => match r with
        | .ok _ => n = 0
        | .error _ => True) 0 := by
  refine always_bind.2 (Always.mono ?_ (Transfer.always_reconfigure_release moves rfl))
  rintro (f | ⟨e | ⟨⟩⟩) n h
  · trivial
  · exact h.elim
  · exact h

variable {σ : Type} {T : Transport σ}

/-- The dispatcher makes no call after a connect that has failed for good, and hands over nothing.
-/
def judgement (T : Transport σ) (env : σ → σ → Prop) (s : Setup) : Judgement T env s Nat where
  W := world s.retry.retries.toNat
  Seen _ b n := refusalsIn b.journal.toList = n ∧ Persists s.retry.retries.toNat b.journal.toList
  shows done who := {
    call := by
      rintro b _ c ⟨rfl, persists⟩ passes
      refine ⟨_, rfl, refusalsIn_call T who c b, ?_⟩
      rw [Bus.toList_journal_call, List.map_cons, ← List.singleton_append, ← List.append_assoc]
      refine (persists.concat fun he => passes ?_).append fun e he => ?_
      · cases who with
        | dispatcher => rfl
        | client id => cases he
      · obtain ⟨x, hx, rfl⟩ := List.mem_map.1 he
        obtain ⟨y, -, rfl⟩ := List.mem_map.1 hx
        cases who <;> rfl
    log := by
      rintro b _ l ⟨rfl, persists⟩
      rw [Bus.log, Bus.toList_journal_record]
      refine ⟨?_, persists.append fun e he => ?_⟩
      · rw [refusalsIn_append, refusals_quiet (.inr (by simp))]
      · obtain rfl := List.mem_singleton.1 he
        cases who <;> rfl }
  aside := by
    rintro done b _ who events aside ⟨rfl, persists⟩
    rw [Bus.toList_journal_record]
    refine ⟨?_, persists.append fun e he => ?_⟩
    · rw [refusalsIn_append, refusals_quiet (.inr ?_)]
      rintro e he c r rfl
      cases aside _ he
    · obtain ⟨x, hx, rfl⟩ := List.mem_map.1 he
      have := aside x hx
      cases who <;> cases x <;> first | rfl | cases this
  outside _ seen := seen
  sentinel _ seen := seen
  Rest _ _ n := n = 0
  Served _ _ _ n := n = 0
  May _ := True
  serve := by
    rintro m done _ j rfl _ _
    exact always_serve s m j.operation
  served := by
    rintro done j bytes b _ rfl ⟨row, persists⟩
    refine ⟨⟨?_, ?_⟩, rfl⟩
    · rw [Bus.toList_journal_record, refusalsIn_append, row, refusals_quiet (.inr ?_)]
      intro e he c r
      unfold Job.answer at he
      split at he
      · rw [List.mem_singleton.1 he]
        simp
      · cases he
    · rw [Bus.toList_journal_record, Job.answer]
      split
      · exact persists.concat fun _ => row ▸ Nat.zero_le _
      · simpa using persists
  release := by
    rintro m done _ rfl
    refine Always.mono ?_ (always_release s m)
    rintro (f | bytes) n none
    · trivial
    · exact fun _ _ => none
  setUp := by
    rintro done _ id rfl _
    exact (always_client id _).mono fun _ _ h => h
  read := by
    rintro done _ id r rfl
    exact (always_client id _).mono fun _ _ h => h
  shutDown := by
    rintro done _ id rfl
    refine Always.mono ?_ (always_client id _)
    rintro (f | bytes) _ rfl <;> rfl

end Persisting

namespace Gate

variable {σ : Type} {T : Transport σ} {env : σ → σ → Prop}

/-- At each gate that is reached the dispatcher has made no call after a connect that has failed for
good, and has handed over nothing. -/
theorem persists_of_start {config : Config} {id : ClientId} {device : σ} {c : Control} {b : Bus σ}
    (start : Gate.start T config id ⟨device, #[]⟩ = (.ok (.ok c), b)) {g : Gate σ}
    (reach : Reach T env ⟨c, b⟩ g) :
    Persists config.retry.retries.toNat g.bus.journal.toList := by
  have retry := retry_of_start start
  obtain ⟨⟨s, rfl⟩, traffic, plain, journal⟩ := opened_of_start start
  have nothing := takenIn_start T config id device
  rw [start] at nothing
  have none : refusalsIn b.journal.toList = 0 := by
    rw [journal]
    exact refusals_quiet (.inl (by simp)) 0
  have opened : Persists s.retry.retries.toNat b.journal.toList := by
    have empty : Persists s.retry.retries.toNat [] := by
      intro before e after h
      simp at h
    rw [journal]
    refine empty.append fun e he => ?_
    obtain ⟨x, hx, rfl⟩ := List.mem_map.1 he
    have := plain x hx
    cases x <;> first | rfl | cases this
  obtain ⟨-, done, stands⟩ := Contract.reach
    (K := (Persisting.judgement T env s).contract)
    (.opened ⟨0, ⟨none, opened⟩, rfl⟩ nothing) (Control.sound_opened s) reach
  obtain ⟨_, -, persists⟩ := stands.holds
  have retry : s.retry = config.retry := retry
  rw [← retry]
  exact persists

end Gate

/-- Connecting, over any transport that refuses the next connects so many times and then connects,
and for any retry policy. The connect comes to its end. If it is refused no more often than it may
retry, it makes one attempt more than there are refusals, with one delay between each two, and
succeeds. Otherwise it makes one attempt more than it may retry, with one delay between each two,
and fails with the number of its attempts, which is a 32-bit word. A job whose reconfiguration fails
ends with it, but for a log line. And whatever the device of a gate does, and whichever thread moves
next: once the dispatcher has had more connects refused in a row than it may retry, it makes no call
and hands over nothing any more. -/
theorem connects_exactly :
    (∀ (σ : Type) (T : Transport σ) (who : Actor) (b : Bus σ) (policy : RetryPolicy) (k : Nat),
      k < 2 ^ 32 - 1 → T.Refuses policy.delay k b.device →
      let script := Transfer.connect policy
      script.Halts T who b ∧
      ∃ added, (script.run T who b).2.journal.toList = b.journal.toList ++ added ∧
        added.all Entry.isAnswered = true ∧
        toldIn some added = (List.replicate (min k policy.retries.toNat)
          [.connect, .delay policy.delay]).flatten ++ [.connect] ∧
        (k ≤ policy.retries.toNat → (script.run T who b).1 = .ok (.ok ())) ∧
        (policy.retries.toNat < k → ∃ attempts : UInt32,
          attempts.toNat = policy.retries.toNat + 1 ∧
          (script.run T who b).1 = .ok (.error (.connectFailed attempts)))) ∧
    (∀ (σ : Type) (T : Transport σ) (who : Actor) (b b' : Bus σ) (s : Setup) (m : Mode)
      (o : Operation) (e : DeviceError),
      (Transfer.reconfigure (m.stepsTo o.kind) s.retry).run T who b = (.ok (.error e), b') →
      (Control.serve s m o).run T who b = (.error .flashLost,
        b'.log who (.error ("Unable to reconnect to flash: " ++ e.message)))) ∧
    ∀ (σ : Type) (T : Transport σ) (env : σ → σ → Prop) (config : Config) (id : ClientId)
      (device : σ) (c : Control) (b : Bus σ) (g : Gate σ),
      Gate.start T config id ⟨device, #[]⟩ = (.ok (.ok c), b) → Gate.Reach T env ⟨c, b⟩ g →
      ∀ before after, g.bus.journal.toList = before ++ after →
        config.retry.retries.toNat < refusalsIn before → ∀ e ∈ after, e.isService = false := by
  refine ⟨?_, ?_, ?_⟩
  · intro σ T who b policy k small refused script
    have range : 1 + min k policy.retries.toNat < 2 ^ 32 := by omega
    obtain ⟨added, journal, answered, told, result⟩ : Script.Makes T who script b _ _ :=
      Transfer.makes_connectFrom policy.delay policy.retries.toNat 1 k b range refused
    refine ⟨script.halts T who b, added, journal, answered, told, fun enough => ?_, fun few => ?_⟩
    · rw [result, if_pos enough]
    · refine ⟨_, ?_, by rw [result, if_neg (by omega)]⟩
      rw [UInt32.toNat_ofNat_of_lt' (by omega : 1 + policy.retries.toNat < 2 ^ 32), Nat.add_comm]
  · intro σ T who b b' s m o e failed
    rw [Control.serve, Script.run_bind, failed]
    rfl
  · intro σ T env config id device c b g start reach before after journal lost
    have persists := Gate.persists_of_start start reach
    rw [journal] at persists
    exact persists.none_after lost

/-- A chip refuses as many connects as are made to fail. -/
theorem Chip.refuses (delay : UInt32) {k : Nat} : ∀ {chip : Chip},
    chip.connectFailuresLeft.toNat = k → Chip.transport.Refuses delay k chip := by
  induction k with
  | zero =>
    intro chip none
    have ready : ¬ chip.connectFailuresLeft > 0 := by
      rw [gt_iff_lt, UInt32.lt_iff_toNat_lt, none]
      exact Nat.lt_irrefl 0
    refine .connects ?_
    show chip.connect.reply = _
    rw [Chip.connect, if_neg ready]
    rfl
  | succ k ih =>
    intro chip some
    have one : 1 ≤ chip.connectFailuresLeft := by
      rw [UInt32.le_iff_toNat_le, some]
      exact Nat.le_add_left ..
    have failing : chip.connectFailuresLeft > 0 := by
      rw [gt_iff_lt, UInt32.lt_iff_toNat_lt, some]
      exact Nat.succ_pos k
    have outcome : chip.connect = ⟨.ok (.error .programmerError),
        { chip with connectFailuresLeft := chip.connectFailuresLeft - 1 }, []⟩ := by
      rw [Chip.connect, if_pos failing]
    have left : (chip.connectFailuresLeft - 1).toNat = k := by
      rw [UInt32.toNat_sub_of_le _ _ one, some]
      rfl
    refine .refuses (congrArg Outcome.reply outcome) rfl (ih ?_)
    show chip.connect.device.connectFailuresLeft.toNat = k
    rw [outcome]
    exact left

/-- The small gate after a write of a client, where the next six connects are refused. -/
def Gate.smallLost (c : Control) : Gate Chip :=
  ((({ gate := ⟨c, Gate.small.2⟩ } : Session Chip).mapDevice (Chip.failConnects · 6)).act
    Chip.transport 0 (.write 1 [0x0F])).gate

/-- A chip that refuses two connects is connected at the third attempt, and one that refuses three
is given up after two if it may be tried only once more. On the small gate six connects are refused
before a write, which is then not made. -/
theorem connects_exactly_refused :
    let chip (failures : UInt32) := (Chip.make oneSector []).failConnects failures
    let connect (failures : UInt32) (policy : RetryPolicy) :=
      (Transfer.connect policy).run Chip.transport .dispatcher ⟨chip failures, #[]⟩
    (Chip.transport.Refuses 1000 2 (chip 2) ∧ (connect 2 {}).1 = .ok (.ok ()) ∧
      toldIn some (connect 2 {}).2.journal.toList =
        [.connect, .delay 1000, .connect, .delay 1000, .connect]) ∧
    (Chip.transport.Refuses 7 3 (chip 3) ∧
      (connect 3 ⟨1, 7⟩).1 = .ok (.error (.connectFailed 2)) ∧
      toldIn some (connect 3 ⟨1, 7⟩).2.journal.toList = [.connect, .delay 7, .connect]) ∧
    ∃ c, Gate.small.1 = .ok (.ok c) ∧ ∃ before after,
      (Gate.smallLost c).bus.journal.toList = before ++ after ∧ after ≠ [] ∧
      refusalsIn before = 6 ∧ ∀ e ∈ after, e.isService = false := by
  intro chip connect
  have two : Chip.transport.Refuses 1000 2 (chip 2) := Chip.refuses 1000 rfl
  have three : Chip.transport.Refuses 7 3 (chip 3) := Chip.refuses 7 rfl
  obtain ⟨all, -, lost⟩ := connects_exactly
  obtain ⟨-, added, journal, -, told, enough, -⟩ := all Chip Chip.transport .dispatcher
    ⟨chip 2, #[]⟩ {} 2 (by decide) two
  obtain rfl : (connect 2 {}).2.journal.toList = added := journal
  obtain ⟨-, added, journal, -, told', -, few⟩ := all Chip Chip.transport .dispatcher
    ⟨chip 3, #[]⟩ ⟨1, 7⟩ 3 (by decide) three
  obtain rfl : (connect 3 ⟨1, 7⟩).2.journal.toList = added := journal
  obtain ⟨attempts, count, failed⟩ := few (by decide)
  obtain rfl : attempts = 2 := UInt32.toNat_inj.1 count
  obtain ⟨c, opened⟩ := Gate.small_opens
  have fresh : Gate.Reach Chip.transport Chip.failing ⟨c, Gate.small.2⟩
      ({ gate := ⟨c, Gate.small.2⟩ } : Session Chip).gate := .refl
  have reach : Gate.Reach Chip.transport Chip.failing ⟨c, Gate.small.2⟩ (Gate.smallLost c) :=
    Session.reach_act 0 _ (Session.reach_mapDevice _ (fun _ => ⟨6, rfl⟩) fresh)
  have played : Gate.ofSmall (fun c =>
      let journal := (Gate.smallLost c).bus.journal.toList
      (refusalsIn journal.dropLast, journal.isEmpty)) = some (6, false) := by
    decide +kernel
  simp only [Gate.ofSmall, opened, Option.some.injEq, Prod.mk.injEq] at played
  obtain ⟨row, some⟩ := played
  have nonempty : (Gate.smallLost c).bus.journal.toList ≠ [] := by
    intro none
    rw [none] at some
    cases some
  have cut := (List.dropLast_append_getLast nonempty).symm
  refine ⟨⟨two, enough (by decide), told⟩, ⟨three, failed, told'⟩, c, opened, _, _, cut, by simp,
    row, lost Chip Chip.transport Chip.failing _ 0 _ c _ _ (Gate.start_of_small opened) reach _ _
      cut ?_⟩
  rw [row]
  decide

end FlashGate

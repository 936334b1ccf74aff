/-
The changes of hardware that the dispatcher makes, whatever the device answers: which transport it
claims and gives up, and in which order. They are told by the messages it is done with. Main
statements: `always_serve` and `always_release`, that a job makes the changes from the hardware held
to the hardware it needs, and a release those that give it up; and `Change.judgement`, that the
scripts of all threads keep to this.
-/
import FlashGate.Proofs.Gateway.Contract
import FlashGate.Proofs.Transfer

namespace FlashGate

/-- A change of the hardware that is held. -/
inductive Change where
  | connect
  /-- A connect that did not succeed. -/
  | failedConnect
  | disconnect
  | setUp
  | shutDown
  deriving DecidableEq, Repr

/-- Whether a connect was answered with success. -/
def Except.connects : Except Fault (Except DeviceError Unit) → Bool
  | .ok (.ok ()) => true
  | _ => false

/-- The change that a call makes, with the answer it gets. -/
def Call.change? : (c : Call) → Except Fault c.Reply → Option Change
  | .connect, r => some (if Except.connects r then .connect else .failedConnect)
  | .disconnect, _ => some .disconnect
  | .fastReadSetup, _ => some .setUp
  | .fastReadShutdown, _ => some .shutDown
  | _, _ => none

/-- The change in an entry of the journal, if it is one of the dispatcher's. -/
def Entry.change? (e : Entry) : Option Change :=
  match e.actor, e.event with
  | .dispatcher, .call c r => c.change? r
  | _, _ => none

/-- The changes that the dispatcher makes in a journal, in order. -/
def changesIn (journal : List Entry) : List Change := journal.filterMap Entry.change?

@[simp] theorem changesIn_append (a b : List Entry) :
    changesIn (a ++ b) = changesIn a ++ changesIn b := List.filterMap_append ..

/-- Entries of clients, and entries without calls, tell no change. -/
theorem changesIn_eq_nil {who : Actor} {events : List Event}
    (h : who ≠ .dispatcher ∨ ∀ e ∈ events, ∀ c r, e ≠ .call c r) :
    changesIn (events.map (⟨who, ·⟩)) = [] := by
  rw [changesIn, List.filterMap_eq_nil_iff]
  intro x hx
  obtain ⟨e, he, rfl⟩ := List.mem_map.1 hx
  rcases h with h | h
  · cases who with
    | dispatcher => exact absurd rfl h
    | client id => rfl
  · have := h e he
    cases e with
    | call c r => exact absurd rfl (this c r)
    | _ => cases who <;> rfl

theorem changesIn_call {σ : Type} (T : Transport σ) (who : Actor) (c : Call) (b : Bus σ) :
    changesIn (b.call T who c).2.journal.toList = changesIn b.journal.toList ++
      (Entry.change? ⟨who, .call c (b.call T who c).1⟩).toList := by
  have breaches : changesIn (((T.perform b.device c).breaches.map Event.breach).map (⟨who, ·⟩)) =
      [] := by
    refine changesIn_eq_nil (.inr fun e he c r => ?_)
    obtain ⟨x, -, rfl⟩ := List.mem_map.1 he
    simp
  rw [Bus.toList_journal_call, changesIn_append, List.map_cons, ← List.singleton_append,
    changesIn_append, breaches, List.append_nil, Bus.call_reply]
  rfl

/-! ## What the messages ask for -/

/-- The category of the hardware that a mode holds: fast reads or not, if any. -/
def Mode.category? : Mode → Option Bool
  | .released => none
  | .serving k => some k.isFastRead

/-- The category of the hardware that is held after a message: what a job needs, and none after a
sentinel. -/
def Message.category? : Message → Option Bool
  | .job j => some j.operation.kind.isFastRead
  | _ => none

/-- The category of the hardware that is held after messages. -/
def categoryAfter (messages : List Message) : Option Bool :=
  messages.foldl (fun _ m => m.category?) none

/-- The mode of the dispatcher at a stage. It has given all hardware up while a window is open. -/
def Stage.mode : Stage → Mode
  | .held m => m
  | .window => .released

namespace Change

/-- The change that claims the hardware of a category. -/
def acquire (fast : Bool) : Change := if fast then .setUp else .connect

/-- The change that gives the hardware of a category up. -/
def release (fast : Bool) : Change := if fast then .shutDown else .disconnect

/-- The changes from the hardware of one category to that of another: none if they are the same,
else the release of the old and then the claim of the new, where there is one. -/
def between (held needed : Option Bool) : List Change :=
  if held = needed then [] else (held.map release).toList ++ (needed.map acquire).toList

/-- The changes that messages ask for, with the given hardware held before. -/
def plan (held : Option Bool) : List Message → List Change
  | [] => []
  | m :: rest => between held m.category? ++ plan m.category? rest

/-- The changes are those of a plan, each connect after as many failed ones as may come before. -/
inductive Follows (retries : Nat) : List Change → List Change → Prop
  | nil : Follows retries [] []
  | plain {x : Change} {planned made : List Change} (h : x ≠ .connect)
    (rest : Follows retries planned made) : Follows retries (x :: planned) (x :: made)
  | connect {planned made : List Change} (failed : Nat) (budget : failed ≤ retries)
    (rest : Follows retries planned made) : Follows retries (.connect :: planned)
      (List.replicate failed .failedConnect ++ .connect :: made)

variable {retries : Nat}

theorem Follows.append {planned made planned' made' : List Change}
    (h : Follows retries planned made) (h' : Follows retries planned' made') :
    Follows retries (planned ++ planned') (made ++ made') := by
  induction h with
  | nil => exact h'
  | plain hx _ ih => exact .plain hx ih
  | connect failed budget _ ih =>
    rw [List.append_assoc]
    exact .connect failed budget ih

theorem plan_append (held : Option Bool) (messages : List Message) (m : Message) :
    plan held (messages ++ [m]) = plan held messages ++
      between (messages.foldl (fun _ m => m.category?) held) m.category? := by
  induction messages generalizing held with
  | nil => simp [plan]
  | cons x rest ih => simp [plan, ih]

/-! ## The scripts of the dispatcher -/

open Script

/-- The world of an observer who notes the changes that the dispatcher makes. -/
def world (who : Actor) : World (List Change) where
  permits _ _ := True
  reacts t c r t' := t' = t ++ (Entry.change? ⟨who, .call c r⟩).toList

variable {t : List Change}

theorem always_call (c : Call) : (ask c).Always (world .dispatcher)
    (fun r t' => t' = t ++ (c.change? r).toList) t :=
  always_ask.2 ⟨trivial, fun _ _ h => h⟩

theorem change?_of_stays {c : Call} (h : Transfer.stays c) (r : Except Fault c.Reply) :
    c.change? r = none := by
  cases c <;> first | rfl | cases h

theorem not_noted {who : Actor} {c : Call} (h : who ≠ .dispatcher ∨ Transfer.stays c)
    (r : Except Fault c.Reply) : Entry.change? ⟨who, .call c r⟩ = none := by
  cases who with
  | client id => rfl
  | dispatcher => exact change?_of_stays (h.resolve_left (by simp)) r

/-- A script of calls that are not noted leaves the changes as they are. -/
theorem always_only {α : Type} {who : Actor} {p : Call → Prop} {s : Script α} (hs : s.Only p)
    (h : ∀ c, p c → who ≠ .dispatcher ∨ Transfer.stays c) :
    s.Always (world who) (fun _ t' => t' = t) t := by
  refine Only.always (p := p) (I := fun t' => t' = t) ?_ ?_ hs rfl
  · rintro _ c rfl hc
    refine ⟨trivial, ?_⟩
    rintro r t' rfl
    rw [not_noted (h c hc)]
    exact List.append_nil _
  · rintro _ rfl c hc
    refine ⟨trivial, ?_⟩
    rintro r t' rfl
    rw [not_noted (.inr (Transfer.stays_poll c hc))]
    cases r <;> exact List.append_nil _

theorem always_client {α : Type} (id : ClientId) (s : Script α) :
    s.Always (world (.client id)) (fun _ t' => t' = t) t :=
  always_only (always_unit (fun _ => trivial) s) fun _ _ => .inl (by simp)

/-- How a connect ends: with as many failed attempts as it may make, and then a success. -/
def Connects (retries : Nat) (t : List Change) :
    Except Fault (Except DeviceError Unit) → List Change → Prop
  | .ok (.ok ()), t' => ∃ failed ≤ retries,
    t' = t ++ (List.replicate failed .failedConnect ++ [.connect])
  | _, _ => True

theorem always_connected (left attempts : Nat) : (Transfer.connectFrom.connected attempts).Always
    (world .dispatcher) (Connects left t) (t ++ [.connect]) := by
  unfold Transfer.connectFrom.connected
  split <;> exact ⟨0, Nat.zero_le _, rfl⟩

theorem always_connectFrom (delay : UInt32) (left attempts : Nat) {t : List Change} :
    (Transfer.connectFrom delay left attempts).Always (world .dispatcher) (Connects left t) t := by
  induction left generalizing attempts t with
  | zero =>
    refine always_bind.2 (Always.mono ?_ (always_call .connect))
    rintro (f | ⟨e | ⟨⟩⟩) _ rfl
    · trivial
    · trivial
    · exact always_connected 0 attempts
  | succ left ih =>
    refine always_bind.2 (Always.mono ?_ (always_call .connect))
    rintro (f | ⟨e | ⟨⟩⟩) _ rfl
    · trivial
    · refine always_bind.2 (always_log.2 (always_bind.2
        (Always.mono ?_ (always_call (.delay delay)))))
      rintro (f | x) _ rfl
      · trivial
      · show Always _ _ (if _ then _ else _) _
        split
        · -- one more attempt has failed before those of the rest
          refine Always.mono ?_ (ih (attempts + 1))
          rintro (f | ⟨e | ⟨⟩⟩) t' h
          · trivial
          · trivial
          · obtain ⟨failed, budget, rfl⟩ := h
            refine ⟨failed + 1, Nat.succ_le_succ budget, ?_⟩
            rw [List.replicate_succ]
            simp [Call.change?, Except.connects]
        · trivial
    · exact always_connected (left + 1) attempts

/-- How a reconfiguration ends that succeeds: the planned changes are made. -/
def Makes (retries : Nat) (t planned : List Change) :
    Except Fault (Except DeviceError Unit) → List Change → Prop
  | .ok (.ok ()), t' => ∃ made, t' = t ++ made ∧ Follows retries planned made
  | _, _ => True

theorem Makes.cons {planned : List Change} {x : Change} (hx : x ≠ .connect)
    {r : Except Fault (Except DeviceError Unit)} {t' : List Change}
    (h : Makes retries (t ++ [x]) planned r t') : Makes retries t (x :: planned) r t' := by
  rcases r with f | ⟨e | ⟨⟩⟩
  · trivial
  · trivial
  · obtain ⟨made, rfl, follows⟩ := h
    exact ⟨x :: made, by simp, .plain hx follows⟩

theorem always_acquire (fast : Bool) (policy : RetryPolicy) :
    (if fast = true then do
        ask .fastReadSetup
        ask .fastReadApplyCalibration
        return .ok ()
      else Transfer.connect policy).Always (world .dispatcher)
      (Makes policy.retries.toNat t [acquire fast]) t := by
  cases fast with
  | true =>
    refine always_bind.2 (Always.mono ?_ (always_call .fastReadSetup))
    rintro (f | ⟨⟩) _ rfl
    · trivial
    · refine always_bind.2 (Always.mono ?_ (always_call .fastReadApplyCalibration))
      rintro (f | ⟨⟩) _ rfl
      · trivial
      · exact ⟨[.setUp], by simp [Call.change?], .plain (by simp [acquire]) .nil⟩
  | false =>
    refine Always.mono ?_ (always_connectFrom policy.delay policy.retries.toNat 1)
    rintro (f | ⟨e | ⟨⟩⟩) _ h
    · trivial
    · trivial
    · obtain ⟨failed, budget, rfl⟩ := h
      exact ⟨_, rfl, .connect failed budget .nil⟩

/-- A reconfiguration for an operation gives up what is held and claims what is needed, unless it
is the same. -/
theorem reconfigure_to (m : Mode) (k : OperationKind) (policy : RetryPolicy) :
    Transfer.reconfigure (m.stepsTo k) policy =
      (if m.category? = some k.isFastRead then return .ok () else do
        log (.debug ("Reconfiguring transport: " ++ (m.stepsTo k).text))
        if m.category? = some true then ask .fastReadShutdown
        if m.category? = some false then ask .disconnect
        if k.isFastRead = true then
          ask .fastReadSetup
          ask .fastReadApplyCalibration
          return .ok ()
        else Transfer.connect policy) := by
  cases hk : k.isFastRead <;> cases m with
  | released =>
    simp [Mode.stepsTo, Mode.category?, Mode.isDirect, Mode.isFastRead, hk]
    rfl
  | serving old =>
    cases ho : old.isFastRead <;>
    · simp [Mode.stepsTo, Mode.category?, Mode.isDirect, Mode.isFastRead, hk, ho]
      rfl

/-- The steps before an operation make the changes to the hardware that it needs. -/
theorem always_reconfigure_to (m : Mode) (k : OperationKind) (policy : RetryPolicy) :
    (Transfer.reconfigure (m.stepsTo k) policy).Always (world .dispatcher)
      (Makes policy.retries.toNat t (between m.category? (some k.isFastRead))) t := by
  have claim (t : List Change) := always_acquire (t := t) k.isFastRead policy
  rw [reconfigure_to, between]
  split
  · exact ⟨[], (List.append_nil t).symm, .nil⟩
  refine always_bind.2 (always_log.2 ?_)
  show Always _ _ _ t
  rcases m.category? with _ | _ | _
  · exact claim t
  · refine always_bind.2 (Always.mono ?_ (always_call .disconnect))
    rintro (f | ⟨⟩) _ rfl
    · trivial
    · exact (claim _).mono fun _ _ => Makes.cons (by simp [release])
  · refine always_bind.2 (Always.mono ?_ (always_call .fastReadShutdown))
    rintro (f | ⟨⟩) _ rfl
    · trivial
    · exact (claim _).mono fun _ _ => Makes.cons (by simp [release])

/-- A release gives up what is held, and does not fail. -/
theorem always_reconfigure_release (retries : Nat) (m : Mode) (policy : RetryPolicy) :
    (Transfer.reconfigure m.release policy).Always (world .dispatcher)
      (fun r t' => ∀ x, r = .ok x → x = .ok () ∧
        ∃ made, t' = t ++ made ∧ Follows retries (between m.category? none) made) t := by
  cases m with
  | released =>
    rintro _ ⟨⟩
    exact ⟨rfl, [], (List.append_nil t).symm, .nil⟩
  | serving k =>
    cases hk : k.isFastRead with
    | false =>
      have steps : (Mode.serving k).release = .disconnect := by
        simp [Mode.release, Mode.isDirect, Mode.isFastRead, hk]
      rw [steps, Mode.category?, hk]
      refine always_bind.2 (always_log.2 (always_bind.2
        (Always.mono ?_ (always_call .disconnect))))
      rintro (f | ⟨⟩) _ rfl
      · rintro _ ⟨⟩
      · rintro _ ⟨⟩
        exact ⟨rfl, _, rfl, .plain (by simp [release]) .nil⟩
    | true =>
      have steps : (Mode.serving k).release = .shutdownFastRead := by
        simp [Mode.release, Mode.isFastRead, hk]
      rw [steps, Mode.category?, hk]
      refine always_bind.2 (always_log.2 (always_bind.2
        (Always.mono ?_ (always_call .fastReadShutdown))))
      rintro (f | ⟨⟩) _ rfl
      · rintro _ ⟨⟩
      · rintro _ ⟨⟩
        exact ⟨rfl, _, rfl, .plain (by simp [release]) .nil⟩

/-- A job makes the changes to the hardware that it needs. -/
theorem always_serve (s : Setup) (m : Mode) (o : Operation) :
    (Control.serve s m o).Always (world .dispatcher) (fun r t' => ∀ bytes, r = .ok bytes →
      ∃ made, t' = t ++ made ∧
        Follows s.retry.retries.toNat (between m.category? (some o.kind.isFastRead)) made) t := by
  refine always_bind.2 (Always.mono ?_ (always_reconfigure_to m o.kind s.retry))
  rintro (f | ⟨e | ⟨⟩⟩) t' h
  · rintro _ ⟨⟩
  · refine always_bind.2 (always_log.2 ?_)
    rintro _ ⟨⟩
  · refine Always.mono ?_ (always_only (Transfer.only_perform s o) fun _ hc => .inr hc)
    rintro _ _ rfl _ _
    exact h

/-- A release of the dispatcher gives up what it holds. -/
theorem always_release (retries : Nat) (s : Setup) (m : Mode) :
    (Control.release s m).Always (world .dispatcher) (fun r t' => ∀ bytes, r = .ok bytes →
      ∃ made, t' = t ++ made ∧ Follows retries (between m.category? none) made) t := by
  refine always_bind.2 (Always.mono ?_ (always_reconfigure_release retries m s.retry))
  rintro (f | x) t' h
  · rintro _ ⟨⟩
  · obtain ⟨rfl, made⟩ := h x rfl
    rintro _ -
    exact made

/-! ## The judgement -/

variable {σ : Type} {T : Transport σ} {done : List Message}

/-- The changes so far are those that the messages ask for, and the hardware held is what the last
of them left. -/
structure Made (retries : Nat) (st : Stage) (done : List Message) (t : List Change) : Prop where
  follows : Follows retries (plan none done) t
  category : st.mode.category? = categoryAfter done

/-- One more message is done, after the changes that it asked for. -/
theorem Made.message {st st' : Stage} {m : Message} (h : Made retries st done t)
    {made : List Change} (category : st'.mode.category? = m.category?)
    (follows : Follows retries (between st.mode.category? m.category?) made) :
    Made retries st' (done ++ [m]) (t ++ made) where
  follows := by
    rw [plan_append]
    refine h.follows.append ?_
    rwa [h.category] at follows
  category := by
    rw [category, categoryAfter, List.foldl_append]
    rfl

theorem Made.turn {st st' : Stage} (h : Made retries st done t) (same : st'.mode = st.mode) :
    Made retries st' done t :=
  ⟨h.follows, by rw [same, h.category]⟩

/-- The dispatcher makes the changes that the messages ask for. -/
def judgement (T : Transport σ) (env : σ → σ → Prop) (s : Setup) :
    Judgement T env s (List Change) where
  W := world
  Seen _ b t := changesIn b.journal.toList = t
  shows done who := {
    call := by
      rintro b _ c rfl -
      exact ⟨_, rfl, changesIn_call T who c b⟩
    log := by
      rintro b _ l rfl
      rw [Bus.log, Bus.toList_journal_record, changesIn_append,
        changesIn_eq_nil (.inr (by simp)), List.append_nil] }
  aside := by
    rintro done b _ who events aside rfl
    rw [Bus.toList_journal_record, changesIn_append, changesIn_eq_nil (.inr ?_), List.append_nil]
    rintro e he c r rfl
    cases aside _ he
  outside _ seen := seen
  sentinel _ seen := seen
  Rest := Made s.retry.retries.toNat
  Served done j _ := Made s.retry.retries.toNat (.held (.serving j.operation.kind))
    (done ++ [.job j])
  May _ := True
  serve := by
    intro m done t j made _ _
    refine Always.mono ?_ (always_serve s m j.operation)
    rintro (f | bytes) t' h
    · trivial
    · obtain ⟨more, rfl, follows⟩ := h bytes rfl
      exact made.message rfl follows
  served := by
    rintro done j bytes b _ made rfl
    refine ⟨?_, made⟩
    rw [Bus.toList_journal_record, changesIn_append, changesIn_eq_nil (.inr ?_), List.append_nil]
    intro e he c r
    unfold Job.answer at he
    split at he
    · rw [List.mem_singleton.1 he]
      simp
    · cases he
  release := by
    intro m done t made
    refine Always.mono ?_ (always_release s.retry.retries.toNat s m)
    rintro (f | bytes) t' h
    · trivial
    · obtain ⟨more, rfl, follows⟩ := h bytes rfl
      intro x sentinel
      have none : x.category? = none := by
        cases x with
        | job j => cases sentinel
        | _ => rfl
      exact made.message none.symm (by rwa [none])
  setUp := by
    intro done t id made _
    refine Always.mono ?_ (always_client id _)
    rintro _ _ rfl
    exact made.turn rfl
  read := by
    intro done t id r made
    refine Always.mono ?_ (always_client id _)
    rintro _ _ rfl
    exact made
  shutDown := by
    intro done t id made
    refine Always.mono ?_ (always_client id _)
    rintro (f | bytes) _ rfl
    · exact made
    · exact made.turn rfl

end Change

end FlashGate

/-
The stress run as the simulator carries it out, one client after the other. Main statements:
`Plays.mismatches`, that it is one of the runs of the crew and counts just the bad orders; and
`Plays.close`, that so is the end of the session.
-/
import FlashGate.Proofs.Crew

namespace FlashGate.Simulator

open Stress Chip

/-! ## Parts of a run -/

namespace Part

variable {α β : Type} {session : Session Chip} {printed : List String}

theorem bind_of_ok {p : Part α} {s s' : Simulation} {a : α} (h : p s = .ok (a, s'))
    (q : α → Part β) : (p >>= q) s = q a s' := by
  simp [bind, StateT.bind, Except.bind, h]

theorem bind_of_error {p : Part α} {s : Simulation} {e : Failure × Simulation} (h : p s = .error e)
    (q : α → Part β) : (p >>= q) s = .error e := by
  simp [bind, StateT.bind, Except.bind, h]

theorem act_apply (id : ClientId) (k : Command) : act id k ⟨session, printed⟩ =
    .ok (((session.act transport id k).answer? id).getD .done,
      ⟨session.act transport id k, printed⟩) := rfl

theorem print_apply (line : String) :
    print line ⟨session, printed⟩ = .ok ((), ⟨session, line :: printed⟩) := rfl

theorem close_apply :
    close ⟨session, printed⟩ = .ok ((), ⟨session.close transport 0, printed⟩) := rfl

theorem geometry_apply : geometry ⟨session, printed⟩ =
    .ok (session.gate.control.setup.geometry, ⟨session, printed⟩) := rfl

theorem record_apply : ∃ calls, record ⟨session, printed⟩ = .ok (calls, ⟨session, printed⟩) :=
  ⟨_, rfl⟩

theorem overlaps_apply : overlaps ⟨session, printed⟩ = .ok (0, ⟨session, printed⟩) := by
  obtain ⟨calls, made⟩ : ∃ calls,
      record ⟨session, printed⟩ = .ok (calls, ⟨session, printed⟩) := record_apply
  rw [overlaps, bind_of_ok made, Chip.overlaps_eq_zero]
  rfl

theorem check_apply (quiet : breachesIn session.gate.bus.journal.toList = []) :
    check ⟨session, printed⟩ = .ok ((), ⟨session, printed⟩) := by
  have none : session.breaches = [] := quiet
  have got : (get : Part Simulation) ⟨session, printed⟩ =
      .ok (⟨session, printed⟩, ⟨session, printed⟩) := rfl
  rw [check, bind_of_ok got, none]
  dsimp only
  rw [if_neg (by simp), bind_of_ok overlaps_apply]
  rfl

end Part

/-! ## Rounds that are left -/

section Rounds

variable {perClient : Nat} {workers : List Worker}

theorem set_self {α : Type} {l : List α} {i : Nat} {x : α} (h : l[i]? = some x) :
    l.set i x = l := by
  obtain ⟨inside, rfl⟩ := List.getElem?_eq_some_iff.1 h
  exact List.set_getElem_self inside

/-- The orders of a client in the given rounds. -/
def ordersOf (perClient : Nat) (pairs : List (Nat × Nat)) (client : Nat) : List Order :=
  (pairs.filter (·.1 = client)).flatMap fun p => round perClient p.1 p.2

theorem ordersOf_append (a b : List (Nat × Nat)) (client : Nat) :
    ordersOf perClient (a ++ b) client =
    ordersOf perClient a client ++ ordersOf perClient b client := by
  simp [ordersOf]

theorem ordersOf_others {pairs : List (Nat × Nat)} {client : Nat}
    (others : ∀ p ∈ pairs, p.1 ≠ client) : ordersOf perClient pairs client = [] := by
  have none : pairs.filter (·.1 = client) = [] := by simpa using others
  rw [ordersOf, none, List.flatMap_nil]

theorem ordersOf_flatMap {l : List Nat} (distinct : l.Nodup) {client : Nat} (mem : client ∈ l)
    (ns : List Nat) : ordersOf perClient (l.flatMap fun c => ns.map fun n => (c, n)) client =
      ns.flatMap (round perClient client) := by
  induction l with
  | nil => cases mem
  | cons c rest ih =>
    obtain ⟨fresh, distinct⟩ := List.nodup_cons.1 distinct
    rw [List.flatMap_cons, ordersOf_append]
    rcases List.mem_cons.1 mem with rfl | mem
    · have later :
          ordersOf perClient (rest.flatMap fun c => ns.map fun n => (c, n)) client = [] := by
        refine ordersOf_others ?_
        rintro p hp rfl
        obtain ⟨c, hc, hp⟩ := List.mem_flatMap.1 hp
        obtain ⟨n, -, rfl⟩ := List.mem_map.1 hp
        exact fresh hc
      rw [later, List.append_nil]
      simp [ordersOf, List.filter_map, Function.comp_def, List.flatMap_map]
    · have earlier : ordersOf perClient (ns.map fun n => (c, n)) client = [] := by
        refine ordersOf_others ?_
        rintro p hp rfl
        obtain ⟨n, -, rfl⟩ := List.mem_map.1 hp
        exact fresh mem
      rw [earlier, List.nil_append, ih distinct mem]

/-- The workers have the given rounds before them. -/
structure Ahead (perClient : Nat) (pairs : List (Nat × Nat)) (workers : List Worker) : Prop where
  inside : ∀ p ∈ pairs, p.1 < workers.length
  orders : ∀ (i : Nat) (w : Worker), workers[i]? = some w →
    w.current = none ∧ w.todo = ordersOf perClient pairs i

/-- With a round done, they have the others before them. -/
theorem Ahead.next {client n : Nat} {rest : List (Nat × Nat)} {w : Worker}
    (ahead : Ahead perClient ((client, n) :: rest) workers) (worker : workers[client]? = some w)
    (wrong : Nat) : w.todo = round perClient client n ++ ordersOf perClient rest client ∧
    Ahead perClient rest
      (workers.set client { w with todo := ordersOf perClient rest client, wrong }) := by
  obtain ⟨free, todo⟩ := ahead.orders client w worker
  refine ⟨todo.trans (by simp [ordersOf]), fun p hp => ?_, fun i v place => ?_⟩
  · rw [List.length_set]
    exact ahead.inside p (List.mem_cons_of_mem _ hp)
  · by_cases same : client = i
    · subst same
      rw [List.getElem?_set_self (ahead.inside _ (List.mem_cons_self ..))] at place
      cases place
      exact ⟨free, rfl⟩
    · rw [List.getElem?_set_ne same] at place
      obtain ⟨free, todo⟩ := ahead.orders i v place
      exact ⟨free, todo.trans (by simp [ordersOf, same])⟩

end Rounds

/-! ## One client after the other -/

theorem carryOut_cons {id : ClientId} {o : Order} {session : Session Chip} {printed : List String}
    {a : Answer} {bad : Order → Bool}
    (answer : (session.act transport id o.command).answer? id = some a)
    (judged : o.judge a = .ok (!bad o)) (rest : List Order) (wrong : Nat) :
    carryOut id (o :: rest) wrong ⟨session, printed⟩ =
      carryOut id rest (wrong + [o].countP bad) ⟨session.act transport id o.command, printed⟩ := by
  rw [carryOut, Part.bind_of_ok (Part.act_apply ..), answer, Option.getD_some, judged]
  cases h : bad o <;> simp [h]

/-- A session whose gate is at rest, where a run of a crew may come to with the given workers. -/
structure Plays (crew₀ : Crew) (workers : List Worker) (session : Session Chip) : Prop where
  reach : Crew.Reach crew₀ ⟨session.gate, workers⟩
  there : session.gate.control.dropped = false
  still : ∀ who, session.gate.control.move? who = none

section Play

variable {s : Setup} {bad : Order → Bool} {owns : ClientId → Nat → Prop} {clients : Nat}
  {plan : Nat → List Order} {f : Flat} {crew crew₀ : Crew} {workers : List Worker}
  {session : Session Chip} {perClient : Nat}

theorem Crew.Reach.rest (first : ClientId) {g : Gate Chip}
    (reach : Crew.Reach crew₀ ⟨g, workers⟩) :
    Crew.Reach crew₀ ⟨Gate.rest transport first g, workers⟩ :=
  Gate.KeptByMoves.rest (P := fun g => Crew.Reach crew₀ ⟨g, workers⟩)
    (fun reach h => .step reach (.move h)) first reach

theorem Thrives.works (thrives : Thrives s bad owns clients plan f crew)
    (there : crew.gate.control.dropped = false) : ∃ done, Works s bad clients plan done crew := by
  rcases thrives.place with works | closes
  · exact works
  · obtain ⟨opened, added, dropping⟩ := closes.dropping
    rw [dropping.dropped] at there
    cases there

-- all along the run the crew thrives on its plans
variable (plans : Plans s bad owns clients plan) (size : f.size = s.geometry.totalSize.toNat)
  (thrives : ∀ {crew}, Crew.Reach crew₀ crew → Thrives s bad owns clients plan f crew)

include thrives in
theorem Crew.Reach.rest_there (first : ClientId) {g : Gate Chip}
    (reach : Crew.Reach crew₀ ⟨g, workers⟩) (there : g.control.dropped = false) :
    (Gate.rest transport first g).control.dropped = false := by
  refine (Gate.KeptByMoves.rest (P := fun g => Crew.Reach crew₀ ⟨g, workers⟩ ∧
    g.control.dropped = false) ?_ first ⟨reach, there⟩).2
  rintro g who m ⟨reach, there⟩ h
  obtain ⟨done, works⟩ := (thrives reach).works there
  exact ⟨.step reach (.move h),
    (works.errands.perform (thrives reach).fares.sound (thrives reach).fares.sane h).there⟩

include plans size thrives in
/-- A client that is let carry out its next order gets the answer that the order wants, unless it is
a bad one. -/
theorem Plays.act (plays : Plays crew₀ workers session) {i : Nat} {w : Worker} {o : Order}
    {rest : List Order} (worker : workers[i]? = some w) (next : w.todo = o :: rest)
    (free : w.current = none) :
    ∃ a, (session.act transport (thread i) o.command).answer? (thread i) = some a ∧
      o.judge a = .ok (!bad o) ∧ Plays crew₀
        (workers.set i { w with todo := rest, wrong := w.wrong + [o].countP bad })
        (session.act transport (thread i) o.command) := by
  have inside : i < workers.length := (List.getElem?_eq_some_iff.1 worker).1
  have thrive := thrives plays.reach
  obtain ⟨done, works⟩ := thrive.works plays.there
  have follows := works.follows i w worker
  obtain ⟨operation, asks⟩ := works.asks plans worker next
  have idle := thrive.fares.idle works.errands plays.still (thread i)
  obtain ⟨c, begins⟩ := works.errands.begin? asks idle
  obtain ⟨⟨c₀, b⟩, shown, cleared, waiting, apart⟩ := session
  have acted : Session.act transport (thread i) o.command
      ⟨⟨c₀, b⟩, shown, cleared, waiting, apart⟩ =
        ⟨Gate.rest transport (thread i) ⟨c, b⟩, shown, cleared, waiting, apart⟩ := by
    have begins : c₀.begin? (thread i) o.command = some c := begins
    simp only [Session.act, begins]
  rw [acted]
  -- the order, the moves of the gate and the answer are steps of the crew
  have turned : Crew.Reach crew₀
      ⟨⟨c, b⟩, workers.set i { w with todo := rest, current := some o }⟩ :=
    .step plays.reach (.order worker free follows.error next begins)
  have rested := turned.rest (thread i)
  have opened : (Gate.rest transport (thread i) ⟨c, b⟩).control.dropped = false :=
    turned.rest_there thrives (thread i) (works.errands.begins asks begins).there
  have still := Gate.rest_move? transport (thread i) (⟨c, b⟩ : Gate Chip)
  generalize Gate.rest transport (thread i) ⟨c, b⟩ = g at *
  have thrive := thrives rested
  have there : (workers.set i { w with todo := rest, current := some o })[i]? =
      some { w with todo := rest, current := some o } := List.getElem?_set_self inside
  obtain ⟨done, works⟩ := thrive.works opened
  have idle := thrive.fares.idle works.errands still (thread i)
  obtain ⟨a, answer, met⟩ := works.answered plans thrive.fares size there rfl idle
  refine ⟨a, answer, met, ?_, opened, still⟩
  have noted := Crew.Reach.step rested (.note there rfl idle answer)
  rw [Worker.noted_of_judge met, List.set_set] at noted
  rwa [free]

include plans size thrives in
/-- A client that is let carry out some of its orders counts the bad ones. -/
theorem Plays.carryOut (plays : Plays crew₀ workers session) {i : Nat} {w : Worker}
    {orders rest : List Order} (worker : workers[i]? = some w) (next : w.todo = orders ++ rest)
    (free : w.current = none) (wrong : Nat) (printed : List String) : ∃ session',
      Stress.carryOut (thread i) orders wrong ⟨session, printed⟩ =
        .ok (wrong + orders.countP bad, ⟨session', printed⟩) ∧
      Plays crew₀ (workers.set i { w with todo := rest, wrong := w.wrong + orders.countP bad })
        session' := by
  induction orders generalizing workers session w wrong with
  | nil =>
    refine ⟨session, rfl, ?_⟩
    rwa [← show w.todo = rest from next, List.countP_nil, Nat.add_zero, set_self worker]
  | cons o later ih =>
    obtain ⟨a, answer, met, plays⟩ := plays.act plans size thrives worker next free
    have inside : i < workers.length := (List.getElem?_eq_some_iff.1 worker).1
    obtain ⟨session', done, plays⟩ :=
      ih plays (List.getElem?_set_self inside) rfl free (wrong + [o].countP bad)
    have count : ([o].countP bad) + later.countP bad = (o :: later).countP bad :=
      List.countP_append.symm
    rw [List.set_set] at plays
    simp only [Nat.add_assoc, count] at done plays
    exact ⟨session', (carryOut_cons answer met later wrong).trans done, plays⟩

include plans size thrives in
/-- All rounds that are left, one after the other, have just their bad orders counted. -/
theorem Plays.mismatches (plays : Plays crew₀ workers session) {pairs : List (Nat × Nat)}
    (ahead : Ahead perClient pairs workers) {k : Nat}
    (each : ∀ client n, (round perClient client n).countP bad = k) (wrong : Nat)
    (printed : List String) : ∃ session' workers',
      Stress.mismatches perClient pairs wrong ⟨session, printed⟩ =
        .ok (wrong + pairs.length * k, ⟨session', printed⟩) ∧
      Plays crew₀ workers' session' ∧ Ahead perClient [] workers' := by
  induction pairs generalizing workers session wrong with
  | nil => exact ⟨session, workers, by rw [List.length_nil, Nat.zero_mul]; rfl, plays, ahead⟩
  | cons p rest ih =>
    obtain ⟨client, n⟩ := p
    obtain ⟨w, worker⟩ : ∃ w, workers[client]? = some w :=
      ⟨_, List.getElem?_eq_getElem (ahead.inside _ (List.mem_cons_self ..))⟩
    obtain ⟨free, -⟩ := ahead.orders client w worker
    obtain ⟨split, ahead⟩ :=
      ahead.next worker (w.wrong + (round perClient client n).countP bad)
    obtain ⟨session', carried, plays⟩ :=
      plays.carryOut plans size thrives worker split free wrong printed
    obtain ⟨session'', workers', done, finish⟩ := ih plays ahead (wrong + k)
    rw [Nat.add_assoc, Nat.add_comm k, ← Nat.succ_mul] at done
    refine ⟨session'', workers', ?_, finish⟩
    rw [each] at carried
    rw [List.length_cons, ← done, Stress.mismatches, Part.bind_of_ok carried]

include thrives in
/-- A run in which all workers have ended goes on with the end of the session. -/
theorem Plays.close (plays : Plays crew₀ workers session) (ahead : Ahead perClient [] workers) :
    Crew.Reach crew₀ ⟨(session.close transport 0).gate, workers⟩ := by
  have thrive := thrives plays.reach
  obtain ⟨done, works⟩ := thrive.works plays.there
  have nobody (ids : List ClientId) :
      ids.foldl (fun s i => s.unlockAll transport i (s.client i).holds) session = session := by
    induction ids with
    | nil => rfl
    | cons i rest ih =>
      have none : (session.client i).holds = 0 := works.errands.holds i
      rw [List.foldl_cons, none]
      exact ih
  have joined : joined? workers = some (.ok ()) := joined?_eq_ok.2 fun w hw => by
    obtain ⟨i, worker⟩ := List.getElem?_of_mem hw
    obtain ⟨free, todo⟩ := ahead.orders i w worker
    exact Worker.result?_eq_ok.2 ⟨(thrive.well worker).1, todo, free⟩
  rw [Session.close, nobody]
  obtain ⟨⟨c, b⟩, shown, cleared, waiting, apart⟩ := session
  unfold Session.act
  cases begins : c.begin? 0 .drop with
  | none => simpa [begins] using plays.reach
  | some c' =>
    simp only [begins]
    exact (Crew.Reach.step plays.reach (.drop joined begins)).rest 0

end Play

end FlashGate.Simulator

/-
The stress run over the emulated chip. Main statement: `stress_reports`, that unless fast reads swap
nibbles, every run finds all read-backs as written and nothing wrong with the device, whatever the
interleaving of its threads, and so does the run that takes the clients one after the other; and
that with swapped nibbles every read-back is reported as a mismatch.
-/
import FlashGate.Proofs.Exclusion
import FlashGate.Proofs.Sequence

namespace FlashGate.Simulator

open Stress Chip

/-! ## Outcomes -/

/-- The outcome of a run with so many mismatches among its read-backs, on a chip that has reported
nothing. -/
def Stress.Reports (headline : String) (wrong total : Nat) (o : Outcome) : Prop :=
  ∃ calls changes : Nat, o = if wrong = 0 then
      .finished (joinLines [headline, trafficLine calls changes 0, matchedLine total])
    else failed [trafficLine calls changes 0, headline] (.mismatch wrong total)

theorem reports_report {session : Session Chip} {headline : String} (wrong total : Nat)
    (quiet : breachesIn session.gate.bus.journal.toList = []) :
    Reports headline wrong total (Part.outcome (report wrong total) ⟨session, [headline]⟩) := by
  obtain ⟨calls, made⟩ : ∃ calls,
      Part.record ⟨session, [headline]⟩ = .ok (calls, ⟨session, [headline]⟩) := Part.record_apply
  refine ⟨calls.length, (calls.filter Call.isReconfiguration).length, ?_⟩
  rw [Part.outcome, StateT.run, report, Part.bind_of_ok made,
    Part.bind_of_ok Part.overlaps_apply, Part.bind_of_ok (Part.print_apply _)]
  by_cases right : wrong = 0
  · rw [if_neg (not_not.2 right), if_pos right]
    dsimp only
    rw [Part.bind_of_ok (Part.check_apply quiet)]
    rfl
  · rw [if_pos right, if_neg right, Part.bind_of_error rfl]

/-! ## The stress run -/

section Run

variable {s : Setup} {bad : Order → Bool} {clients iterations perClient : Nat} {config : Config}
  {profile : Profile} {data : List UInt8} {b : Bus Chip}

theorem plans_rounds (shares : Shares s.geometry clients perClient) (iterations : Nat) :
    Plans s (spoilt s.strategy) (Owns perClient) clients
      fun i => (List.range iterations).flatMap (round perClient i) where
  apart _ _ _ mine others := mine.trans others.symm
  inside _ one _ asked := rounds_within shares one asked
  fulfilled _ one _ size := fulfils_rounds shares one size _

theorem start_getElem? (gate : Gate Chip) (i : Nat) :
    (Crew.start gate clients iterations perClient).workers[i]? = if i < clients then
      some { todo := (List.range iterations).flatMap (round perClient i) } else none := by
  rw [Crew.start, List.getElem?_map]
  split
  next one => rw [List.getElem?_range one]; rfl
  next beyond => rw [List.getElem?_eq_none (by simpa using beyond)]; rfl

theorem works_start (start : Gate.start transport config 0 ⟨make profile data, #[]⟩ =
      (.ok (.ok { setup := s }), b)) (clients iterations perClient : Nat) :
    Works s bad clients (fun i => (List.range iterations).flatMap (round perClient i)) (fun _ => [])
      (Crew.start ⟨{ setup := s }, b⟩ clients iterations perClient) := by
  have nothing : issuedBy s (fun _ => []) = fun _ => [] := by
    funext id
    cases id <;> rfl
  refine ⟨rfl, ?_, ?_, fun i w worker => ?_, fun _ _ => rfl⟩
  · rw [nothing]
    exact Gate.onErrands_of_start start
  · simp [Crew.start]
  · rw [start_getElem?] at worker
    split at worker
    · cases worker
      refine ⟨rfl, fun _ none => ?_, rfl, rfl⟩
      cases none
    · cases worker

theorem ahead_start (gate : Gate Chip) (clients iterations perClient : Nat) :
    Ahead perClient (rounds clients iterations)
      (Crew.start gate clients iterations perClient).workers := by
  refine ⟨fun p hp => ?_, fun i w worker => ?_⟩
  · obtain ⟨client, one, hp⟩ := List.mem_flatMap.1 hp
    obtain ⟨n, -, rfl⟩ := List.mem_map.1 hp
    simpa [Crew.start] using one
  · rw [start_getElem?] at worker
    split at worker
    next one =>
      cases worker
      exact ⟨rfl, (ordersOf_flatMap List.nodup_range (List.mem_range.2 one) _).symm⟩
    · cases worker

theorem sum_map_of_eq {α : Type} {f : α → Nat} {m : Nat} (h : ∀ x, f x = m) (l : List α) :
    (l.map f).sum = l.length * m := by
  induction l with
  | nil => simp
  | cons x rest ih =>
    rw [List.map_cons, List.sum_cons, ih, h, List.length_cons, Nat.succ_mul, Nat.add_comm]

theorem length_rounds (clients iterations : Nat) :
    (rounds clients iterations).length = clients * iterations := by
  rw [rounds, List.length_flatMap, sum_map_of_eq (m := iterations) fun _ => by simp]
  simp

theorem countP_rounds {k : Nat} (each : ∀ client n, (round perClient client n).countP bad = k)
    (client iterations : Nat) :
    ((List.range iterations).flatMap (round perClient client)).countP bad = iterations * k := by
  rw [List.countP_flatMap]
  exact (sum_map_of_eq (each client) _).trans (by rw [List.length_range])

theorem sum_countP_rounds {k : Nat} (each : ∀ client n, (round perClient client n).countP bad = k)
    (clients iterations : Nat) : ((List.range clients).map fun i =>
      ((List.range iterations).flatMap (round perClient i)).countP bad).sum =
        clients * iterations * k := by
  rw [sum_map_of_eq fun i => countP_rounds each i iterations, List.length_range, Nat.mul_assoc]

variable {owns : ClientId → Nat → Prop} {plan : Nat → List Order} {f : Flat} {crew₀ : Crew}
  {workers : List Worker} {session : Session Chip}

theorem outcome_run {threads wrong : Nat} {session' : Session Chip} (all : clients = max threads 1)
    (share : perClient = session.gate.control.setup.geometry.sectorCount.toNat / clients)
    (enough : clients ≤ session.gate.control.setup.geometry.sectorCount.toNat)
    (counted : Stress.mismatches perClient (rounds clients iterations) 0
        ⟨session, [headline clients iterations perClient]⟩ =
      .ok (wrong, ⟨session', [headline clients iterations perClient]⟩)) :
    Part.outcome (Stress.run threads iterations) { session } =
      Part.outcome (report wrong (clients * iterations))
        ⟨session'.close transport 0, [headline clients iterations perClient]⟩ := by
  have some : perClient ≠ 0 := by
    rw [share, all]
    exact Nat.ne_of_gt (Nat.div_pos (all ▸ enough) (Nat.le_max_right ..))
  subst all share
  rw [Part.outcome, StateT.run, Stress.run, Part.bind_of_ok Part.geometry_apply]
  dsimp only
  rw [if_neg some, Part.bind_of_ok (Part.print_apply _), Part.bind_of_ok counted,
    Part.bind_of_ok Part.close_apply]
  rfl

/-- The run that takes the clients one after the other reports the bad orders. -/
theorem Plays.run (plans : Plans s bad owns clients plan)
    (size : f.size = s.geometry.totalSize.toNat)
    (thrives : ∀ {crew}, Crew.Reach crew₀ crew → Thrives s bad owns clients plan f crew)
    (plays : Plays crew₀ workers session) (setup : session.gate.control.setup = s)
    {threads k : Nat} (all : clients = max threads 1)
    (share : perClient = s.geometry.sectorCount.toNat / clients)
    (enough : clients ≤ s.geometry.sectorCount.toNat)
    (ahead : Ahead perClient (rounds clients iterations) workers)
    (each : ∀ client n, (round perClient client n).countP bad = k) :
    Reports (headline clients iterations perClient) (clients * iterations * k)
      (clients * iterations) (Part.outcome (Stress.run threads iterations) { session }) := by
  obtain ⟨session', workers', counted, plays', ahead'⟩ :=
    plays.mismatches plans size thrives ahead each 0 [headline clients iterations perClient]
  have quiet := (thrives (plays'.close thrives ahead')).fares.quiet
  rw [length_rounds, Nat.zero_add] at counted
  subst setup
  rw [outcome_run all share enough counted]
  exact reports_report _ _ quiet

end Run

/-! ## All runs -/

/-- What holds of a crew at every moment of a run that is to report so many mismatches. -/
structure Crew.Reporting (headline : String) (wrong total : Nat) (crew : Crew) : Prop where
  /-- No thread has failed, or counted more mismatches. -/
  counted : ∀ w ∈ crew.workers, w.error = none ∧ w.wrong ≤ wrong
  /-- The chip has reported nothing. -/
  quiet : breachesIn crew.gate.bus.journal.toList = []
  /-- No two threads are about to make a call on the chip, so none comes in while one is made. -/
  alone : ∀ who who', crew.gate.control.Drives who → crew.gate.control.Drives who' → who = who'
  /-- The run comes to an end, -/
  ends : Acc (fun crew' crew => Crew.Step crew crew') crew
  /-- but not without an outcome, -/
  goesOn : crew.outcome? headline total = none → ∃ crew', Crew.Step crew crew'
  /-- and this is the report. -/
  reports : ∀ o, crew.outcome? headline total = some o → Reports headline wrong total o

/-- A crew that thrives on rounds with equally many bad orders reports these. -/
theorem Thrives.reporting {s : Setup} {bad : Order → Bool} {owns : ClientId → Nat → Prop}
    {clients iterations perClient k : Nat} {f : Flat} {crew : Crew} {headline : String}
    (thrives : Thrives s bad owns clients
      (fun i => (List.range iterations).flatMap (round perClient i)) f crew)
    (plans : Plans s bad owns clients fun i => (List.range iterations).flatMap (round perClient i))
    (size : f.size = s.geometry.totalSize.toNat)
    (each : ∀ client n, (round perClient client n).countP bad = k) :
    crew.Reporting headline (clients * iterations * k) (clients * iterations) where
  counted w hw := by
    obtain ⟨i, worker⟩ := List.getElem?_of_mem hw
    obtain ⟨well, fewer⟩ := thrives.well worker
    refine ⟨well, Nat.le_trans fewer ?_⟩
    rw [countP_rounds each, Nat.mul_assoc]
    exact Nat.le_mul_of_pos_left _ (Nat.zero_lt_of_lt (thrives.lt worker))
  quiet := thrives.fares.quiet
  alone who who' h h' := by
    have holds := Control.holder_of_drives thrives.fares.sound.locks h
    rw [Control.holder_of_drives thrives.fares.sound.locks h'] at holds
    exact (Option.some.inj holds).symm
  ends := acc_step thrives.fares.sound
  goesOn unfinished := thrives.exists_step plans size unfinished
  reports o come := by
    rw [thrives.outcome?_eq, sum_countP_rounds each] at come
    split at come
    · cases come
      exact reports_report _ _ thrives.fares.quiet
    · cases come

/-- Whether fast reads are configured that swap nibbles. -/
def swapsNibbles (config : Config) : Bool := config.fastRead.any (·.submode = .nibbleSwap)

section Start

variable {config : Config} {size : UInt32} {s : Setup} {b : Bus Chip} {crew : Crew}
  {clients iterations perClient : Nat}

/-- The simulator's chip calibrates, so fast reads are in use just when they are configured. -/
theorem swaps_of_start
    (start : Gate.start transport config 0 ⟨make { size } [], #[]⟩ =
      (.ok (.ok { setup := s }), b)) :
    s.strategy = .fast .nibbleSwap ↔ swapsNibbles config = true := by
  have fresh : (make { size } []).IsFresh := isFresh_make { size } [] 0
  rw [(setup_of_start fresh rfl start).2, strategyFor, swapsNibbles]
  cases config.fastRead with
  | none => simp
  | some fast =>
    show Strategy.ofCalibration fast.submode true = _ ↔ _
    simp [Strategy.ofCalibration]

theorem countP_of_start
    (start : Gate.start transport config 0 ⟨make { size } [], #[]⟩ = (.ok (.ok { setup := s }), b))
    (client n : Nat) : (round perClient client n).countP (spoilt s.strategy) =
      if swapsNibbles config then 1 else 0 := by
  simp only [countP_spoilt_round, swaps_of_start start]

theorem size_of_start
    (start : Gate.start transport config 0 ⟨make { size } [], #[]⟩ =
      (.ok (.ok { setup := s }), b)) :
    (Flat.initial size.toNat []).size = s.geometry.totalSize.toNat :=
  congrArg UInt32.toNat (setup_of_start (isFresh_make { size } [] 0) rfl start).1.symm

/-- The crew of a stress run thrives, whatever the interleaving. -/
theorem thrives_of_start
    (start : Gate.start transport config 0 ⟨make { size } [], #[]⟩ = (.ok (.ok { setup := s }), b))
    (shares : Shares s.geometry clients perClient)
    (reach : Crew.Reach (Crew.start ⟨{ setup := s }, b⟩ clients iterations perClient) crew) :
    Thrives s (spoilt s.strategy) (Owns perClient) clients
      (fun i => (List.range iterations).flatMap (round perClient i))
      (.initial size.toNat []) crew :=
  (thrives_of_reach (plans_rounds shares iterations) rfl start rfl
    (works_start start clients iterations perClient) reach).2

/-- What the simulator comes to, which takes the clients one after the other. -/
theorem outcome_of_start {params : String} {threads : Nat} (iterations : Nat)
    (accepted : (Config.ofText params).1 = .ok config)
    (start : Gate.start transport config 0 ⟨make { size } [], #[]⟩ = (.ok (.ok { setup := s }), b))
    (all : clients = max threads 1) (share : perClient = s.geometry.sectorCount.toNat / clients)
    (enough : clients ≤ s.geometry.sectorCount.toNat)
    (shares : Shares s.geometry clients perClient) :
    Reports (headline clients iterations perClient)
      (clients * iterations * if swapsNibbles config then 1 else 0) (clients * iterations)
      (Invocation.outcome { params, size, subcommand := .stress threads iterations }) := by
  let crew₀ := Crew.start ⟨{ setup := s }, b⟩ clients iterations perClient
  have thrives {crew : Crew} (reach : Crew.Reach crew₀ crew) := thrives_of_start start shares reach
  -- the dispatcher is let start before the first client turns to anything
  have began : Crew.Reach crew₀ ⟨⟨{ setup := s }, b⟩, crew₀.workers⟩ := .refl
  have plays : Plays crew₀ crew₀.workers
      (Session.ofControl transport 0 false { setup := s } b) :=
    ⟨began.rest 0, began.rest_there thrives 0 rfl, Gate.rest_move? transport 0 _⟩
  obtain ⟨done, works⟩ := (thrives plays.reach).works plays.there
  have outcome : Invocation.outcome { params, size, subcommand := .stress threads iterations } =
      Part.outcome (Stress.run threads iterations)
        { session := Session.ofControl transport 0 false { setup := s } b } := by
    simp only [Invocation.outcome, accepted, Subcommand.adjust, start, Subcommand.part]
  rw [outcome]
  exact plays.run (plans_rounds shares iterations) (size_of_start start) thrives works.setup all
    share enough (ahead_start _ _ _ _) (countP_of_start start)

end Start

theorem shares_of_enough {g : Geometry} {clients : Nat} (some : 0 < clients)
    (enough : clients ≤ g.sectorCount.toNat) : Shares g clients (g.sectorCount.toNat / clients) :=
  ⟨Nat.div_pos enough some, Nat.mul_div_le ..⟩

/-- The stress run reports false corruption just when fast reads swap nibbles. Whatever the
parameters that can be read, the size of the chip on which a gate opens, and the threads and
iterations, as long as each thread has a sector: in every run of the threads, with any interleaving,
all read-backs are as written and the run passes, unless the parameters ask for swapped nibbles;
then every read-back is a mismatch, and the run fails for it. No thread fails, the chip reports
nothing, calls never overlap, and every run comes to its end. So does the run that takes the clients
one after the other. -/
theorem stress_reports (params : String) (config : Config) (size : UInt32)
    (threads iterations : Nat) (c : Control) (b : Bus Chip)
    (accepted : (Config.ofText params).1 = .ok config)
    (start : Gate.start transport config 0 ⟨make { size } [], #[]⟩ = (.ok (.ok c), b))
    (enough : max threads 1 ≤ c.setup.geometry.sectorCount.toNat) :
    let clients := max threads 1
    let total := clients * iterations
    let perClient := c.setup.geometry.sectorCount.toNat / clients
    let wrong := if swapsNibbles config then total else 0
    (∀ crew, Crew.Reach (Crew.start ⟨c, b⟩ clients iterations perClient) crew →
      crew.Reporting (headline clients iterations perClient) wrong total) ∧
    Reports (headline clients iterations perClient) wrong total
      (Invocation.outcome { params, size, subcommand := .stress threads iterations }) := by
  intro clients total perClient wrong
  obtain ⟨⟨s, rfl⟩, -⟩ := Gate.opened_of_start start
  have shares : Shares s.geometry clients perClient :=
    shares_of_enough (Nat.lt_of_lt_of_le Nat.one_pos (Nat.le_max_right ..)) enough
  have each : total * (if swapsNibbles config then 1 else 0) = wrong := by
    show _ = if _ then _ else _
    split <;> simp
  rw [← each]
  exact ⟨fun crew reach => (thrives_of_start start shares reach).reporting
      (plans_rounds shares iterations) (size_of_start start) (countP_of_start start),
    outcome_of_start iterations accepted start rfl rfl enough shares⟩

/-- A gate opens over every chip of the simulator that is not empty. -/
theorem exists_start (config : Config) (size : UInt32) (some : size ≠ 0) :
    ∃ (s : Setup) (b : Bus Chip),
      Gate.start transport config 0 ⟨make { size } [], #[]⟩ = (.ok (.ok { setup := s }), b) ∧
        s.geometry.sectorCount.toNat = size.toNat / 4096 := by
  have ready : (make { size } []).connectFailuresLeft = 0 := rfl
  have page : isPowerOfTwo (make { size } []).profile.pageSize = true :=
    show isPowerOfTwo 256 = true by decide
  obtain ⟨c, opened⟩ := start_succeeds ready rfl some page config 0
  have start : Gate.start transport config 0 ⟨make { size } [], #[]⟩ = (.ok (.ok c), _) :=
    Prod.ext opened rfl
  obtain ⟨⟨s, rfl⟩, -⟩ := Gate.opened_of_start start
  exact ⟨s, _, start, by rw [Geometry.sectorCount_eq, ← size_of_start start]; rfl⟩

/-- The first submission of a thread with one sector. -/
def firstErase (client : Nat) : Submission :=
  .job (.erase (sectorStart 1 client 0) sectorSize.toNat) []

/-- The worker of a thread with one sector and two rounds, from its first order on. -/
def erasing (client : Nat) : Worker where
  todo := (round 1 client 0).tail ++ round 1 client 1
  current := some { command := .erase (sectorStart 1 client 0) sectorSize.toNat }

/-- Of two threads the second may be admitted first, while both wait for their first answers. -/
theorem Crew.reach_overtaken (s : Setup) (b : Bus Chip) :
    ∃ crew, Crew.Reach (Crew.start ⟨{ setup := s }, b⟩ 2 2 1) crew ∧
      (∀ w ∈ crew.workers, w.current.isSome = true) ∧
      crew.gate.control.admission.owner = some (thread 1) := by
  obtain ⟨device, journal⟩ := b
  let one : Control :=
    { setup := s, clients := ⟨[(thread 0, { task := .admitting (firstErase 0) })]⟩ }
  let both : Control :=
    { setup := s
      clients := ⟨[(thread 0, { task := .admitting (firstErase 0) }),
        (thread 1, { task := .admitting (firstErase 1) })]⟩ }
  let overtaken : Control :=
    { setup := s
      admission := ⟨some (thread 1), 1⟩
      clients := ⟨[(thread 0, { task := .admitting (firstErase 0) }),
        (thread 1, { task := .sending (firstErase 1) })]⟩ }
  have first : Crew.Step (Crew.start ⟨{ setup := s }, ⟨device, journal⟩⟩ 2 2 1)
      ⟨⟨one, ⟨device, journal⟩⟩, [erasing 0, { todo := round 1 1 0 ++ round 1 1 1 }]⟩ :=
    .order (i := 0) (w := { todo := round 1 0 0 ++ round 1 0 1 }) rfl rfl rfl rfl rfl
  have second : Crew.Step
      ⟨⟨one, ⟨device, journal⟩⟩, [erasing 0, { todo := round 1 1 0 ++ round 1 1 1 }]⟩
      ⟨⟨both, ⟨device, journal⟩⟩, [erasing 0, erasing 1]⟩ :=
    .order (i := 1) (w := { todo := round 1 1 0 ++ round 1 1 1 }) rfl rfl rfl rfl rfl
  have third : Crew.Step ⟨⟨both, ⟨device, journal⟩⟩, [erasing 0, erasing 1]⟩
      ⟨⟨overtaken, ⟨device, journal⟩⟩, [erasing 0, erasing 1]⟩ := by
    let crew : Crew := ⟨⟨both, ⟨device, journal⟩⟩, [erasing 0, erasing 1]⟩
    have admitted : crew.gate.control.move? (.client (thread 1)) = some (.quiet overtaken []) := rfl
    exact .move admitted
  exact ⟨_, ((Crew.Reach.refl.step first).step second).step third, by simp [erasing], rfl⟩

/-- Two threads on a chip of two sectors, with raw fast reads, also when the second of them is
admitted first. -/
theorem stress_reports_two_threads : ∃ (s : Setup) (b : Bus Chip),
    Gate.start transport { fastRead := some ⟨.raw, 0⟩ } 0 ⟨make { size := 8192 } [], #[]⟩ =
      (.ok (.ok { setup := s }), b) ∧
    (∀ crew, Crew.Reach (Crew.start ⟨{ setup := s }, b⟩ 2 2 1) crew →
      crew.Reporting (headline 2 2 1) 0 4) ∧
    (∃ crew, Crew.Reach (Crew.start ⟨{ setup := s }, b⟩ 2 2 1) crew ∧
      (∀ w ∈ crew.workers, w.current.isSome = true) ∧
      crew.gate.control.admission.owner = some (thread 1) ∧
      crew.Reporting (headline 2 2 1) 0 4) ∧
    Reports (headline 2 2 1) 0 4 (Invocation.outcome
      { params := "fast_read=raw", size := 8192, subcommand := .stress 2 2 }) := by
  obtain ⟨s, b, start, sectors⟩ :=
    exists_start { fastRead := some ⟨.raw, 0⟩ } 8192 (by decide)
  have sectors : s.geometry.sectorCount.toNat = 2 := sectors
  have accepted : (Config.ofText "fast_read=raw").1 = .ok { fastRead := some ⟨.raw, 0⟩ } := by
    decide +kernel
  have reports := stress_reports "fast_read=raw" { fastRead := some ⟨.raw, 0⟩ } 8192 2 2
    { setup := s } b accepted start (by rw [sectors]; decide)
  simp only [sectors] at reports
  obtain ⟨crew, reach, wait, overtaken⟩ := Crew.reach_overtaken s b
  exact ⟨s, b, start, reports.1, ⟨crew, reach, wait, overtaken, reports.1 crew reach⟩, reports.2⟩

/-- With swapped nibbles the read-back of a sound chip is taken for a mismatch. -/
theorem stress_fails_swapped :
    (Config.ofText "fast_read=nibble_swap").1 = .ok { fastRead := some ⟨.nibbleSwap, 0⟩ } ∧
    ∃ calls changes, Invocation.outcome
        { params := "fast_read=nibble_swap", subcommand := .stress 1 1 } =
      failed [trafficLine calls changes 0, headline 1 1 256] (.mismatch 1 1) := by
  have accepted : (Config.ofText "fast_read=nibble_swap").1 =
      .ok { fastRead := some ⟨.nibbleSwap, 0⟩ } := by decide +kernel
  obtain ⟨s, b, start, sectors⟩ :=
    exists_start { fastRead := some ⟨.nibbleSwap, 0⟩ } 0x100000 (by decide)
  have sectors : s.geometry.sectorCount.toNat = 256 := sectors
  have enough : 1 ≤ s.geometry.sectorCount.toNat := by rw [sectors]; decide
  have one : 1 = max 1 1 := rfl
  have reports := outcome_of_start 1 accepted start one rfl enough
    (shares_of_enough Nat.one_pos enough)
  rw [sectors] at reports
  exact ⟨accepted, reports⟩

end FlashGate.Simulator

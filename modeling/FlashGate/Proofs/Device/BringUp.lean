/-
Bring-up of the emulated chip. Main statement: `start_opened`, that a gate which starts over a chip
with released hardware matches what the chip is built as, with the hardware released again, the
bytes untouched and no breach on the way; `start_breaches` tells the last of it also of a bring-up
that fails.
-/
import FlashGate.Gateway.Machine
import FlashGate.Proofs.Gateway.Emulated

namespace FlashGate

theorem Geometry.ofSizes_eq_ok {total page sector : UInt32} {g : Geometry}
    (h : ofSizes total page sector = .ok g) :
    g.totalSize = total ∧ g.pageSize = page ∧ sector = sectorSize := by
  unfold ofSizes at h
  split at h
  · cases h
  next hs =>
    split at h
    · cases h
      exact ⟨rfl, rfl, by simpa using hs⟩
    · cases h

theorem Geometry.ofSizes_self (g : Geometry) :
    ofSizes g.totalSize g.pageSize FlashGate.sectorSize = .ok g := by
  rw [ofSizes, if_neg (by simp), dif_pos ⟨g.totalSize_ne_zero, g.pageSize_isPowerOfTwo⟩]

namespace Chip

open Script

variable {w : Chip}

/-- A chip that nobody uses yet: its hardware is released, its latch off, and it holds as many bytes
as it says. -/
structure IsFresh (w : Chip) : Prop where
  connected : w.connected = false
  released : w.fastReadActive = false
  latch : w.writeEnabled = false
  memory : w.memory.size = w.profile.size.toNat

theorem isFresh_make (profile : Profile) (data : List UInt8) (failures : UInt32) :
    ((make profile data).failConnects failures).IsFresh :=
  ⟨rfl, rfl, rfl, rfl⟩

/-- What a gate finds at the end of bring-up. -/
structure BroughtUp (w : Chip) (g : Geometry) (st : Strategy) (w' : Chip) : Prop where
  calm : w'.calm = w'
  size : g.totalSize = w.profile.size
  page : g.pageSize = w.profile.pageSize
  sector : w.profile.sectorSize = sectorSize
  calibrated : st ≠ .standard → w'.calibrated = true
  fresh : w'.IsFresh
  memory : w'.memory = w.memory
  profile : w'.profile = w.profile

/-- How bring-up ends: with a gate, with an error, but never in a fault. -/
def Started (w : Chip) : Except Fault (Except DeviceError (Geometry × Strategy)) → Chip → Prop
  | .ok (.ok (g, st)), w' => BroughtUp w g st w'
  | .ok (.error _), _ => True
  | .error _, _ => False

/-- The chip after a calibration. -/
def calibrating (w : Chip) (found : Bool) : Chip := { w with calibrated := found }

/-- Calibration of a chip whose hardware is released. -/
theorem always_calibrate (calm : w.calm = w) (fresh : w.IsFresh) (config : FastReadConfig) :
    (BringUp.calibrate config).Always world (fun r w' =>
      ∃ st found, r = .ok st ∧ (st ≠ .standard → found = true) ∧ w' = w.calibrating found) w := by
  obtain ⟨connected, released, -, -⟩ := fresh
  -- the fast-read hardware is released whatever calibration answered
  have shutdown {found : Bool} {st : Strategy} (hst : st ≠ .standard → found = true) :
      Always world (fun r w' => ∃ st found, r = .ok st ∧ (st ≠ .standard → found = true) ∧
        w' = w.calibrating found) (do ask .fastReadShutdown; return st)
        ((w.holding false true).calibrating found) := by
    have calm' : (w.calibrating found).calm = w.calibrating found :=
      congrArg (Chip.calibrating · found) calm
    refine Transfer.always_after (fun _ _ h => h.elim)
      ((moves_holding calm').shutdown (p := ⟨false, true⟩) rfl) fun w' hw =>
        ⟨st, found, rfl, hst, ?_⟩
    rw [hw]
    exact holding_of connected released
  have setup : world.permits w .fastReadSetup := by
    intro x hx
    simp [perform, connected] at hx
  have claimed : (w.perform .fastReadSetup).device.calm = w.holding false true := by
    have : (w.perform .fastReadSetup).device.calm = { w.calm with fastReadActive := true } := rfl
    rw [this, calm, holding, ← connected]
  have search : world.permits (w.holding false true)
      (.fastReadCalibrate config.calibrationAddress) := by
    intro x hx
    simp [perform, calibrate, fastBreaches, holding] at hx
  have found : ((w.holding false true).perform
      (.fastReadCalibrate config.calibrationAddress)).device.calm =
      (w.holding false true).calibrating w.profile.calibrates :=
    congrArg (fun c : Chip => (c.holding false true).calibrating w.profile.calibrates) calm
  have answer : ((w.holding false true).perform
      (.fastReadCalibrate config.calibrationAddress)).reply =
      .ok (if w.profile.calibrates then .ok () else .error .calibrationFailed) := rfl
  refine always_bind.2 (always_call setup ?_)
  rw [claimed]
  refine always_bind.2 (always_call search ?_)
  rw [found, answer]
  cases w.profile.calibrates with
  | true => exact shutdown fun _ => rfl
  | false => exact always_bind.2 (always_log.2 (shutdown fun h => absurd rfl h))

theorem always_bringUp (calm : w.calm = w) (fresh : w.IsFresh) (config : Config) :
    (BringUp.script config).Always world (Started w) w := by
  refine always_bind.2 (Always.mono ?_ (always_connect calm fresh.released))
  rintro (f | ⟨e | ⟨⟩⟩) w' hr
  · obtain ⟨-, h⟩ := hr
    cases h
  · trivial
  · obtain rfl : w' = { w with connected := true } := hr
    generalize hv : ({ w with connected := true } : Chip) = v
    have profile : v.profile = w.profile := by rw [← hv]
    have kept : v.calm = v := by
      rw [← hv]
      exact congrArg (fun w : Chip => { w with connected := true }) calm
    -- the reports of the sizes, and the quad mode, leave the chip as it is
    have silent {c : Call} (h : (v.perform c).breaches = []) : world.permits v c := by
      intro x hx
      rw [h] at hx
      cases hx
    have quad : (v.perform .quadEnable).breaches = [] := by
      rw [← hv]
      simp [perform, wireBreaches, fresh.released]
    have disconnected : (v.perform .disconnect).device.calm = w := by
      have connected := fresh.connected
      rw [← hv]
      show ({ w.calm with connected := false } : Chip) = w
      rw [calm, ← connected]
    refine always_bind.2 (always_call (silent rfl) ?_)
    show Always world _ _ v.calm
    rw [kept]
    refine always_bind.2 (always_call (silent rfl) ?_)
    show Always world _ _ v.calm
    rw [kept]
    refine always_bind.2 (always_call (silent rfl) ?_)
    show Always world _ _ v.calm
    rw [kept]
    dsimp only
    rw [profile]
    cases hg : Geometry.ofSizes w.profile.size w.profile.pageSize w.profile.sectorSize with
    | error e => exact trivial
    | ok g =>
      refine always_bind.2 (always_call (silent quad) ?_)
      show Always world _ _ v.calm
      rw [kept]
      refine always_bind.2 (always_call (silent rfl) ?_)
      rw [disconnected]
      obtain ⟨size, page, sector⟩ := Geometry.ofSizes_eq_ok hg
      show Always world _ (do
        let st ← BringUp.strategy config
        return (Except.ok (g, st) : Except DeviceError (Geometry × Strategy))) w
      unfold BringUp.strategy
      split
      · refine always_bind.2 (Always.mono ?_ (always_calibrate calm fresh _))
        rintro r w' ⟨st, found, rfl, hst, rfl⟩
        exact ⟨congrArg (Chip.calibrating · found) calm, size, page, sector, hst,
          ⟨fresh.connected, fresh.released, fresh.latch, fresh.memory⟩, rfl, rfl⟩
      · exact ⟨calm, size, page, sector, fun h => absurd rfl h, fresh, rfl, rfl⟩

/-! ## Opening a gate -/

theorem run_bringUp {chip : Chip} (fresh : chip.IsFresh) (config : Config) (id : ClientId) :
    ∃ w, Seen chip.profile ((BringUp.script config).run transport (.client id) ⟨chip, #[]⟩).2 w ∧
      Started chip.calm ((BringUp.script config).run transport (.client id) ⟨chip, #[]⟩).1 w := by
  have fresh' : chip.calm.IsFresh := ⟨fresh.connected, fresh.released, fresh.latch, fresh.memory⟩
  exact Always.run (world_shows chip.profile (.client id)) (always_bringUp rfl fresh' config)
    ⟨rfl, rfl, fun x hx => by cases hx⟩

/-- Bring-up never faults, and whether it succeeds or not, its breaches are tolerated. -/
theorem start_breaches {chip : Chip} (fresh : chip.IsFresh) (config : Config) (id : ClientId) :
    (∃ r, (Gate.start transport config id ⟨chip, #[]⟩).1 = .ok r) ∧
      ∃ w, Seen chip.profile (Gate.start transport config id ⟨chip, #[]⟩).2 w := by
  obtain ⟨w, seen, started⟩ := run_bringUp fresh config id
  unfold Gate.start
  rcases h : (BringUp.script config).run transport (.client id) ⟨chip, #[]⟩ with
    ⟨f | ⟨e | ⟨g, st⟩⟩, b⟩ <;> rw [h] at seen started
  · exact started.elim
  · exact ⟨⟨_, rfl⟩, w, seen⟩
  · exact ⟨⟨_, rfl⟩, w, (world_shows _ _).log b w _ seen⟩

/-- The read path that calibration of the chip leads to. -/
def strategyFor (config : Config) (chip : Chip) : Strategy :=
  match config.fastRead with
  | some fast => .ofCalibration fast.submode chip.profile.calibrates
  | none => .standard

/-- The chip after bring-up. -/
def broughtUp (config : Config) (chip : Chip) : Chip :=
  match config.fastRead with
  | some _ => { chip with
      connected := false, fastReadActive := false, calibrated := chip.profile.calibrates }
  | none => { chip with connected := false }

theorem always_strategy (config : Config) (chip : Chip) :
    (BringUp.strategy config).Always (World.exact transport)
      (fun r d => r = .ok (strategyFor config chip) ∧ d = broughtUp config chip)
      { chip with connected := false } := by
  unfold BringUp.strategy strategyFor broughtUp
  cases config.fastRead with
  | none => exact ⟨rfl, rfl⟩
  | some fast =>
    refine always_bind.2 (always_exact (always_bind.2 (always_exact ?_)))
    have answered : (transport.perform
        (transport.perform { chip with connected := false } .fastReadSetup).device
        (.fastReadCalibrate fast.calibrationAddress)).reply =
        .ok (if chip.profile.calibrates then .ok () else .error .calibrationFailed) := rfl
    have left : (transport.perform (transport.perform (transport.perform
        { chip with connected := false } .fastReadSetup).device
        (.fastReadCalibrate fast.calibrationAddress)).device .fastReadShutdown).device = { chip with
          connected := false, fastReadActive := false, calibrated := chip.profile.calibrates } :=
            rfl
    rw [answered]
    cases found : chip.profile.calibrates with
    | true => exact always_bind.2 (always_exact ⟨rfl, by rw [left, found]⟩)
    | false =>
      exact always_bind.2 (always_log.2 (always_bind.2 (always_exact ⟨rfl, by rw [left, found]⟩)))

/-- A bring-up succeeds on every supported chip whose next connect does not fail. -/
theorem always_bringUp_ok {chip : Chip} (ready : chip.connectFailuresLeft = 0) {g : Geometry}
    (hg : Geometry.ofSizes chip.profile.size chip.profile.pageSize chip.profile.sectorSize = .ok g)
    (config : Config) : (BringUp.script config).Always (World.exact transport)
      (fun r d => r = .ok (.ok (g, strategyFor config chip)) ∧ d = broughtUp config chip) chip := by
  have connected : transport.perform chip .connect = ⟨.ok (.ok ()), { chip with connected := true },
      if chip.fastReadActive then [.fastReadActive .connect] else []⟩ := by
    show chip.connect = _
    rw [connect, if_neg (by rw [ready]; decide)]
  refine always_bind.2 (always_bind.2 (always_exact ?_))
  rw [connected]
  refine always_bind.2 (always_exact (always_bind.2 (always_exact (always_bind.2
    (always_exact ?_)))))
  show Always (World.exact transport) _ _ _
  dsimp only
  split
  next e h => cases h.symm.trans hg
  next g' h =>
    cases h.symm.trans hg
    refine always_bind.2 (always_exact (always_bind.2 (always_exact (always_bind.2
      (Always.mono ?_ (always_strategy config chip))))))
    rintro r d ⟨rfl, rfl⟩
    exact ⟨rfl, rfl⟩

theorem ofSizes_of_start {chip : Chip} (fresh : chip.IsFresh) {config : Config} {id : ClientId}
    {c : Control} {b : Bus Chip}
    (h : Gate.start transport config id ⟨chip, #[]⟩ = (.ok (.ok c), b)) :
    ∃ g, Geometry.ofSizes chip.profile.size chip.profile.pageSize chip.profile.sectorSize =
      .ok g := by
  obtain ⟨w, -, started⟩ := run_bringUp fresh config id
  unfold Gate.start at h
  rcases hr : (BringUp.script config).run transport (.client id) ⟨chip, #[]⟩ with
    ⟨f | ⟨e | ⟨g, st⟩⟩, b'⟩ <;> rw [hr] at started h
  · cases h
  · cases h
  · have size : g.totalSize = chip.profile.size := started.size
    have page : g.pageSize = chip.profile.pageSize := started.page
    have sector : chip.profile.sectorSize = sectorSize := started.sector
    exact ⟨g, by rw [← size, ← page, sector]; exact g.ofSizes_self⟩

theorem start_eq {chip : Chip} (ready : chip.connectFailuresLeft = 0) {g : Geometry}
    (hg : Geometry.ofSizes chip.profile.size chip.profile.pageSize chip.profile.sectorSize = .ok g)
    (config : Config) (id : ClientId) :
    (Gate.start transport config id ⟨chip, #[]⟩).1 = .ok (.ok { setup := {
        geometry := g, strategy := strategyFor config chip, commands
        queueDepth := config.queueDepth, readChunk := max config.readChunk 1
        retry := config.retry, baseline := config.priority } }) ∧
      (Gate.start transport config id ⟨chip, #[]⟩).2.device = broughtUp config chip := by
  obtain ⟨d, hd, result, rfl⟩ := Always.run (World.exact_shows transport (.client id))
    (always_bringUp_ok ready hg config) (b := ⟨chip, #[]⟩) rfl
  unfold Gate.start
  rcases hr : (BringUp.script config).run transport (.client id) ⟨chip, #[]⟩ with ⟨r, b⟩
  rw [hr] at result hd
  obtain rfl : r = _ := result
  exact ⟨rfl, hd⟩

theorem setup_of_start {chip : Chip} (fresh : chip.IsFresh) (ready : chip.connectFailuresLeft = 0)
    {config : Config} {id : ClientId} {c : Control} {b : Bus Chip}
    (h : Gate.start transport config id ⟨chip, #[]⟩ = (.ok (.ok c), b)) :
    c.setup.geometry.totalSize = chip.profile.size ∧
      c.setup.strategy = strategyFor config chip := by
  obtain ⟨g, hg⟩ := ofSizes_of_start fresh h
  have opened := (start_eq ready hg config id).1
  rw [h] at opened
  cases opened
  exact ⟨(Geometry.ofSizes_eq_ok hg).1, rfl⟩

/-- A gate opens over every supported chip whose next connect does not fail. -/
theorem start_succeeds {chip : Chip} (ready : chip.connectFailuresLeft = 0)
    (sector : chip.profile.sectorSize = sectorSize) (size : chip.profile.size ≠ 0)
    (page : isPowerOfTwo chip.profile.pageSize = true) (config : Config) (id : ClientId) :
    ∃ c, (Gate.start transport config id ⟨chip, #[]⟩).1 = .ok (.ok c) := by
  have hg : Geometry.ofSizes chip.profile.size chip.profile.pageSize chip.profile.sectorSize =
      .ok ⟨chip.profile.size, chip.profile.pageSize, size, page⟩ := by
    rw [Geometry.ofSizes, if_neg (by simpa using sector), dif_pos ⟨size, page⟩]
  exact ⟨_, (start_eq ready hg config id).1⟩

/-- A gate that was opened over a fresh chip: its setup matches the chip, no request was made yet,
and the chip stands released, with its bytes untouched. -/
theorem start_opened {chip : Chip} (fresh : chip.IsFresh) {config : Config} {id : ClientId}
    {c : Control} {b : Bus Chip}
    (h : Gate.start transport config id ⟨chip, #[]⟩ = (.ok (.ok c), b)) :
    ∃ s : Setup, c = { setup := s } ∧ s.queueDepth = config.queueDepth ∧
      s.readChunk = max config.readChunk 1 ∧ s.retry = config.retry ∧
      takenIn b.journal.toList = [] ∧
      (judgement s chip.profile chip.memory).contract.Rest (.held .released) [] b := by
  have traffic := Gate.addsTraffic_start transport config id ⟨chip, #[]⟩
  have nothing := takenIn_start transport config id chip
  obtain ⟨w, seen, started⟩ := run_bringUp fresh config id
  rw [h] at traffic nothing
  unfold Gate.start at h
  rcases hr : (BringUp.script config).run transport (.client id) ⟨chip, #[]⟩ with
    ⟨f | ⟨e | ⟨g, st⟩⟩, b'⟩ <;> rw [hr] at seen started h
  · cases h
  · cases h
  · cases h
    obtain ⟨events, plain, journal⟩ := traffic
    rw [List.nil_append] at journal
    refine ⟨_, rfl, rfl, rfl, rfl, nothing, w, ⟨(world_shows _ _).log b' w _ seen, ?_⟩, ?_⟩
    · rw [journal, answeredIn_traffic plain]
      rfl
    · refine ⟨⟨started.calm, ?_, ?_, ?_, ?_, rfl, started.calibrated, started.fresh.latch⟩,
        ⟨started.fresh.connected, started.fresh.released⟩, started.memory, started.profile⟩
      · rw [started.profile]; exact started.size
      · rw [started.profile]; exact started.page
      · rw [started.profile]; exact started.sector
      · exact started.fresh.memory

end Chip

end FlashGate

/-
What bring-up leaves of the hardware. Main statements: `course_of_plays`, the exchanges of a
bring-up and its result; and `bringUp_holds`, for every transport whose pins follow its calls, that
the fast-read hardware is released again in any case, but the normal transport only where bring-up
succeeds or the connect was refused: each failure after the connect leaves it connected.
-/
import FlashGate.Gateway.BringUp
import FlashGate.Proofs.Gateway.Trace
import FlashGate.Proofs.Masking

namespace FlashGate

open Script
open Transfer (Pins)

/-! ## Pins -/

/-- The pins after a call with its answer. A connect takes them only if it succeeds. -/
def Transfer.Pins.answered (p : Pins) : (c : Call) → c.Reply → Pins
  | .connect, r => if (show Except DeviceError Unit from r).isOk then p.after .connect else p
  | c, _ => p.after c

/-- The pins after exchanges. -/
def Exchange.pins (p : Pins) (t : List Exchange) : Pins :=
  t.foldl (fun p x => p.answered x.call x.reply) p

/-- The device has pins that follow the calls which it answers. -/
def Transport.HasPins {σ : Type} (T : Transport σ) (pins : σ → Pins) : Prop :=
  ∀ d c x, (T.perform d c).reply = .ok x → pins (T.perform d c).device = (pins d).answered c x

theorem Transport.Replays.pins_eq {σ : Type} {T : Transport σ} {pins : σ → Pins}
    (has : T.HasPins pins) {d d' : σ} {t : List Exchange} (h : T.Replays d t d') :
    pins d' = Exchange.pins (pins d) t := by
  induction h with
  | nil => rfl
  | cons reply rest ih => rw [ih, has _ _ _ reply, Exchange.pins, Exchange.pins, List.foldl_cons]

/-- The pins of an emulated chip. -/
def Chip.pins (chip : Chip) : Pins := ⟨chip.connected, chip.fastReadActive⟩

theorem Chip.pins_ite {c : Call} {p : Prop} [Decidable p] {o o' : Outcome Chip c} {q : Pins}
    (h : o.device.pins = q) (h' : o'.device.pins = q) : (if p then o else o').device.pins = q := by
  split
  · exact h
  · exact h'

theorem Chip.hasPins : transport.HasPins Chip.pins := by
  intro chip c x reply
  have reply : (chip.perform c).reply = .ok x := reply
  show (chip.perform c).device.pins = _
  cases c with
  | connect =>
    by_cases failing : chip.connectFailuresLeft > 0
    · have outcome : chip.perform .connect = ⟨.ok (.error .programmerError), _, []⟩ :=
        if_pos failing
      rw [outcome] at reply ⊢
      cases reply
      rfl
    · have outcome : chip.perform .connect = ⟨.ok (.ok ()), { chip with connected := true }, _⟩ :=
        if_neg failing
      rw [outcome] at reply ⊢
      cases reply
      rfl
  | readRaw => exact pins_ite rfl rfl
  | fastRead => exact pins_ite rfl rfl
  | isBusy => exact pins_ite rfl rfl
  | sendCommand => exact pins_ite rfl (pins_ite rfl (pins_ite (pins_ite rfl rfl) rfl))
  | programPage => exact pins_ite rfl (pins_ite rfl (pins_ite (pins_ite rfl rfl) rfl))
  | eraseSector => exact pins_ite rfl (pins_ite (pins_ite rfl rfl) rfl)
  | _ => rfl

/-! ## Answered runs -/

namespace Script

variable {α : Type}

/-- A script comes to a value only if its calls are answered. -/
theorem always_answered : ∀ (s : Script α) (t : Noted Unit), t.answered = true →
    s.Always (World.noted fun _ => none) (fun r t => r.isOk = true → t.answered = true) t
  | .done _, _, answered => fun _ => answered
  | .fault _, _, _ => nofun
  | .note _ rest, t, answered => always_answered rest t answered
  | .call c rest, t, answered => by
    refine ⟨trivial, ?_⟩
    rintro (f | x) _ rfl
    · exact nofun
    · refine always_answered (rest x) _ ?_
      rw [Noted.add, answered]
      rfl
  | .untilReady rest, t, answered =>
    ⟨noted_polls (fun _ _ => rfl) nofun, always_answered rest t answered⟩

/-- A run that comes to a value plays its script, and the device answers all that is said. -/
theorem played_run {σ : Type} {T : Transport σ} {who : Actor} {s : Script α} {b : Bus σ} {a : α}
    (ends : (s.run T who b).1 = .ok a) :
    ∃ added, (s.run T who b).2.journal.toList = b.journal.toList ++ added ∧
      s.Plays (exchangesIn added) (.ok a) ∧
      T.Replays b.device (exchangesIn added) (s.run T who b).2.device := by
  obtain ⟨added, journal, plays⟩ := s.plays_run T who b
  obtain ⟨_, journal', replays⟩ := s.replays_run T who b
  obtain rfl := List.append_cancel_left (journal.symm.trans journal')
  obtain ⟨_, ⟨_, journal', rfl⟩, all⟩ := Always.run
    (World.noted_shows T who b.journal.toList) (s.always_answered ⟨[], true⟩ rfl)
    (b := b) ⟨[], by simp, rfl⟩
  obtain rfl := List.append_cancel_left (journal.symm.trans journal')
  have answered : added.all Entry.isAnswered = true := all (by rw [ends]; rfl)
  rw [ends] at plays
  exact ⟨added, journal, plays answered, replays answered⟩

end Script

/-! ## The course of a bring-up -/

namespace BringUp

/-- What the device reports after a connect. -/
def reports (total page sector : UInt32) : List Exchange :=
  [⟨.connect, (.ok () : Except DeviceError Unit)⟩, ⟨.flashSize, total⟩, ⟨.pageSize, page⟩,
    ⟨.sectorSize, sector⟩]

/-- What a bring-up says to the device, and how it ends. -/
inductive Course (config : Config) :
    List Exchange → Except DeviceError (Geometry × Strategy) → Prop
  /-- The only connect is refused. -/
  | absent (e : DeviceError) :
    Course config [⟨.connect, (.error e : Except DeviceError Unit)⟩] (.error (.connectFailed 1))
  /-- The reported sizes are no geometry. -/
  | unsupported {total page sector : UInt32} {e : DeviceError}
    (sizes : Geometry.ofSizes total page sector = .error e) :
    Course config (reports total page sector) (.error e)
  /-- The device has no quad mode. -/
  | narrow {total page sector : UInt32} {g : Geometry}
    (sizes : Geometry.ofSizes total page sector = .ok g) (e : DeviceError) :
    Course config (reports total page sector ++
      [⟨.quadEnable, (.error e : Except DeviceError Unit)⟩]) (.error e)
  /-- The device is disconnected, and no fast reads are configured. -/
  | standard {total page sector : UInt32} {g : Geometry}
    (sizes : Geometry.ofSizes total page sector = .ok g) (none : config.fastRead = none) :
    Course config (reports total page sector ++
      [⟨.quadEnable, (.ok () : Except DeviceError Unit)⟩, ⟨.disconnect, ()⟩]) (.ok (g, .standard))
  /-- The device is disconnected, and the fast-read hardware set up for calibration and released. -/
  | calibrated {total page sector : UInt32} {g : Geometry} {fast : FastReadConfig}
    (sizes : Geometry.ofSizes total page sector = .ok g) (some : config.fastRead = some fast)
    (found : Except DeviceError Unit) :
    Course config (reports total page sector ++
      [⟨.quadEnable, (.ok () : Except DeviceError Unit)⟩, ⟨.disconnect, ()⟩, ⟨.fastReadSetup, ()⟩,
        ⟨.fastReadCalibrate fast.calibrationAddress, found⟩, ⟨.fastReadShutdown, ()⟩])
      (.ok (g, .ofCalibration fast.submode found.isOk))

variable {config : Config} {t : List Exchange} {r : Except DeviceError (Geometry × Strategy)}

theorem plays_strategy {r : Except Fault Strategy} (h : (strategy config).Plays t r) :
    (config.fastRead = none ∧ t = [] ∧ r = .ok .standard) ∨
      ∃ fast, config.fastRead = some fast ∧ ∃ found : Except DeviceError Unit,
        t = [⟨.fastReadSetup, ()⟩, ⟨.fastReadCalibrate fast.calibrationAddress, found⟩,
          ⟨.fastReadShutdown, ()⟩] ∧ r = .ok (.ofCalibration fast.submode found.isOk) := by
  unfold strategy at h
  split at h
  next fast some =>
    refine .inr ⟨fast, some, ?_⟩
    obtain ⟨⟨⟩, _, rfl, found, t, rfl, h⟩ := h
    rcases found with e | ⟨⟩
    · obtain ⟨⟨⟩, _, rfl, rfl, rfl⟩ := h
      exact ⟨.error e, rfl, rfl⟩
    · obtain ⟨⟨⟩, _, rfl, rfl, rfl⟩ := h
      exact ⟨.ok (), rfl, rfl⟩
  next none => exact .inl ⟨none, h⟩

theorem course_of_plays (h : (script config).Plays t (.ok r)) : Course config t r := by
  obtain ⟨connected, t, rfl, h⟩ := h
  rcases connected with e | ⟨⟩
  · obtain ⟨rfl, ⟨⟩⟩ := h
    exact .absent e
  obtain ⟨total, _, rfl, page, _, rfl, sector, t, rfl, h⟩ := h
  dsimp only [Script.bind] at h
  split at h
  next e sizes =>
    obtain ⟨rfl, ⟨⟩⟩ := h
    exact .unsupported sizes
  next g sizes =>
    obtain ⟨quad, t, rfl, h⟩ := h
    rcases quad with e | ⟨⟩
    · obtain ⟨rfl, ⟨⟩⟩ := h
      exact .narrow sizes e
    obtain ⟨⟨⟩, t, rfl, h⟩ := h
    have h : (strategy config >>= fun st => pure (.ok (g, st)) :
      Script (Except DeviceError (Geometry × Strategy))).Plays t (.ok r) := h
    obtain ⟨_, -, ⟨⟩⟩ | ⟨st, t, _, rfl, path, rfl, ⟨⟩⟩ := plays_bind.1 h
    obtain ⟨none, rfl, ⟨⟩⟩ | ⟨fast, some, found, rfl, ⟨⟩⟩ := plays_strategy path
    · exact .standard sizes none
    · exact .calibrated sizes some found

/-- The pins at the end of a bring-up, where all were free before: the fast-read hardware is
released, and so is the normal transport if bring-up succeeds or the connect was refused. -/
theorem Course.pins (h : Course config t r) : (Exchange.pins {} t).fast = false ∧
    ((Exchange.pins {} t).connected = false ↔
      (∃ opened, r = .ok opened) ∨
        ∃ e : DeviceError, t = [⟨.connect, (.error e : Except DeviceError Unit)⟩]) := by
  cases h with
  | absent e => exact ⟨rfl, fun _ => .inr ⟨e, rfl⟩, fun _ => rfl⟩
  | unsupported sizes =>
    refine ⟨rfl, nofun, ?_⟩
    rintro (⟨_, ⟨⟩⟩ | ⟨e, refused⟩)
    simp [reports] at refused
  | narrow sizes e =>
    refine ⟨rfl, nofun, ?_⟩
    rintro (⟨_, ⟨⟩⟩ | ⟨e, refused⟩)
    simp [reports] at refused
  | standard sizes none => exact ⟨rfl, fun _ => .inl ⟨_, rfl⟩, fun _ => rfl⟩
  | calibrated sizes some found => exact ⟨rfl, fun _ => .inl ⟨_, rfl⟩, fun _ => rfl⟩

end BringUp

/-- What bring-up leaves of hardware that was released before, for every configuration and every
transport that has pins, whatever it answers and reports: where bring-up returns, it has taken one
of its courses, and the fast-read hardware is released. The normal transport is disconnected if
bring-up succeeds or its connect was refused, and stays connected in each other case. -/
theorem bringUp_holds {σ : Type} {T : Transport σ} {pins : σ → Pins} (has : T.HasPins pins)
    (config : Config) (who : Actor) (b : Bus σ) (released : pins b.device = {})
    {r : Except DeviceError (Geometry × Strategy)}
    (ends : ((BringUp.script config).run T who b).1 = .ok r) :
    let b' := ((BringUp.script config).run T who b).2
    ∃ added, b'.journal.toList = b.journal.toList ++ added ∧
      BringUp.Course config (exchangesIn added) r ∧ (pins b'.device).fast = false ∧
      ((pins b'.device).connected = false ↔ (∃ opened, r = .ok opened) ∨
        ∃ e : DeviceError,
          exchangesIn added = [⟨.connect, (.error e : Except DeviceError Unit)⟩]) := by
  intro b'
  obtain ⟨added, journal, plays, replays⟩ := Script.played_run ends
  have course := BringUp.course_of_plays plays
  have left : pins b'.device = Exchange.pins {} (exchangesIn added) := by
    rw [replays.pins_eq has, released]
  rw [left]
  exact ⟨added, journal, course, course.pins⟩

/-- A chip with fast reads configured stands released after its bring-up. One that refuses the
connect does so too, and one of no size does not. -/
theorem bringUp_holds_chips :
    let config : Config := { fastRead := some ⟨.raw, 0x100⟩ }
    let run (chip : Chip) := (BringUp.script config).run Chip.transport .dispatcher ⟨chip, #[]⟩
    let fine := Chip.make { size := 4096 } []
    let absent := fine.failConnects 1
    let empty := Chip.make { size := 0 } []
    Chip.transport.HasPins Chip.pins ∧ fine.pins = {} ∧ absent.pins = {} ∧ empty.pins = {} ∧
    ((run fine).1 = .ok (.ok (⟨4096, 256, by decide, by decide⟩, .fast .raw)) ∧
      (run fine).2.device.pins = {}) ∧
    ((run absent).1 = .ok (.error (.connectFailed 1)) ∧ (run absent).2.device.pins = {}) ∧
    ((run empty).1 = .ok (.error .invalidGeometry) ∧
      (run empty).2.device.pins.connected = true) := by
  intro config run fine absent empty
  have ends : (run fine).1 = .ok (.ok (⟨4096, 256, by decide, by decide⟩, .fast .raw)) := by
    simp only [run, fine, config]
    cbv
  have fails : (run absent).1 = .ok (.error (.connectFailed 1)) := rfl
  have refuses : (run empty).1 = .ok (.error .invalidGeometry) := rfl
  obtain ⟨added, journal, -, fast, connected⟩ :=
    bringUp_holds Chip.hasPins config .dispatcher ⟨fine, #[]⟩ rfl ends
  obtain ⟨added', journal', -, fast', connected'⟩ :=
    bringUp_holds Chip.hasPins config .dispatcher ⟨absent, #[]⟩ rfl fails
  obtain ⟨added'', journal'', course, -, connected''⟩ :=
    bringUp_holds Chip.hasPins config .dispatcher ⟨empty, #[]⟩ rfl refuses
  obtain rfl : (run absent).2.journal.toList = added' := journal'
  obtain rfl : (run empty).2.journal.toList = added'' := journal''
  refine ⟨Chip.hasPins, rfl, rfl, rfl, ⟨ends, congrArg₂ Pins.mk (connected.2 (.inl ⟨_, rfl⟩)) fast⟩,
    ⟨fails, congrArg₂ Pins.mk (connected'.2 (.inr ⟨_, rfl⟩)) fast'⟩, refuses, ?_⟩
  refine (Bool.eq_false_or_eq_true _).resolve_right fun free => ?_
  rcases connected''.1 free with ⟨_, ⟨⟩⟩ | ⟨e, refused⟩
  cases congrArg List.length refused

/-- On a chip with sectors of 8 KiB bring-up fails and leaves the chip connected. -/
theorem bringUp_stays_connected :
    let chip := Chip.make { sectorSize := 8192 } []
    let run := (BringUp.script {}).run Chip.transport .dispatcher ⟨chip, #[]⟩
    Chip.transport.HasPins Chip.pins ∧ chip.pins = {} ∧
    run.1 = .ok (.error (.unsupportedSectorSize 8192)) ∧ run.2.device.pins ≠ {} := by
  refine ⟨Chip.hasPins, rfl, rfl, by decide +kernel⟩

end FlashGate

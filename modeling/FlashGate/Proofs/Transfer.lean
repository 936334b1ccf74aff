/-
The transfers, whatever the device answers. Main statements: `always_fillPieces`, the rule for a
read that is filled piece by piece, and `only_perform`, that an operation on hardware that is set up
for it makes no call that changes which hardware holds the pins.
-/
import FlashGate.Gateway.Move
import FlashGate.Proofs.Device.Plan
import FlashGate.Proofs.World

namespace FlashGate

/-- Whether the call fetches through the fast-read hardware, in the submode selected there. -/
def Call.isFetch : Call → Bool
  | .fastRead .. => true
  | _ => false

/-- Whether the call is one of those that a change of the hardware configuration makes. -/
def Call.arranges : Call → Bool
  | .connect => true
  | .disconnect => true
  | .fastReadSetup => true
  | .fastReadApplyCalibration => true
  | .fastReadShutdown => true
  | .delay _ => true
  | _ => false

/-- The world of an observer who sees nothing and lets the given calls pass. -/
def World.any (p : Call → Prop) : World Unit where
  permits _ c := p c
  reacts _ _ _ _ := True

namespace Script

variable {α β ω : Type} {W : World ω}

/-- Where nothing is seen and all calls pass, every script may run. -/
theorem always_unit {W : World Unit} (permits : ∀ c, W.permits () c) (s : Script α) :
    s.Always W (fun _ _ => True) () := by
  induction s with
  | done a => trivial
  | fault f => trivial
  | note l rest ih => exact ih
  | call c rest ih =>
    refine ⟨permits c, fun r w _ => ?_⟩
    cases r with
    | error f => trivial
    | ok x => exact ih x
  | untilReady rest ih =>
    refine ⟨fun c _ => ⟨permits c, fun r w _ => ?_⟩, ih⟩
    cases r <;> trivial

/-- Whatever the answers, the script makes only calls that `p` says. -/
def Only (p : Call → Prop) (s : Script α) : Prop := s.Always (World.any p) (fun _ _ => True) ()

/-- A script that makes only certain calls keeps what each of these calls keeps. -/
theorem Only.always {p : Call → Prop} {I : ω → Prop}
    (h : ∀ w c, I w → p c → W.permits w c ∧ ∀ r w', W.reacts w c r w' → I w')
    (polls : ∀ w, I w → W.Polls (fun _ => I) w) :
    ∀ {s : Script α} {w : ω}, s.Only p → I w → s.Always W (fun _ => I) w
  | .done _, _, _, hi => hi
  | .fault _, _, _, hi => hi
  | .note _ rest, _, hs, hi => Only.always h polls (s := rest) hs hi
  | .call c rest, w, ⟨hc, hs⟩, hi => by
    obtain ⟨permitted, reacts⟩ := h w c hi hc
    refine ⟨permitted, fun r w' hr => ?_⟩
    have hi' := reacts r w' hr
    cases r with
    | error f => exact hi'
    | ok x => exact Only.always h polls (s := rest x) (hs (.ok x) () trivial) hi'
  | .untilReady rest, w, ⟨_, hs⟩, hi => ⟨polls w hi, Only.always h polls (s := rest) hs hi⟩

theorem Only.passes {p : Call → Prop} {s : Script α} (hs : s.Only p)
    (permits : ∀ w c, p c → W.permits w c) (polls : ∀ w, W.Polls (fun _ _ => True) w) {w : ω} :
    s.Always W (fun _ _ => True) w :=
  Only.always (I := fun _ => True) (fun w c _ hc => ⟨permits w c hc, fun _ _ _ => trivial⟩)
    (fun w _ => polls w) hs trivial

theorem Only.bind {p : Call → Prop} {s : Script α} {f : α → Script β} (hs : s.Only p)
    (hf : ∀ a, (f a).Only p) : (s >>= f).Only p := by
  refine always_bind.2 (hs.mono fun r w _ => ?_)
  cases r with
  | ok a => exact hf a
  | error e => trivial

theorem World.any_polls {p : Call → Prop} (hp : ∀ c : Call, c.isPoll = true → p c) {w : Unit} :
    (World.any p).Polls (fun _ _ => True) w := by
  refine fun c hc => ⟨hp c hc, fun r w' _ => ?_⟩
  cases r <;> trivial

theorem Only.weaken {p q : Call → Prop} {s : Script α} (hq : ∀ c : Call, c.isPoll = true → q c)
    (h : ∀ c, p c → q c) (hs : s.Only p) : s.Only q :=
  hs.passes (fun _ => h) fun _ => World.any_polls hq

theorem only_ask {p : Call → Prop} {c : Call} (hc : p c) : (ask c).Only p :=
  always_ask.2 ⟨hc, fun _ _ _ => trivial⟩

theorem only_masked {p : Call → Prop} {c : Call} (hp : ∀ c : Call, c.isPoll = true → p c)
    (hc : p c) : (masked c).Only p := by
  refine always_masked (World.any_polls hp) hc fun r w' _ => ?_
  cases r with
  | error f => trivial
  | ok x => exact ⟨World.any_polls hp, trivial⟩

theorem only_each {p : Call → Prop} {f : β → Script Unit} {l : List β}
    (hf : ∀ x ∈ l, (f x).Only p) : (each f l).Only p := by
  induction l with
  | nil => exact trivial
  | cons x l ih =>
    exact (hf x (List.mem_cons_self ..)).bind fun _ => ih fun y hy =>
      hf y (List.mem_cons_of_mem _ hy)

end Script

namespace Transfer

open Script

/-! ## Reads -/

/-- A read that is filled piece by piece: `I` tells what holds before the given pieces with so many
bytes filled. Each piece gets a buffer of its own length. -/
theorem always_fillPieces {ω : Type} {W : World ω}
    {fetch : Piece → List UInt8 → Script (List UInt8)}
    {I : List Piece → List UInt8 → ω → Prop} {E : Fault → ω → Prop}
    (padded : ∀ p rest bytes w, I (p :: rest) bytes w → p.length = 0 →
      I rest (bytes ++ List.replicate p.fill erasedByte) w)
    (fetched : ∀ p rest bytes w buffer, I (p :: rest) bytes w → p.length ≠ 0 →
      buffer.length = p.length → (fetch p buffer).Always W (fun r w => match r with
        | .ok part => I rest (bytes ++ (part ++ List.replicate p.fill erasedByte)) w
        | .error f => E f w) w) :
    ∀ {pieces : List Piece} {buffer : List UInt8} {filled : List (List UInt8)} {w : ω},
      (pieces.map fun p => p.length + p.fill).sum ≤ buffer.length →
      I pieces filled.reverse.flatten w →
      (fillPieces fetch pieces buffer filled).Always W (fun r w => match r with
        | .ok bytes => I [] bytes w
        | .error f => E f w) w
  | [], _, _, _, _, hi => hi
  | p :: rest, buffer, filled, w, hb, hi => by
    rw [List.map_cons, List.sum_cons] at hb
    have left : (rest.map fun p => p.length + p.fill).sum ≤
        (buffer.drop (p.length + p.fill)).length := by
      rw [List.length_drop]
      omega
    rw [fillPieces]
    split
    next h =>
      refine always_fillPieces padded fetched left ?_
      simpa using padded p rest _ w hi h
    next h =>
      have room : (buffer.take p.length).length = p.length := by
        rw [List.length_take]
        omega
      refine always_bind.2 (always_log.2 (always_bind.2
        (Always.mono (fun r w hr => ?_) (fetched p rest _ w _ hi h room))))
      cases r with
      | error f => exact hr
      | ok part =>
        refine always_fillPieces padded fetched left ?_
        simpa using hr

theorem always_readChunked {ω : Type} {W : World ω} {g : Geometry} {chunk : Nat}
    {fetch : Piece → List UInt8 → Script (List UInt8)}
    {I : List Piece → List UInt8 → ω → Prop} {E : Fault → ω → Prop}
    {address : UInt32} {buffer : List UInt8} {w : ω}
    (padded : ∀ p rest bytes w, I (p :: rest) bytes w → p.length = 0 →
      I rest (bytes ++ List.replicate p.fill erasedByte) w)
    (fetched : ∀ p rest bytes w buffer, I (p :: rest) bytes w → p.length ≠ 0 →
      buffer.length = p.length → (fetch p buffer).Always W (fun r w => match r with
        | .ok part => I rest (bytes ++ (part ++ List.replicate p.fill erasedByte)) w
        | .error f => E f w) w)
    (hi : I (g.pieces chunk address buffer.length) [] w) :
    (readChunked g chunk fetch address buffer).Always W (fun r w => match r with
      | .ok bytes => I [] bytes w
      | .error f => E f w) w := by
  refine always_fillPieces padded fetched (Nat.le_of_eq ?_) (by simpa using hi)
  rw [Geometry.pieces, g.sum_piecesFrom]

theorem only_readChunked {p : Call → Prop} {g : Geometry} {chunk : Nat}
    {fetch : Piece → List UInt8 → Script (List UInt8)} (hf : ∀ q bytes, (fetch q bytes).Only p)
    (address : UInt32) (buffer : List UInt8) :
    (readChunked g chunk fetch address buffer).Only p := by
  refine Always.mono (fun _ _ _ => trivial) (always_readChunked (I := fun _ _ _ => True)
    (E := fun _ _ => True) (fun _ _ _ _ _ _ => trivial) (fun q _ _ w bytes _ _ _ => ?_) trivial)
  refine (hf q bytes).mono fun r w _ => ?_
  cases r <;> trivial

/-! ## The calls of an operation -/

section Only

variable {g : Geometry} {commands : CommandSet} {chunk : Nat} {address : UInt32}

/-- A call that leaves the pins as they are. -/
def stays (c : Call) : Prop := c.isReconfiguration = false

/-- A call that leaves the pins as they are and does not fetch through the fast-read hardware. -/
def direct (c : Call) : Prop := stays c ∧ c.isFetch = false

theorem direct_poll (c : Call) (h : c.isPoll = true) : direct c := by
  cases c <;> first | exact ⟨rfl, rfl⟩ | cases h

theorem stays_poll (c : Call) (h : c.isPoll = true) : stays c := (direct_poll c h).1

theorem only_change_of {p : Call → Prop} (polls : ∀ c : Call, c.isPoll = true → p c)
    (enables : p (.sendCommand commands.writeEnable))
    (disables : p (.sendCommand commands.writeDisable)) {c : Call} (hc : p c) :
    (change commands c).Only p :=
  (only_masked polls enables).bind fun _ => (only_masked polls hc).bind fun _ =>
    Only.bind (s := waitReady) ⟨World.any_polls polls, trivial⟩ fun _ => only_masked polls disables

theorem only_change {c : Call} (hc : direct c) : (change commands c).Only direct :=
  only_change_of direct_poll ⟨rfl, rfl⟩ ⟨rfl, rfl⟩ hc

theorem only_read (buffer : List UInt8) :
    (read g commands chunk address buffer).Only direct :=
  always_bind.2 (always_log.2
    (only_readChunked (fun _ _ => only_masked direct_poll (by exact ⟨rfl, rfl⟩)) _ _))

theorem only_fastRead_of {p : Call → Prop} (polls : ∀ c : Call, c.isPoll = true → p c)
    (fetches : ∀ start bytes, p (.fastRead start bytes)) (buffer : List UInt8)
    (submode : Option Submode) (selects : ∀ m, submode = some m → p (.fastReadSetMode m)) :
    (fastRead g chunk address buffer submode).Only p := by
  refine always_bind.2 (always_log.2 (only_readChunked (fun q bytes => ?_) _ _))
  cases submode with
  | none => exact only_masked polls (fetches _ _)
  | some m => exact (only_ask (selects m rfl)).bind fun _ => only_masked polls (fetches _ _)

theorem only_fastRead (buffer : List UInt8) (submode : Option Submode) :
    (fastRead g chunk address buffer submode).Only stays :=
  only_fastRead_of stays_poll (fun _ _ => rfl) buffer submode fun _ _ => rfl

theorem only_write (data : List UInt8) : (write g commands address data).Only direct := by
  have page (p : Page) : (programPage commands p).Only direct :=
    always_bind.2 (always_log.2 (only_change (by exact ⟨rfl, rfl⟩)))
  refine always_bind.2 (always_log.2 ((only_each fun p _ => page p).bind fun _ => ?_))
  split <;> exact trivial

theorem only_erase_of {p : Call → Prop} {length : Nat}
    (chip : g.isWholeChip address length = true →
      (change commands (.sendCommand commands.chipErase)).Only p)
    (sector : g.isWholeChip address length = false → ∀ s ∈ g.sectorsFrom
      (Geometry.alignErase address length).1 (Geometry.alignErase address length).2,
      (change commands (.eraseSector commands.sectorErase s.address)).Only p) :
    (erase g commands address length).Only p := by
  refine always_bind.2 (always_log.2 ?_)
  split
  next whole => exact always_bind.2 (always_log.2 ((chip whole).bind fun _ => trivial))
  next part =>
    have each := only_each (f := eraseSector commands) fun s hs =>
      always_bind.2 (always_log.2 (sector (eq_false_of_ne_true part) s hs))
    simp only
    split
    · exact always_bind.2 (always_log.2 (each.bind fun _ => trivial))
    · exact each.bind fun _ => trivial

theorem only_erase (length : Nat) : (erase g commands address length).Only direct :=
  only_erase_of (fun _ => only_change ⟨rfl, rfl⟩) fun _ _ _ => only_change ⟨rfl, rfl⟩

theorem only_perform_direct (s : Setup) {o : Operation} (ho : o.kind.isFastRead = false) :
    (Control.perform s o).Only direct := by
  cases o with
  | read address length => exact only_read _
  | fastRead submode address length => cases ho
  | write address data => exact (only_write data).bind fun _ => trivial
  | erase address length => exact (only_erase length).bind fun _ => trivial

/-- An operation on hardware that is set up for it leaves the pins as they are. -/
theorem only_perform (s : Setup) (o : Operation) : (Control.perform s o).Only stays := by
  cases ho : o.kind.isFastRead with
  | false => exact (only_perform_direct s ho).weaken stays_poll fun _ hc => hc.1
  | true =>
    cases o with
    | fastRead submode address length =>
      have select : (ask (.fastReadSetMode submode)).Only stays := only_ask (by rfl)
      exact select.bind fun _ => only_fastRead _ _
    | _ => cases ho

end Only

/-! ## Reconfigurations -/

/-- A connect only connects, and waits between its attempts. -/
theorem only_connect {p : Call → Prop} (connects : p .connect) (waits : ∀ n, p (.delay n))
    (policy : RetryPolicy) : (connect policy).Only p := by
  have connected (attempts : Nat) : (connectFrom.connected attempts).Only p := by
    unfold connectFrom.connected
    split <;> exact trivial
  suffices ∀ left attempts : Nat, (connectFrom policy.delay left attempts).Only p from this _ _
  intro left
  induction left with
  | zero =>
    intro attempts
    refine (only_ask connects).bind ?_
    rintro (e | ⟨⟩)
    · trivial
    · exact connected _
  | succ left ih =>
    intro attempts
    refine (only_ask connects).bind ?_
    rintro (e | ⟨⟩)
    · refine always_bind.2 (always_log.2 ((only_ask (waits policy.delay)).bind fun _ => ?_))
      split
      · exact ih _
      · trivial
    · exact connected _

theorem only_ite {α : Type} {p : Call → Prop} {q : Prop} [Decidable q] {s t : Script α}
    (hs : s.Only p) (ht : t.Only p) : (if q then s else t).Only p := by
  split
  · exact hs
  · exact ht

theorem only_reconfigure {p : Call → Prop} (hp : ∀ c : Call, c.arranges = true → p c)
    (steps : Reconfiguration) (policy : RetryPolicy) : (reconfigure steps policy).Only p := by
  have last : Script.Only p (if steps.contains .connect then connect policy else return .ok ()) :=
    only_ite (only_connect (hp _ rfl) (fun _ => hp _ rfl) policy) trivial
  have claims := only_ite (q := steps.contains .setupFastRead = true)
    (Only.bind (only_ask (hp .fastReadSetup rfl)) fun _ =>
      Only.bind (only_ask (hp .fastReadApplyCalibration rfl)) fun _ => last) last
  have drops := only_ite (q := steps.contains .disconnect = true)
    (Only.bind (only_ask (hp .disconnect rfl)) fun _ => claims) claims
  exact only_ite trivial (always_bind.2 (always_log.2 (only_ite
    (Only.bind (only_ask (hp .fastReadShutdown rfl)) fun _ => drops) drops)))

theorem only_release {p : Call → Prop} (hp : ∀ c : Call, c.arranges = true → p c) (s : Setup)
    (m : Mode) : (Control.release s m).Only p := by
  refine (only_reconfigure hp _ _).bind ?_
  rintro (e | ⟨⟩)
  · exact always_bind.2 (always_log.2 trivial)
  · trivial

theorem only_openWindow {p : Call → Prop} (hp : ∀ c : Call, c.arranges = true → p c) :
    Control.openWindow.Only p :=
  Only.bind (only_ask (hp _ rfl)) fun _ => Only.bind (only_ask (hp _ rfl)) fun _ =>
    always_bind.2 (always_log.2 trivial)

theorem only_shutWindow {p : Call → Prop} (hp : ∀ c : Call, c.arranges = true → p c) :
    Control.shutWindow.Only p :=
  Only.bind (only_ask (hp _ rfl)) fun _ => trivial

/-- Which hardware holds the pins. -/
structure Pins where
  connected : Bool := false
  fast : Bool := false
  deriving DecidableEq, Repr

/-- The pins that an operation of the kind needs. -/
def Pins.of (k : OperationKind) : Pins := ⟨!k.isFastRead, k.isFastRead⟩

/-- The pins that the dispatcher holds in a mode. -/
def Pins.ofMode (m : Mode) : Pins := ⟨m.isDirect, m.isFastRead⟩

/-- The steps that lead from the pins that are held to those that an operation needs. -/
inductive Leads : Pins → Reconfiguration → Pins → Prop where
  | stays (p : Pins) : Leads p .none p
  | connects : Leads {} .connect ⟨true, false⟩
  | trades : Leads ⟨false, true⟩ (Reconfiguration.shutdownFastRead.union .connect) ⟨true, false⟩
  | claims : Leads {} .setupFastRead ⟨false, true⟩
  | swaps : Leads ⟨true, false⟩ (Reconfiguration.disconnect.union .setupFastRead) ⟨false, true⟩

/-- The steps before an operation lead to the pins that it needs. -/
theorem leads_stepsTo (m : Mode) (k : OperationKind) :
    Leads (.ofMode m) (m.stepsTo k) (.of k) := by
  cases hk : k.isFastRead with
  | false =>
    cases m with
    | released =>
      simpa [Pins.ofMode, Pins.of, Mode.stepsTo, Mode.isDirect, Mode.isFastRead, hk]
        using Leads.connects
    | serving old =>
      cases ho : old.isFastRead with
      | false =>
        simpa [Pins.ofMode, Pins.of, Mode.stepsTo, Mode.isDirect, Mode.isFastRead, hk, ho]
          using Leads.stays ⟨true, false⟩
      | true =>
        simpa [Pins.ofMode, Pins.of, Mode.stepsTo, Mode.isDirect, Mode.isFastRead, hk, ho]
          using Leads.trades
  | true =>
    cases m with
    | released =>
      simpa [Pins.ofMode, Pins.of, Mode.stepsTo, Mode.isDirect, Mode.isFastRead, hk]
        using Leads.claims
    | serving old =>
      cases ho : old.isFastRead with
      | false =>
        simpa [Pins.ofMode, Pins.of, Mode.stepsTo, Mode.isDirect, Mode.isFastRead, hk, ho]
          using Leads.swaps
      | true =>
        simpa [Pins.ofMode, Pins.of, Mode.stepsTo, Mode.isDirect, Mode.isFastRead, hk, ho]
          using Leads.stays ⟨false, true⟩

section Reconfigure

variable {ω : Type} {W : World ω} {I : Pins → ω → Prop} {E : Fault → ω → Prop}

/-- How the calls of a reconfiguration move the pins, where `I` tells which pins are held, and `E`
how a fault ends them. -/
structure Moves (W : World ω) (I : Pins → ω → Prop) (E : Fault → ω → Prop) : Prop where
  disconnect : ∀ {p w}, I p w → (ask .disconnect).Always W (fun r w => match r with
    | .ok () => I ⟨false, p.fast⟩ w
    | .error f => E f w) w
  shutdown : ∀ {p w}, I p w → (ask .fastReadShutdown).Always W (fun r w => match r with
    | .ok () => I ⟨p.connected, false⟩ w
    | .error f => E f w) w
  claim : ∀ {p w}, p.connected = false → I p w →
    Always W (fun r w => match r with
      | .ok () => I ⟨false, true⟩ w
      | .error f => E f w) (do ask .fastReadSetup; ask .fastReadApplyCalibration) w

/-- How a reconfiguration ends that leads to certain pins. -/
def Arrives (I : Pins → ω → Prop) (E : Fault → ω → Prop) (p : Pins) :
    Except Fault (Except DeviceError Unit) → ω → Prop
  | .ok (.ok ()), w => I p w
  | .ok (.error _), _ => True
  | .error f, w => E f w

theorem always_after {α β : Type} {s : Script α} {rest : Script β} {P : ω → Prop}
    {Q : Except Fault β → ω → Prop} {w : ω} (fault : ∀ f w, E f w → Q (.error f) w)
    (hs : s.Always W (fun r w => match r with
      | .ok _ => P w
      | .error f => E f w) w)
    (h : ∀ w, P w → rest.Always W Q w) : Always W Q (do let _ ← s; rest) w := by
  refine always_bind.2 (Always.mono ?_ hs)
  rintro (f | x) w' hr
  · exact fault f w' hr
  · exact h w' hr

/-- A reconfiguration arrives at the pins that its steps lead to. -/
theorem always_reconfigure (moves : Moves W I E) {E' : Fault → ω → Prop} {policy : RetryPolicy}
    (weaken : ∀ f w, E f w → E' f w)
    (connects : ∀ {p w}, p.fast = false → I p w →
      (connect policy).Always W (Arrives I E' ⟨true, false⟩) w)
    {p p' : Pins} {steps : Reconfiguration} (leads : Leads p steps p') {w : ω} (h : I p w) :
    (reconfigure steps policy).Always W (Arrives I E' p') w := by
  -- claiming the fast-read hardware comes last where it is claimed
  have claims {p : Pins} {w : ω} (free : p.connected = false) (hi : I p w) :
      Always W (Arrives I E' ⟨false, true⟩)
        (do ask .fastReadSetup; ask .fastReadApplyCalibration; return .ok ()) w := by
    refine always_after weaken (s := do ask .fastReadSetup; ask .fastReadApplyCalibration)
      (moves.claim free hi) fun w hi => hi
  cases leads with
  | stays => exact h
  | connects => exact connects rfl h
  | trades =>
    refine always_bind.2 (always_log.2 ?_)
    exact always_after weaken (moves.shutdown h) fun w hi => connects rfl hi
  | claims => exact claims rfl h
  | swaps =>
    refine always_bind.2 (always_log.2 ?_)
    exact always_after weaken (moves.disconnect h) fun w hi => claims rfl hi

/-- The steps before an operation arrive at the pins that it needs. -/
theorem always_reconfigure_to (moves : Moves W I E) {E' : Fault → ω → Prop} {policy : RetryPolicy}
    (weaken : ∀ f w, E f w → E' f w)
    (connects : ∀ {p w}, p.fast = false → I p w →
      (connect policy).Always W (Arrives I E' ⟨true, false⟩) w)
    {m : Mode} (k : OperationKind) {w : ω} (h : I (.ofMode m) w) :
    (reconfigure (m.stepsTo k) policy).Always W (Arrives I E' (.of k)) w :=
  always_reconfigure moves weaken connects (leads_stepsTo m k) h

/-- The release of a mode's hardware leads to free pins. -/
theorem always_reconfigure_release (moves : Moves W I E) {policy : RetryPolicy} {m : Mode} {w : ω}
    (h : I (.ofMode m) w) : (reconfigure m.release policy).Always W (fun r w => match r with
      | .ok (.ok ()) => I {} w
      | .ok (.error _) => False
      | .error f => E f w) w := by
  cases m with
  | released => exact h
  | serving old =>
    cases ho : old.isFastRead with
    | false =>
      have steps : (Mode.serving old).release = .disconnect := by
        simp [Mode.release, Mode.isDirect, Mode.isFastRead, ho]
      have held : Pins.ofMode (.serving old) = ⟨true, false⟩ := by
        simp [Pins.ofMode, Mode.isDirect, Mode.isFastRead, ho]
      rw [steps]
      rw [held] at h
      refine always_bind.2 (always_log.2 (always_bind.2 (Always.mono ?_ (moves.disconnect h))))
      rintro (f | x) w' hr <;> exact hr
    | true =>
      have steps : (Mode.serving old).release = .shutdownFastRead := by
        simp [Mode.release, Mode.isFastRead, ho]
      have held : Pins.ofMode (.serving old) = ⟨false, true⟩ := by
        simp [Pins.ofMode, Mode.isDirect, Mode.isFastRead, ho]
      rw [steps]
      rw [held] at h
      refine always_bind.2 (always_log.2 (always_bind.2 (Always.mono ?_ (moves.shutdown h))))
      rintro (f | x) w' hr <;> exact hr

end Reconfigure

end Transfer

end FlashGate

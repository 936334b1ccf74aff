/-
Clients with sectors of their own. Main statement: `clients_apart`, that a client which keeps to
sectors that no other client touches gets the replies, and finds in its sectors at the end the
bytes, of a run in which it is alone.
-/
import FlashGate.Proofs.Device.Confined
import FlashGate.Proofs.Gateway.Inbox
import FlashGate.Proofs.Linearization

namespace FlashGate

open Chip

/-- Of two lists that begin the same tickets, one whose entries are all in the other begins it. -/
theorem prefix_of_keys {α β : Type} {keys : List α} (distinct : keys.Nodup) :
    ∀ {l m : List (α × β)}, l.map (·.1) <+: keys → m.map (·.1) <+: keys → (∀ x ∈ l, x ∈ m) →
      l <+: m := by
  induction keys with
  | nil =>
    intro l m hl _ _
    obtain rfl : l = [] := List.map_eq_nil_iff.1 (List.prefix_nil.1 hl)
    exact List.nil_prefix
  | cons k keys ih =>
    obtain ⟨fresh, rest⟩ := List.nodup_cons.1 distinct
    intro l m hl hm all
    cases l with
    | nil => exact List.nil_prefix
    | cons r l =>
      cases m with
      | nil => exact absurd (all r (List.mem_cons_self ..)) List.not_mem_nil
      | cons d m =>
        rw [List.map_cons, List.cons_prefix_cons] at hl hm
        obtain ⟨rfl, hl⟩ := hl
        -- the first key is that of no later entry
        have later {x : α × β} {l : List (α × β)} (hx : x ∈ l) (hl : l.map (·.1) <+: keys) :
            x.1 ≠ r.1 := fun same =>
          fresh (same ▸ hl.subset (List.mem_map_of_mem hx))
        have first : r = d :=
          (List.mem_cons.1 (all r (List.mem_cons_self ..))).resolve_right fun hr =>
            later hr hm.2 rfl
        refine List.cons_prefix_cons.2 ⟨first, ih rest hl hm.2 fun x hx => ?_⟩
        exact (List.mem_cons.1 (all x (List.mem_cons_of_mem _ hx))).resolve_left fun same =>
          later hx hl (by rw [same, first])

theorem Flat.keys_repliesTo (f : Flat) (id : ClientId) (messages : List Message) :
    (f.repliesTo id messages).map (·.1) = readsBy id messages := by
  induction messages generalizing f with
  | nil => rfl
  | cons x rest ih =>
    cases x with
    | park i => exact ih _
    | stop => exact ih _
    | job j =>
      rw [repliesTo, List.map_append, ih]
      by_cases h : j.client = id ∧ j.operation.isRead = true <;>
        simp [readsBy, Message.readBy?, h]

theorem Control.Pending.eq_nil {d : Dispatcher} {current : List Message}
    (pending : Pending d current) (idle : Pending d []) (sane : d.isFaulted = false) :
    current = [] := by
  cases d with
  | claiming j => cases idle
  | serving j script => cases idle
  | claimingRelease l => obtain ⟨m, none, -⟩ := idle; cases none
  | releasing l script => obtain ⟨m, none, -⟩ := idle; cases none
  | unwinding => cases sane
  | dead => cases sane
  | aborted => cases sane
  | _ => exact pending

/-- All along a run of a gate over a device of whole pages and sectors, what it has handed over and
stores is what a flat memory does for the messages done. -/
theorem refines_of_start {profile : Profile} {data : List UInt8} {config : Config} {id : ClientId}
    {c : Control} {b : Bus Chip} {g : Gate Chip}
    (pages : profile.size.toNat % profile.pageSize.toNat = 0)
    (sectors : profile.size.toNat % 4096 = 0)
    (start : Gate.start transport config id ⟨make profile data, #[]⟩ = (.ok (.ok c), b))
    (reach : Gate.Reach transport failing ⟨c, b⟩ g) :
    ∃ done current, takenIn g.bus.journal.toList = done ++ current ∧
      Control.Pending g.control.dispatcher current ∧
      g.Refines (.initial profile.size.toNat data) done := by
  have fresh : (make profile data).IsFresh := ⟨rfl, rfl, rfl, rfl⟩
  obtain ⟨s, total, pageSize, retry, sound, done, stands⟩ := stands_of_start fresh start reach
  obtain ⟨current, taken, pending⟩ := stands.taken
  have total : s.geometry.totalSize = profile.size := total
  have pageSize : s.geometry.pageSize = profile.pageSize := pageSize
  exact ⟨done, current, taken, pending, refines_of_stands (Flat.shows_initial profile data)
    (by rw [total]; rfl) (fun j _ => j.operation.staysInside_of_whole
      (by rw [total, pageSize]; exact pages) (by rw [total]; exact sectors)) stands⟩

namespace Gate

/-- The bytes that a client has got by its reads, one after the other. -/
def bytesTo {σ : Type} (id : ClientId) (g : Gate σ) : List (List UInt8) :=
  (receivedBy id (receivedIn g.bus.journal.toList)).map (·.2)

/-- A gate that is done with all it has accepted, while no script runs. -/
structure Settled {σ : Type} (g : Gate σ) : Prop where
  queue : g.control.queue = []
  pending : Control.Pending g.control.dispatcher []
  free : ∀ who, ¬ g.control.Drives who

variable {profile : Profile} {data : List UInt8} {config : Config} {id i : ClientId} {c : Control}
  {b : Bus Chip} {g : Gate Chip}

theorem settled_of_stopped (start : Gate.start transport config id ⟨make profile data, #[]⟩ =
      (.ok (.ok c), b)) (reach : Reach transport failing ⟨c, b⟩ g)
    (halted : g.control.dispatcher = .stopped) :
    g.Settled ∧ ∀ i, (g.control.client i).task.wants? = none := by
  have sound := (balanced_of_start start reach).1
  refine ⟨⟨sound.handshake.ended (by rw [halted]; rfl), ?_,
    Control.not_drives_of_off (sound.off_of_stopped halted)⟩, fun i => ?_⟩
  · rw [halted]
    rfl
  · exact sound.handshake.wants_of_isOver (by rw [halted]; rfl) (by rw [halted]; rfl)

theorem nodup_readsBy (balanced : g.Balanced) (inbox : g.InboxStands) :
    (readsBy i (acceptedIn g.bus.journal.toList)).Nodup := by
  rw [inbox i]
  refine List.nodup_append.2 ⟨balanced.once.sublist (map_receivedBy_sublist ..), ?_, ?_⟩
  · rw [Task.waiting]
    cases (g.control.client i).task.wants? with
    | none => exact List.nodup_nil
    | some r => exact List.nodup_singleton _
  · intro t ht w hw same
    obtain ⟨r, hr, rfl⟩ := List.mem_map.1 ht
    rw [Task.waiting] at hw
    cases waits : (g.control.client i).task.wants? with
    | none => rw [waits] at hw; cases hw
    | some x =>
      rw [waits] at hw
      obtain rfl : w = x.1 := List.mem_singleton.1 hw
      exact (balanced.wants i x.1 x.2 waits).2 _ (mem_receivedBy.1 hr) same

/-- What a client has got begins the replies to it among those for the messages done. -/
theorem received_begins {f : Flat} {done : List Message} (balanced : g.Balanced)
    (inbox : g.InboxStands) (begun : done <+: acceptedIn g.bus.journal.toList)
    (answered : answeredIn g.bus.journal.toList = f.replies done) :
    receivedBy i (receivedIn g.bus.journal.toList) <+: f.repliesTo i done := by
  have distinct : (readsBy i (acceptedIn g.bus.journal.toList)).Nodup :=
    nodup_readsBy balanced inbox
  refine prefix_of_keys distinct ?_ ?_ fun r hr => ?_
  · rw [inbox i]
    exact List.prefix_append ..
  · rw [Flat.keys_repliesTo]
    exact begun.filterMap _
  · obtain ⟨answer, j, accepted, submitter, -⟩ := balanced.receipts _ (mem_receivedBy.1 hr)
    have answer : r ∈ answeredIn g.bus.journal.toList := answer
    rw [answered] at answer
    obtain ⟨j', asked, ticket, reply⟩ := Flat.mem_repliesTo answer
    -- the ticket tells the place of the request
    have same : j' = j := by
      obtain ⟨n, place⟩ := List.mem_iff_getElem?.1 (begun.subset asked)
      have : j'.ticket = n := balanced.tickets n j' place
      rw [← this, ticket] at place
      have accepted : (acceptedIn g.bus.journal.toList)[r.1]? = some (.job j) := accepted
      rw [accepted] at place
      cases place
      rfl
    rw [same] at reply
    obtain rfl : i = j.client := by
      have submitter : Actor.client i = .client j.client := submitter
      cases submitter
      rfl
    exact reply

/-- A client is served as if it were alone: it gets the bytes, and has the bytes in its sectors,
that a flat memory hands over and holds for its operations. -/
structure Serves (g : Gate Chip) (i : ClientId) (own : Nat → Prop) (f : Flat)
    (operations : List Operation) : Prop where
  begun : bytesTo i g <+: f.answers operations
  served : (g.control.client i).task.wants? = none → bytesTo i g = f.answers operations
  stored : g.Settled → ∀ x < f.size, own (x / 4096) →
    g.bus.device.memory.byte x = (f.perform operations).byte x

/-- Among messages that keep to the sectors of their clients, each client of a gate that refines a
flat memory is served as if it were alone. -/
theorem serves_of_refines {f : Flat} (owns : ClientId → Nat → Prop)
    (apart : ∀ i j s, owns i s → owns j s → i = j) (balanced : g.Balanced) (inbox : g.InboxStands)
    (sane : g.control.dispatcher.isFaulted = false)
    (confined : Confined owns (acceptedIn g.bus.journal.toList)) {done current : List Message}
    (taken : takenIn g.bus.journal.toList = done ++ current)
    (pending : Control.Pending g.control.dispatcher current) (refines : g.Refines f done) :
    g.Serves i (owns i) f (operationsOf i (acceptedIn g.bus.journal.toList)) := by
  have begun : done <+: acceptedIn g.bus.journal.toList :=
    List.IsPrefix.trans ⟨current, taken.symm⟩ balanced.begun
  have itself : f.SameIn (owns i) f := ⟨rfl, fun _ _ _ => rfl⟩
  obtain ⟨-, all⟩ := Flat.confined_run apart confined itself
  obtain ⟨kept, handed⟩ := Flat.confined_run apart
    (fun j hj => confined j (begun.subset hj)) itself
  have got : bytesTo i g <+: f.answers (operationsOf i (acceptedIn g.bus.journal.toList)) := by
    have earlier : operationsOf i done <+: operationsOf i (acceptedIn g.bus.journal.toList) :=
      begun.filterMap _
    refine List.IsPrefix.trans ?_ (Flat.answers_begin earlier)
    rw [← handed]
    exact (received_begins balanced inbox begun refines.answered).map _
  refine ⟨got, fun none => got.eq_of_length ?_, fun settled x hx own => ?_⟩
  · -- as many bytes have come as reads were submitted
    have reads := congrArg List.length (inbox i)
    rw [Task.waiting, none, ← f.keys_repliesTo] at reads
    rw [← all, bytesTo, List.length_map, List.length_map]
    simpa using reads.symm
  · have alive : g.control.dispatcher ≠ .dead := fun h => by rw [h] at sane; cases sane
    have whole : acceptedIn g.bus.journal.toList = done := by
      rw [balanced.queued alive, settled.queue, taken, List.append_nil,
        pending.eq_nil settled.pending sane, List.append_nil]
    rw [whole]
    have shows := refines.stored settled.free sane
    have inside : x < (f.run done).size := by rwa [Flat.size_run]
    rw [shows.byte x inside]
    exact kept.byte x inside own

/-- So it is on every gate over a device of whole pages and sectors. -/
theorem serves_of_start (owns : ClientId → Nat → Prop)
    (apart : ∀ i j s, owns i s → owns j s → i = j)
    (pages : profile.size.toNat % profile.pageSize.toNat = 0)
    (sectors : profile.size.toNat % 4096 = 0)
    (start : Gate.start transport config id ⟨make profile data, #[]⟩ = (.ok (.ok c), b))
    (reach : Reach transport failing ⟨c, b⟩ g) (sane : g.control.dispatcher.isFaulted = false)
    (confined : Confined owns (acceptedIn g.bus.journal.toList)) :
    g.Serves i (owns i) (.initial profile.size.toNat data)
      (operationsOf i (acceptedIn g.bus.journal.toList)) := by
  obtain ⟨-, balanced⟩ := balanced_of_start start reach
  obtain ⟨done, current, taken, pending, refines⟩ := refines_of_start pages sectors start reach
  exact serves_of_refines owns apart balanced (inbox_of_start start reach sane) sane confined taken
    pending refines

end Gate

/-- Clients with sectors of their own do not disturb each other. On a device of whole pages and
sectors, take any run in which every client keeps to its sectors, with any interleaving and with
connects failing at any time, and a run of one of the clients alone for the same operations, neither
of which a fault of the dispatcher ends. The client gets the same bytes by its reads, one after the
other as far as both have come; the same as a whole once it waits for none; and when both gates have
settled, the same bytes stand in its sectors. -/
theorem clients_apart (profile : Profile) (data : List UInt8) (config : Config)
    (pages : profile.size.toNat % profile.pageSize.toNat = 0)
    (sectors : profile.size.toNat % 4096 = 0)
    (owns : ClientId → Nat → Prop) (apart : ∀ i j s, owns i s → owns j s → i = j)
    (id id' : ClientId) (c c' : Control) (b b' : Bus Chip) (g g' : Gate Chip)
    (start : Gate.start transport config id ⟨make profile data, #[]⟩ = (.ok (.ok c), b))
    (reach : Gate.Reach transport failing ⟨c, b⟩ g)
    (sane : g.control.dispatcher.isFaulted = false)
    (confined : Confined owns (acceptedIn g.bus.journal.toList))
    (start' : Gate.start transport config id' ⟨make profile data, #[]⟩ = (.ok (.ok c'), b'))
    (reach' : Gate.Reach transport failing ⟨c', b'⟩ g')
    (sane' : g'.control.dispatcher.isFaulted = false)
    (i : ClientId) (alone : ∀ j, .job j ∈ acceptedIn g'.bus.journal.toList → j.client = i)
    (operations : List Operation)
    (issued : operationsOf i (acceptedIn g.bus.journal.toList) <+: operations)
    (issued' : operationsOf i (acceptedIn g'.bus.journal.toList) <+: operations) :
    (Gate.bytesTo i g <+: Gate.bytesTo i g' ∨ Gate.bytesTo i g' <+: Gate.bytesTo i g) ∧
    (operationsOf i (acceptedIn g.bus.journal.toList) = operations →
      operationsOf i (acceptedIn g'.bus.journal.toList) = operations →
      ((g.control.client i).task.wants? = none → (g'.control.client i).task.wants? = none →
        Gate.bytesTo i g = Gate.bytesTo i g') ∧
      (g.Settled → g'.Settled → ∀ x < profile.size.toNat, owns i (x / 4096) →
        g.bus.device.memory.byte x = g'.bus.device.memory.byte x)) := by
  have joint : g.Serves i (owns i) (.initial profile.size.toNat data) _ :=
    Gate.serves_of_start owns apart pages sectors start reach sane confined
  -- a client that is alone may as well own all sectors
  have single : g'.Serves i (fun _ => i = i) (.initial profile.size.toNat data) _ :=
    Gate.serves_of_start (fun j _ => j = i) (fun _ _ _ h h' => h.trans h'.symm) pages sectors start'
      reach' sane' fun j hj => ⟨alone j hj, fun _ _ => alone j hj⟩
  constructor
  · exact List.prefix_or_prefix_of_prefix (joint.begun.trans (Flat.answers_begin issued))
      (single.begun.trans (Flat.answers_begin issued'))
  · rintro whole whole'
    rw [whole] at joint
    rw [whole'] at single
    refine ⟨fun none none' => ?_, fun settled settled' x hx own => ?_⟩
    · rw [joint.served none, single.served none']
    · rw [joint.stored settled x hx own, single.stored settled' x hx rfl]

/-- A chip of two sectors and one page. -/
def twoSectors : Profile := { size := 8192, pageSize := 8192 }

/-- A gate that is opened over a chip of two sectors, with fast reads that swap nibbles. -/
def Gate.wide : Except Fault (Except DeviceError Control) × Bus Chip :=
  Gate.start transport { fastRead := some ⟨.nibbleSwap, 0⟩ } 0 ⟨make twoSectors [], #[]⟩

/-- What is read off the control state that the gate over two sectors opens with. -/
def Gate.ofWide {α : Type} (f : Control → α) : Option α :=
  match Gate.wide.1 with
  | .ok (.ok c) => some (f c)
  | _ => none

/-- Client 0 writes to the first sector and reads it, while client 1 writes to the second one,
erases it and reads it. -/
def Gate.wideShared (c : Control) : Gate Chip :=
  ((((((({ gate := ⟨c, Gate.wide.2⟩ } : Session Chip).act transport 0 (.write 1 [0x0F])).act
    transport 1 (.write 4096 [0, 0])).act transport 0 (.read 0 [0, 0, 0])).act
      transport 1 (.erase 4100 1)).act transport 1 (.read 4096 [0])).act transport 0 .drop).gate

/-- Client 0 does the same alone. -/
def Gate.wideAlone (c : Control) : Gate Chip :=
  (((({ gate := ⟨c, Gate.wide.2⟩ } : Session Chip).act transport 0 (.write 1 [0x0F])).act
    transport 0 (.read 0 [0, 0, 0])).act transport 0 .drop).gate

/-- On the gate over two sectors, which are one page, the first client reads the same and leaves the
same in its sector whether or not the second one is there. -/
theorem clients_apart_wide : ∃ c, Gate.wide.1 = .ok (.ok c) ∧
    Gate.bytesTo 0 (Gate.wideShared c) = Gate.bytesTo 0 (Gate.wideAlone c) ∧
    (∀ x < 4096, (Gate.wideShared c).bus.device.memory.byte x =
      (Gate.wideAlone c).bus.device.memory.byte x) ∧
    Gate.bytesTo 0 (Gate.wideShared c) = [[0xFF, 0xF0, 0xFF]] := by
  obtain ⟨c, opened⟩ : ∃ c, Gate.wide.1 = .ok (.ok c) :=
    start_succeeds rfl rfl (by decide) (by decide) _ _
  have fresh : Gate.Reach transport failing ⟨c, Gate.wide.2⟩
      ({ gate := ⟨c, Gate.wide.2⟩ } : Session Chip).gate := .refl
  have reach : Gate.Reach transport failing ⟨c, Gate.wide.2⟩ (Gate.wideShared c) :=
    Session.reach_act 0 _ (Session.reach_act 1 _ (Session.reach_act 1 _ (Session.reach_act 0 _
      (Session.reach_act 1 _ (Session.reach_act 0 _ fresh)))))
  have reach' : Gate.Reach transport failing ⟨c, Gate.wide.2⟩ (Gate.wideAlone c) :=
    Session.reach_act 0 _ (Session.reach_act 0 _ (Session.reach_act 0 _ fresh))
  have start : Gate.start transport { fastRead := some ⟨.nibbleSwap, 0⟩ } 0
      ⟨make twoSectors [], #[]⟩ = (.ok (.ok c), Gate.wide.2) := by
    rw [← opened]
    rfl
  have played : Gate.ofWide (fun c => (acceptedIn (Gate.wideShared c).bus.journal.toList,
      (Gate.wideShared c).control.dispatcher.hasStopped,
      Gate.bytesTo 0 (Gate.wideShared c))) =
      some ([.job ⟨0, 0, 0, .write 1 [0x0F]⟩, .job ⟨1, 1, 0, .write 4096 [0, 0]⟩,
        .job ⟨2, 0, 0, .fastRead .nibbleSwap 0 3⟩, .job ⟨3, 1, 0, .erase 4100 1⟩,
        .job ⟨4, 1, 0, .fastRead .nibbleSwap 4096 1⟩, .stop], true, [[0xFF, 0xF0, 0xFF]]) := by
    decide +kernel
  have played' : Gate.ofWide (fun c => (acceptedIn (Gate.wideAlone c).bus.journal.toList,
      (Gate.wideAlone c).control.dispatcher.hasStopped)) =
      some ([.job ⟨0, 0, 0, .write 1 [0x0F]⟩, .job ⟨1, 0, 0, .fastRead .nibbleSwap 0 3⟩, .stop],
        true) := by
    decide +kernel
  simp only [Gate.ofWide, opened, Option.some.injEq, Prod.mk.injEq] at played played'
  obtain ⟨accepted, stopped, got⟩ := played
  obtain ⟨accepted', stopped'⟩ := played'
  have halted := Dispatcher.eq_stopped stopped
  have halted' := Dispatcher.eq_stopped stopped'
  obtain ⟨settled, served⟩ := Gate.settled_of_stopped start reach halted
  obtain ⟨settled', served'⟩ := Gate.settled_of_stopped start reach' halted'
  have confined : Confined (fun i s => s = i)
    (acceptedIn (Gate.wideShared c).bus.journal.toList) := by
    rw [accepted]
    intro j hj
    simp only [List.mem_cons, Message.job.injEq, List.not_mem_nil, or_false, reduceCtorEq] at hj
    rcases hj with rfl | rfl | rfl | rfl | rfl <;> exact ⟨by decide, by decide⟩
  have alone (j : Job) (hj : .job j ∈ acceptedIn (Gate.wideAlone c).bus.journal.toList) :
      j.client = 0 := by
    rw [accepted'] at hj
    simp only [List.mem_cons, Message.job.injEq, List.not_mem_nil, or_false, reduceCtorEq] at hj
    rcases hj with rfl | rfl <;> rfl
  have whole : operationsOf 0 (acceptedIn (Gate.wideShared c).bus.journal.toList) =
      [.write 1 [0x0F], .fastRead .nibbleSwap 0 3] := by
    rw [accepted]
    decide
  have whole' : operationsOf 0 (acceptedIn (Gate.wideAlone c).bus.journal.toList) =
      [.write 1 [0x0F], .fastRead .nibbleSwap 0 3] := by
    rw [accepted']
    decide
  obtain ⟨replies, bytes⟩ := (clients_apart twoSectors [] { fastRead := some ⟨.nibbleSwap, 0⟩ }
    (by decide) (by decide) (fun i s => s = i) (fun _ _ _ h h' => h.symm.trans h') 0 0 c c _ _ _ _
    start reach (by rw [halted]; rfl) confined start reach' (by rw [halted']; rfl) 0 alone _
    (whole ▸ List.prefix_rfl) (whole' ▸ List.prefix_rfl)).2 whole whole'
  refine ⟨c, opened, replies (served 0) (served' 0), fun x hx => bytes settled settled' x ?_ ?_,
    got⟩
  · exact Nat.lt_trans hx (by decide)
  · exact Nat.div_eq_of_lt hx

end FlashGate

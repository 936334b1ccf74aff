/-
The range of the changes that writes and erases make on a device. A write programs a prefix of its
data, page by page, and an erase erases the sectors that its range meets. Both test the start of a
page or sector only, so what they change ends with the page or sector that holds the last byte of
the device. Main statement: `changes_bounded`, for every geometry, transport and request, with the
requests that stay inside of the device.
-/
import FlashGate.PatternDevice
import FlashGate.Proofs.Device.Extent
import FlashGate.Proofs.Gateway.Reach
import FlashGate.Proofs.Transfer

namespace FlashGate

/-! ## Transactions in a journal -/

/-- The page that a call programs. -/
def Call.page? : Call → Option Page
  | .programPage _ address data => some ⟨address, data⟩
  | _ => none

/-- The address of the sector that a call erases. -/
def Call.sector? : Call → Option UInt32
  | .eraseSector _ address => some address
  | _ => none

section Noted

variable {γ : Type}

/-- What is told of the call in an entry of the journal. -/
def Entry.told? (f : Call → Option γ) (e : Entry) : Option γ :=
  match e.event with
  | .call c _ => f c
  | _ => none

/-- What is told of the calls in a journal, in order. -/
def toldIn (f : Call → Option γ) (journal : List Entry) : List γ :=
  journal.filterMap (Entry.told? f)

/-- Whether the entry is no call that ended in a fault. -/
def Entry.isAnswered (e : Entry) : Bool :=
  match e.event with
  | .call _ r => r.isOk
  | _ => true

/-- What is noted of a run: what is told of its calls, and whether all of them were answered. -/
structure Noted (γ : Type) where
  told : List γ
  answered : Bool

/-- What is noted of a journal. -/
def Noted.of (f : Call → Option γ) (journal : List Entry) : Noted γ :=
  ⟨toldIn f journal, journal.all Entry.isAnswered⟩

/-- One more call. -/
def Noted.add (f : Call → Option γ) (t : Noted γ) (c : Call) (r : Except Fault c.Reply) : Noted γ :=
  ⟨t.told ++ (f c).toList, t.answered && r.isOk⟩

/-- The world of an observer who notes the calls of a run. -/
def World.noted (f : Call → Option γ) : World (Noted γ) where
  permits _ _ := True
  reacts t c r t' := t' = t.add f c r

variable {f : Call → Option γ} {t t' : Noted γ}

/-- Breaches and log lines are not noted. -/
theorem Noted.of_append_quiet (who : Actor) (journal : List Entry) {events : List Event}
    (quiet : ∀ e ∈ events, ∀ c r, e ≠ .call c r) :
    Noted.of f (journal ++ events.map (⟨who, ·⟩)) = Noted.of f journal := by
  have none : toldIn f (events.map (⟨who, ·⟩)) = [] := by
    refine List.filterMap_eq_nil_iff.2 fun e he => ?_
    obtain ⟨x, hx, rfl⟩ := List.mem_map.1 he
    cases x with
    | call c r => exact absurd rfl (quiet _ hx c r)
    | _ => rfl
  have answered : (events.map (⟨who, ·⟩ : Event → Entry)).all Entry.isAnswered = true := by
    refine List.all_eq_true.2 fun e he => ?_
    obtain ⟨x, hx, rfl⟩ := List.mem_map.1 he
    cases x with
    | call c r => exact absurd rfl (quiet _ hx c r)
    | _ => rfl
  rw [toldIn] at none
  simp only [Noted.of, toldIn, List.filterMap_append, none, List.append_nil, List.all_append,
    answered, Bool.and_true]

theorem Noted.of_append_call {who : Actor} (journal : List Entry) (c : Call)
    (r : Except Fault c.Reply) :
    Noted.of f (journal ++ [⟨who, .call c r⟩]) = (Noted.of f journal).add f c r := by
  simp only [Noted.of, Noted.add, toldIn, List.filterMap_append, List.all_append, List.all_cons,
    List.all_nil, Bool.and_true]
  refine congrArg (Noted.mk · _) (congrArg _ ?_)
  show (match f c with
    | none => []
    | some x => [x]) = _
  cases f c <;> rfl

/-- The notes of a run are those of the entries that it adds. -/
theorem World.noted_shows {σ : Type} (T : Transport σ) (who : Actor) (before : List Entry) :
    (World.noted f).Shows T who fun b t =>
      ∃ added, b.journal.toList = before ++ added ∧ t = Noted.of f added where
  call := by
    rintro b _ c ⟨added, journal, rfl⟩ -
    refine ⟨_, rfl, added ++ (Event.call c (T.perform b.device c).reply ::
      (T.perform b.device c).breaches.map .breach).map (⟨who, ·⟩), ?_, ?_⟩
    · rw [b.toList_journal_call T who c, journal, List.append_assoc]
    · rw [List.map_cons, ← List.singleton_append, ← List.append_assoc, Noted.of_append_quiet,
        Noted.of_append_call]
      · rfl
      · intro e he c r
        obtain ⟨x, -, rfl⟩ := List.mem_map.1 he
        simp
  log := by
    rintro b _ l ⟨added, journal, rfl⟩
    refine ⟨added ++ [⟨who, .log l⟩], ?_, ?_⟩
    · rw [Bus.log, Bus.toList_journal_record, journal, List.append_assoc]
      rfl
    · have quiet : ∀ e ∈ [Event.log l], ∀ c r, e ≠ .call c r := by simp
      exact (Noted.of_append_quiet who added quiet).symm

/-! ## Single transactions -/

open Script

/-- How a call ends that is made between others, which are not told: it is told if it was answered,
and may be told if another of them was not. -/
def Tells (f : Call → Option γ) (t : Noted γ) (c : Call) {α : Type} :
    Except Fault α → Noted γ → Prop
  | .ok _, t' => t' = ⟨t.told ++ (f c).toList, t.answered⟩
  | .error _, t' => t'.answered = false ∧ (t'.told = t.told ∨ t'.told = t.told ++ (f c).toList)

theorem noted_polls (hf : ∀ c : Call, c.isPoll = true → f c = none) {E : Fault → Noted γ → Prop}
    (hE : ∀ e, E e ⟨t.told, false⟩) : (World.noted f).Polls E t := by
  intro c hc
  refine ⟨trivial, ?_⟩
  rintro (e | x) t' rfl
  · simpa [Noted.add, hf c hc, Except.isOk, Except.toBool] using hE e
  · simp [Noted.add, hf c hc, Except.isOk, Except.toBool]

theorem always_masked_told (hf : ∀ c : Call, c.isPoll = true → f c = none) (c : Call) :
    (masked c).Always (World.noted f) (Tells f t c) t := by
  refine always_masked (noted_polls hf fun e => ⟨rfl, .inl rfl⟩) trivial ?_
  rintro (e | x) _ rfl
  · exact ⟨by simp [Noted.add, Except.isOk, Except.toBool], .inr rfl⟩
  · refine ⟨noted_polls hf fun e => ⟨rfl, .inr rfl⟩, ?_⟩
    simp [Tells, Noted.add, Except.isOk, Except.toBool]

/-- A transaction that changes the device is told as its call is. -/
theorem always_change_told (hf : ∀ c : Call, c.isPoll = true → f c = none)
    (hs : ∀ command, f (.sendCommand command) = none) (commands : CommandSet) (c : Call) :
    (Transfer.change commands c).Always (World.noted f) (Tells f t c) t := by
  have command (t : Noted γ) (x : UInt8) := always_masked_told (t := t) hf (.sendCommand x)
  refine always_bind.2 (Always.mono ?_ (command t commands.writeEnable))
  rintro (e | ⟨⟩) t₁ h
  · exact ⟨h.1, .inl (by simpa [hs] using h.2)⟩
  · obtain rfl : t₁ = t := by simpa [Tells, hs] using h
    refine always_bind.2 (Always.mono ?_ (always_masked_told hf c))
    rintro (e | x) t₂ h
    · exact h
    · have h : t₂ = _ := h
      subst h
      refine ⟨noted_polls hf fun e => ⟨rfl, .inr rfl⟩, ?_⟩
      refine Always.mono ?_ (command _ commands.writeDisable)
      rintro (e | ⟨⟩) t₃ h
      · exact ⟨h.1, .inr (by simpa [hs] using h.2)⟩
      · simpa [Tells, hs] using h

/-- One transaction after the other: all are told, in order, or the first ones of them up to a call
that was not answered. -/
theorem always_each_told {β : Type} (transact : β → Script Unit) (c : β → Call)
    (h : ∀ x t, (transact x).Always (World.noted f) (Tells f t (c x)) t) (l : List β) :
    (each transact l).Always (World.noted f)
      (fun r t => match r with
        | .ok () => t = ⟨l.flatMap fun x => (f (c x)).toList, true⟩
        | .error _ => t.answered = false ∧ t.told <+: l.flatMap fun x => (f (c x)).toList)
      ⟨[], true⟩ := by
  have all := always_each (W := World.noted f) (f := transact)
    (I := fun rest t => t.answered = true ∧
      t.told ++ (rest.flatMap fun x => (f (c x)).toList) = l.flatMap fun x => (f (c x)).toList)
    (E := fun _ t => t.answered = false ∧ t.told <+: l.flatMap fun x => (f (c x)).toList)
    ?_ (l := l) (w := ⟨[], true⟩) ⟨rfl, rfl⟩
  · refine Always.mono ?_ all
    rintro (e | ⟨⟩) t' h
    · exact h
    · obtain ⟨answered, told⟩ := h
      rw [List.flatMap_nil, List.append_nil] at told
      exact congrArg₂ Noted.mk told answered
  · rintro x rest t ⟨answered, told⟩
    rw [List.flatMap_cons, ← List.append_assoc] at told
    refine Always.mono ?_ (h x t)
    rintro (e | ⟨⟩) t' h
    · obtain ⟨failed, same | more⟩ := h
      · exact ⟨failed, by rw [same, ← told, List.append_assoc]; exact List.prefix_append ..⟩
      · exact ⟨failed, by rw [more, ← told]; exact List.prefix_append ..⟩
    · have h : t' = _ := h
      rw [h]
      exact ⟨answered, told⟩

end Noted

/-! ## Writes -/

namespace Transfer

open Script

variable (g : Geometry) (commands : CommandSet) (address : UInt32)

theorem always_write_told (data : List UInt8) :
    (write g commands address data).Always (World.noted Call.page?)
      (fun r t => t.told <+: (g.writePlan address data).pages ∧
        (t.answered = true → t.told = (g.writePlan address data).pages ∧
          r = if g.RunsOut address data.length then .error .overflow
            else .ok (g.sent address data.length))) ⟨[], true⟩ := by
  have pages := always_each_told (f := Call.page?) (programPage commands)
    (fun p => .programPage commands.programPage p.address p.data)
    (fun p t => always_bind.2 (always_log.2 (always_change_told
      (fun c hc => by cases c <;> first | rfl | cases hc) (fun _ => rfl) commands _)))
    (g.writePlan address data).pages
  have same : (g.writePlan address data).pages.flatMap (fun p =>
      (Call.page? (.programPage commands.programPage p.address p.data)).toList) =
      (g.writePlan address data).pages := List.flatMap_singleton' _
  rw [same] at pages
  have all := g.sent_le address data.length
  refine always_bind.2 (always_log.2 (always_bind.2 (pages.mono ?_)))
  rintro (e | ⟨⟩) t h
  · exact ⟨h.2, fun answered => by rw [h.1] at answered; cases answered⟩
  · obtain rfl : t = _ := h
    have ending := g.ending_of_writePlan address data
    show Always _ _ _ _
    dsimp only
    by_cases ranOut : g.RunsOut address data.length
    · rw [ending, if_pos ranOut, if_pos ranOut]
      exact ⟨List.prefix_rfl, fun _ => ⟨rfl, rfl⟩⟩
    · rw [ending, if_neg ranOut, if_neg ranOut]
      by_cases complete : g.sent address data.length = data.length
      · rw [if_pos complete, complete]
        exact ⟨List.prefix_rfl, fun _ => ⟨rfl, rfl⟩⟩
      · rw [if_neg complete]
        refine ⟨List.prefix_rfl, fun _ => ⟨rfl, ?_⟩⟩
        rw [Nat.sub_sub_self all]

theorem sector?_of_poll (c : Call) (hc : c.isPoll = true) : c.sector? = none := by
  cases c <;> first | rfl | cases hc

/-- Sector by sector, an erase erases those that its range meets. -/
theorem always_sectors_told (length : Nat) :
    let plan := g.sectorsFrom (Geometry.alignErase address length).1
      (Geometry.alignErase address length).2
    ((each (eraseSector commands) plan : Script Unit) >>= fun _ =>
      pure (Erased.sectors (Geometry.sectorFloor address) plan.length)).Always
      (World.noted Call.sector?) (fun r t => t.told.map (·.toNat) <+:
          (List.range (g.sectorsMet address length)).map
            (address.toNat / 4096 * 4096 + 4096 * ·) ∧
        (t.answered = true → t.told.length = g.sectorsMet address length ∧
          r = .ok (.sectors (Geometry.sectorFloor address) (g.sectorsMet address length))))
      ⟨[], true⟩ := by
  intro plan
  have sectors := always_each_told (f := Call.sector?) (eraseSector commands)
    (fun s => .eraseSector commands.sectorErase s.address)
    (fun s t => always_bind.2 (always_log.2
      (always_change_told sector?_of_poll (fun _ => rfl) commands _))) plan
  have same : plan.flatMap (fun s =>
      (Call.sector? (.eraseSector commands.sectorErase s.address)).toList) =
      plan.map (·.address) := List.map_eq_flatMap.symm
  rw [same] at sectors
  have erased := g.sectors_of_erase address length
  have count : plan.length = g.sectorsMet address length := by
    simpa using congrArg List.length erased
  have addresses : (plan.map (·.address)).map (·.toNat) = _ := (List.map_map ..).trans erased
  refine always_bind.2 (sectors.mono ?_)
  rintro (e | ⟨⟩) t h
  · obtain ⟨failed, told⟩ := h
    refine ⟨?_, fun answered => by rw [failed] at answered; cases answered⟩
    rw [← addresses]
    exact told.map _
  · have h : t = _ := h
    subst h
    exact ⟨addresses ▸ List.prefix_rfl, fun _ => ⟨by rw [List.length_map, count], by rw [count]⟩⟩

theorem always_erase_told (length : Nat) :
    (erase g commands address length).Always (World.noted Call.sector?)
      (fun r t => t.told.map (·.toNat) <+: (List.range (g.sectorErases address length)).map
          (address.toNat / 4096 * 4096 + 4096 * ·) ∧
        (t.answered = true → t.told.length = g.sectorErases address length ∧
          r = .ok (if g.isWholeChip address length then .chip
            else .sectors (Geometry.sectorFloor address) (g.sectorErases address length))))
      ⟨[], true⟩ := by
  refine always_bind.2 (always_log.2 ?_)
  show Always _ _ (if g.isWholeChip address length = true then _ else _) _
  unfold Geometry.sectorErases
  split
  next whole =>
    refine always_bind.2 (always_log.2 (always_bind.2
      (Always.mono ?_ (always_change_told sector?_of_poll (fun _ => rfl) commands _))))
    rintro (e | ⟨⟩) t h
    · obtain ⟨failed, told⟩ := h
      refine ⟨?_, fun answered => by rw [failed] at answered; cases answered⟩
      have none : t.told = [] := by simpa [Call.sector?] using told
      rw [none]
      exact List.nil_prefix
    · have h : t = _ := h
      subst h
      exact ⟨List.nil_prefix, fun _ => ⟨rfl, rfl⟩⟩
  next part =>
    -- the address that is logged changes nothing
    have sectors := always_sectors_told g commands address length
    dsimp only
    split
    · exact always_bind.2 (always_log.2 sectors)
    · exact sectors

end Transfer

/-! ## The range of the changes -/

variable (g : Geometry)

/-- The pages that a write programs, and how it ends, told by the entries that it adds to the
journal. -/
structure Wrote (address : UInt32) (data : List UInt8) (added : List Entry)
    (r : Except Fault Nat) : Prop where
  /-- Each page starts where the bytes before it end. -/
  order : Geometry.Consecutive address.toNat (toldIn Call.page? added)
  /-- The bytes are the first ones of the data. -/
  bytes : (toldIn Call.page? added).flatMap Page.data <+: data.take (g.sent address data.length)
  /-- A page starts inside of the device, and ends with the page that holds its last byte. -/
  range : ∀ p ∈ toldIn Call.page? added, p.address.toNat < g.totalSize.toNat ∧
    p.address.toNat % g.pageSize.toNat + p.data.length ≤ g.pageSize.toNat ∧
    p.address.toNat + p.data.length ≤ g.pagesEnd
  /-- All that can be sent is sent, unless the device fails. -/
  ended : added.all Entry.isAnswered = true →
    (toldIn Call.page? added).flatMap Page.data = data.take (g.sent address data.length) ∧
      r = if g.RunsOut address data.length then .error .overflow
        else .ok (g.sent address data.length)
  /-- The writes that stay inside of the device, and send just what the device holds. -/
  bounded : added.all Entry.isAnswered = true →
    (((∀ p ∈ toldIn Call.page? added, p.address.toNat + p.data.length ≤ g.totalSize.toNat) ∧
        r = .ok (min data.length (g.totalSize.toNat - address.toNat)) ∧
        (toldIn Call.page? added).flatMap Page.data =
          data.take (min data.length (g.totalSize.toNat - address.toNat))) ↔
      g.totalSize.toNat % g.pageSize.toNat = 0 ∨ g.totalSize.toNat ≤ address.toNat ∨
        address.toNat + data.length ≤ g.totalSize.toNat)

/-- The sectors that an erase erases, and how it ends, told by the entries that it adds to the
journal. -/
structure ErasedIn (address : UInt32) (length : Nat) (added : List Entry)
    (r : Except Fault Erased) : Prop where
  /-- The sectors follow each other, from the one that holds the address on. -/
  order : (toldIn Call.sector? added).map (·.toNat) <+:
    (List.range (g.sectorErases address length)).map (address.toNat / 4096 * 4096 + 4096 * ·)
  /-- A sector starts inside of the device. -/
  range : ∀ a ∈ toldIn Call.sector? added, a.toNat % 4096 = 0 ∧ a.toNat < g.totalSize.toNat
  /-- All sectors that the range meets are erased, unless the device fails. -/
  ended : added.all Entry.isAnswered = true →
    (toldIn Call.sector? added).length = g.sectorErases address length ∧
      r = .ok (if g.isWholeChip address length then .chip
        else .sectors (Geometry.sectorFloor address) (g.sectorErases address length))
  /-- The erases that stay inside of the device. -/
  bounded : added.all Entry.isAnswered = true →
    ((∀ a ∈ toldIn Call.sector? added, a.toNat + 4096 ≤ g.totalSize.toNat) ↔
      g.isWholeChip address length = true ∨ g.totalSize.toNat % 4096 = 0 ∨
        g.totalSize.toNat / 4096 < address.toNat / 4096 ∨
        address.toNat + length ≤ g.totalSize.toNat / 4096 * 4096)

section Run

variable {g} {σ : Type} (T : Transport σ) (commands : CommandSet) (who : Actor) (b : Bus σ)
  (address : UInt32)

theorem wrote_of_run (data : List UInt8) : ∃ added,
    ((Transfer.write g commands address data).run T who b).2.journal.toList =
      b.journal.toList ++ added ∧
    Wrote g address data added ((Transfer.write g commands address data).run T who b).1 := by
  obtain ⟨_, ⟨added, journal, rfl⟩, told, all⟩ :=
    (Transfer.always_write_told g commands address data).run
      (World.noted_shows T who b.journal.toList) ⟨[], (List.append_nil _).symm, rfl⟩
  have consecutive := g.consecutive_writePlan address data
  have bytes := g.bytes_of_writePlan address data
  refine ⟨added, journal, ?_⟩
  change toldIn Call.page? added <+: _ at told
  change added.all Entry.isAnswered = true → toldIn Call.page? added = _ ∧ _ at all
  refine {
    order := consecutive.of_prefix told
    bytes := by
      obtain ⟨more, hm⟩ := told
      rw [← bytes, ← hm, List.flatMap_append]
      exact List.prefix_append ..
    range := fun p hp => ?_
    ended := fun answered => by
      obtain ⟨same, ended⟩ := all answered
      rw [same]
      exact ⟨bytes, ended⟩
    bounded := fun answered => ?_ }
  · have hp := told.subset hp
    obtain ⟨-, inside, fits⟩ := g.page_of_writePlan hp
    exact ⟨inside, fits, g.page_le_pagesEnd hp⟩
  · obtain ⟨same, ended⟩ := all answered
    rw [same, bytes, ← g.pages_inside_iff, ended]
    refine ⟨fun h => h.1, fun h => ⟨h, ?_⟩⟩
    obtain ⟨exact, fits⟩ := g.sent_of_inside ((g.pages_inside_iff address data).1 h)
    rw [if_neg fits, exact]
    exact ⟨rfl, rfl⟩

theorem erased_of_run (length : Nat) : ∃ added,
    ((Transfer.erase g commands address length).run T who b).2.journal.toList =
      b.journal.toList ++ added ∧
    ErasedIn g address length added ((Transfer.erase g commands address length).run T who b).1 := by
  obtain ⟨_, ⟨added, journal, rfl⟩, told, all⟩ :=
    (Transfer.always_erase_told g commands address length).run
      (World.noted_shows T who b.journal.toList) ⟨[], (List.append_nil _).symm, rfl⟩
  refine ⟨added, journal, told, fun a ha => ?_, all, fun answered => ?_⟩
  · obtain ⟨i, hi, hai⟩ := List.mem_map.1 (told.subset (List.mem_map_of_mem ha))
    rw [List.mem_range] at hi
    unfold Geometry.sectorErases Geometry.sectorsMet at hi
    split at hi <;> omega
  · have same := told.eq_of_length (by
      rw [List.length_map, List.length_map, List.length_range]
      exact (all answered).1)
    have each : (∀ a ∈ toldIn Call.sector? added, a.toNat + 4096 ≤ g.totalSize.toNat) ↔
        ∀ i < g.sectorErases address length,
          address.toNat / 4096 * 4096 + 4096 * i + 4096 ≤ g.totalSize.toNat :=
      calc (∀ a ∈ toldIn Call.sector? added, a.toNat + 4096 ≤ g.totalSize.toNat)
        _ ↔ ∀ n ∈ (toldIn Call.sector? added).map (·.toNat), n + 4096 ≤ g.totalSize.toNat :=
          (List.forall_mem_map (f := fun a : UInt32 => a.toNat)
            (P := fun n => n + 4096 ≤ g.totalSize.toNat)).symm
        _ ↔ _ := by
          change (toldIn Call.sector? added).map (·.toNat) = _ at same
          rw [same, List.forall_mem_map]
          simp only [List.mem_range]
    rw [each, Geometry.sectorErases]
    split
    next whole => simp [whole]
    next part =>
      rw [g.sectors_inside_iff]
      simp [part]

end Run

/-- The range of all changes, for every geometry, transport and request: a write programs a prefix
of its data and an erase erases the sectors that its range meets, both up to the page or sector that
holds the last byte of the device; they stay inside of the device, and a write counts just the bytes
that the device holds, where the size is a whole number of pages and sectors or the request ends
early enough. No erase runs out of addresses, and a write does where it sends the last byte that a
word addresses. -/
theorem changes_bounded {σ : Type} (T : Transport σ) (commands : CommandSet) (who : Actor)
    (b : Bus σ) (address : UInt32) :
    (∀ data, ∃ added, ((Transfer.write g commands address data).run T who b).2.journal.toList =
        b.journal.toList ++ added ∧
      Wrote g address data added ((Transfer.write g commands address data).run T who b).1) ∧
    ∀ length, ∃ added, ((Transfer.erase g commands address length).run T who b).2.journal.toList =
        b.journal.toList ++ added ∧
      ErasedIn g address length added
        ((Transfer.erase g commands address length).run T who b).1 :=
  ⟨wrote_of_run T commands who b address, erased_of_run T commands who b address⟩

/-- A device of 100 bytes with pages of 256 bytes gets a program of 120 bytes, all of which the
write counts, and an erase of a sector of 4096 bytes; and a device that ends one byte before the end
of the address space gets the byte after its last one, which leaves no address to go on with. -/
theorem changes_leave_device :
    let small : Geometry := ⟨100, 256, by decide, by decide⟩
    let large : Geometry := ⟨0xFFFFFFFF, 256, by decide, by decide⟩
    let write (g : Geometry) (address : UInt32) (length : Nat) :=
      (Transfer.write g .standard address (List.replicate length 0)).run PatternDevice.transport
        .dispatcher ⟨{}, #[]⟩
    let erase := (Transfer.erase small .standard 0 50).run PatternDevice.transport .dispatcher
      ⟨{}, #[]⟩
    let pages (b : Bus PatternDevice) :=
      (toldIn Call.page? b.journal.toList).map fun p => (p.address.toNat, p.data.length)
    (pages (write small 0 120).2 = [(0, 120)] ∧ ((write small 0 120).1 matches .ok 120) = true) ∧
    (toldIn Call.sector? erase.2.journal.toList = [0]) ∧
    (pages (write large 0xFFFFFFFE 2).2 = [(0xFFFFFFFE, 2)] ∧
      ((write large 0xFFFFFFFE 2).1 matches .error .overflow) = true) := by
  refine ⟨⟨?_, ?_⟩, ?_, ?_, ?_⟩ <;> decide +kernel

end FlashGate

/-
What a write sends to the device. Main statements: `cuts_writePlan`, how a write cuts its data into
the pages of the device, and `writes_exactly`, the transactions of a write and its result, for every
geometry and transport, where the write does not run out of addresses.
-/
import FlashGate.PatternDevice
import FlashGate.Proofs.Transcript

namespace FlashGate

/-! ## The pages of a write -/

namespace Geometry

variable (g : Geometry)

/-- How a write cuts its data: into consecutive parts, each of which lies in one page of the device
and, but for the first one, starts there. -/
structure Cuts (address : UInt32) (data : List UInt8) (pages : List Page) : Prop where
  order : Consecutive address.toNat pages
  some : ∀ p ∈ pages, p.data ≠ []
  within : ∀ p ∈ pages, p.address.toNat % g.pageSize.toNat + p.data.length ≤ g.pageSize.toNat
  aligned : ∀ p ∈ pages.tail, p.address.toNat % g.pageSize.toNat = 0
  /-- The parts make up what is sent. -/
  bytes : pages.flatMap Page.data = data.take (g.sent address data.length)

variable {g}

/-- Pages that go on from the start of a page are aligned if those after the first one are. -/
theorem aligned_of_tail {start : Nat} {pages : List Page} (order : Consecutive start pages)
    (first : pages ≠ [] → start % g.pageSize.toNat = 0)
    (more : ∀ p ∈ pages.tail, p.address.toNat % g.pageSize.toNat = 0) :
    ∀ p ∈ pages, p.address.toNat % g.pageSize.toNat = 0 := by
  cases pages with
  | nil => simp
  | cons q pages =>
    have place : q.address.toNat = start := order [] q pages rfl
    rintro p (_ | ⟨_, hp⟩)
    · rw [place]
      exact first (List.cons_ne_nil q pages)
    · exact more p hp

/-- All pages of a write but the first one start a page of the device. -/
theorem aligned_writePlan (address : UInt32) (data : List UInt8) :
    ∀ p ∈ (g.writePlan address data).pages.tail, p.address.toNat % g.pageSize.toNat = 0 := by
  induction address, data using writePlan.induct g with
  | case1 address => simp [writePlan]
  | case2 address data hd ha => simp [writePlan, hd, ha]
  | case3 address data hd ha room page length hl ih =>
    rw [g.writePlan_page hd ha, if_pos hl]
    refine aligned_of_tail (g.consecutive_writePlan _ _) (fun more => ?_) ih
    -- where data is left, the page was filled to its end
    have left : room < data.length := by
      refine Nat.lt_of_not_le fun all => more ?_
      rw [List.drop_of_length_le all]
      simp [writePlan]
    obtain ⟨-, inside, -⟩ := g.first_page hd ha
    have full : length = room := List.length_take_of_le (Nat.le_of_lt left)
    have ends : room = g.pageSize.toNat - address.toNat % g.pageSize.toNat :=
      g.pageRemaining_eq address
    rw [next_address hl, full, ends]
    exact (pagesEnd_of_lt g.pageSize_pos inside).1
  | case4 address data hd ha room page length hl =>
    rw [g.writePlan_page hd ha, if_neg hl]
    simp

theorem cuts_writePlan (address : UInt32) (data : List UInt8) :
    g.Cuts address data (g.writePlan address data).pages where
  order := g.consecutive_writePlan address data
  some _ hp := (g.page_of_writePlan hp).1
  within _ hp := (g.page_of_writePlan hp).2.2
  aligned := aligned_writePlan address data
  bytes := g.bytes_of_writePlan address data

/-- A write runs out of addresses where the address after its last byte is no word. -/
theorem runsOut_iff (address : UInt32) (length : Nat) : g.RunsOut address length ↔
    0x100000000 ≤ address.toNat + g.sent address length := by
  have := address.toNat_lt
  have := g.pagesEnd_le
  have := g.totalSize_le_pagesEnd
  unfold RunsOut sent
  split <;> omega

end Geometry

/-! ## The transactions -/

/-- What a write says to the device, and how it ends: one transaction for each part of the data, and
the number of bytes that are sent. -/
inductive Programming (g : Geometry) (commands : CommandSet) (address : UInt32)
    (data : List UInt8) : List Exchange → Except Fault Nat → Prop
  | intro {pages : List Page} {blocks : List (List Exchange)} (cuts : g.Cuts address data pages)
    (sent : List.Forall₂ (fun p => Exchange.Changes commands
      (.programPage commands.programPage p.address p.data)) pages blocks) :
    Programming g commands address data blocks.flatten (.ok (g.sent address data.length))

namespace Transfer

open Script

variable {g : Geometry} {commands : CommandSet} {address : UInt32} {data : List UInt8}
  {t : List Exchange} {r : Except Fault Nat}

theorem changes_of_plays_programPage (p : Page) (t : List Exchange) (r : Except Fault Unit)
    (h : (programPage commands p).Plays t r) : Exchange.Changes commands
      (.programPage commands.programPage p.address p.data) t ∧ r = .ok () :=
  changes_of_plays t r h

/-- A script that writes is played as a programming. -/
theorem programming_of_plays (range : ¬ g.RunsOut address data.length)
    (h : (write g commands address data).Plays t r) : Programming g commands address data t r := by
  have loop : (each (programPage commands) (g.writePlan address data).pages >>= _ :
      Script Nat).Plays t r := h
  obtain ⟨_, t₂, rfl, ⟨blocks, rfl, sent⟩, rest⟩ :=
    plays_after (plays_each (fun p => changes_of_plays_programPage p) _) loop
  have last : t₂ = [] ∧ r = .ok (g.sent address data.length) := by
    have fits := g.sent_le address data.length
    have ending := g.ending_of_writePlan address data
    rw [if_neg range] at ending
    by_cases complete : g.sent address data.length = data.length
    · rw [ending, if_pos complete] at rest
      rw [complete]
      exact rest
    · rw [ending, if_neg complete] at rest
      obtain ⟨rfl, rfl⟩ := rest
      exact ⟨rfl, by rw [Nat.sub_sub_self fits]⟩
  obtain ⟨rfl, rfl⟩ := last
  rw [List.append_nil]
  exact .intro (g.cuts_writePlan address data) sent

end Transfer

/-- A write comes to its end unless it runs out of addresses, and does just this: one transaction
for each part of the data that lies in one page, in order, with nothing in between, up to the end of
the last page of the device; and it returns how many bytes these are. -/
theorem writes_exactly {σ : Type} (T : Transport σ) (g : Geometry) (commands : CommandSet)
    (who : Actor) (b : Bus σ) (address : UInt32) (data : List UInt8)
    (range : address.toNat + g.sent address data.length < 0x100000000) :
    let script := Transfer.write g commands address data
    script.Halts T who b ∧
    ∃ added, (script.run T who b).2.journal.toList = b.journal.toList ++ added ∧
      (added.all Entry.isAnswered = true →
        Programming g commands address data (exchangesIn added) (script.run T who b).1) := by
  intro script
  obtain ⟨added, journal, plays⟩ := script.plays_run T who b
  have fits : ¬ g.RunsOut address data.length := fun out => by
    have := (g.runsOut_iff address data.length).1 out
    omega
  exact ⟨script.halts T who b, added, journal, fun answered =>
    Transfer.programming_of_plays fits (plays answered)⟩

/-- A write of 300 bytes that starts 16 bytes before a page of 256 bytes. -/
theorem writes_exactly_three :
    let g : Geometry := ⟨0x100000, 256, by decide, by decide⟩
    let data := List.replicate 300 0
    let script := Transfer.write g .standard 0xF0 data
    let run := script.run PatternDevice.transport .dispatcher ⟨{}, #[]⟩
    (0xF0 : UInt32).toNat + g.sent 0xF0 data.length < 0x100000000 ∧
    run.2.journal.toList.all Entry.isAnswered = true ∧
    (toldIn Call.page? run.2.journal.toList).map (fun p => (p.address.toNat, p.data.length)) =
      [(0xF0, 16), (0x100, 256), (0x200, 28)] ∧
    Programming g .standard 0xF0 data (exchangesIn run.2.journal.toList) run.1 := by
  intro g data script run
  have range : (0xF0 : UInt32).toNat + g.sent 0xF0 data.length < 0x100000000 := by decide +kernel
  obtain ⟨-, added, journal, exact⟩ := writes_exactly PatternDevice.transport g .standard
    .dispatcher ⟨{}, #[]⟩ 0xF0 data range
  obtain rfl : run.2.journal.toList = added := journal
  have answered : run.2.journal.toList.all Entry.isAnswered = true := by decide +kernel
  exact ⟨range, answered, by decide +kernel, exact answered⟩

end FlashGate

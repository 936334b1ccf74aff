/-
How far the pages of a write and the sectors of an erase reach. A loop that tests no more than the
start of a page against the end of the device goes on to the end of the page that holds the last
byte. Main statements: `bytes_of_writePlan` and `ending_of_writePlan`, that a write sends its bytes
up to that end and where it runs out of addresses; `byte_foldl_pages`, which of them its pages
program; `pages_inside_iff` and `sectors_inside_iff`, the requests that stay inside of the device.
-/
import FlashGate.Proofs.Device.Plan
import Mathlib.Tactic.ByContra

namespace FlashGate.Geometry

variable (g : Geometry)

/-! ## Writes -/

/-- The end of the page that holds the last byte of the device. -/
def pagesEnd : Nat :=
  (g.totalSize.toNat + g.pageSize.toNat - 1) / g.pageSize.toNat * g.pageSize.toNat

/-- How many bytes of a write of `length` bytes are sent. -/
def sent (address : UInt32) (length : Nat) : Nat :=
  if address.toNat < g.totalSize.toNat then min length (g.pagesEnd - address.toNat) else 0

theorem sent_le (address : UInt32) (length : Nat) : g.sent address length ≤ length := by
  unfold sent
  split <;> omega

/-- Whether a write runs out of addresses: it sends the last byte that a 32-bit word addresses. -/
def RunsOut (address : UInt32) (length : Nat) : Prop :=
  address.toNat < g.totalSize.toNat ∧ g.pagesEnd = 0x100000000 ∧
    0x100000000 ≤ address.toNat + length

instance (address : UInt32) (length : Nat) : Decidable (g.RunsOut address length) :=
  inferInstanceAs (Decidable (_ ∧ _ ∧ _))

/-- The end of a page that starts inside of the device is that of the last page, or lies inside of
the device itself. -/
theorem pagesEnd_of_lt {size page address : Nat} (hp : 0 < page) (ha : address < size) :
    let stop := (size + page - 1) / page * page
    let next := address + (page - address % page)
    next % page = 0 ∧ next ≤ stop ∧ (size ≤ next → stop = next) := by
  intro stop next
  have ends : next = (address / page + 1) * page := by
    have := Nat.div_add_mod' address page
    have := Nat.mod_lt address hp
    rw [Nat.succ_mul]
    omega
  have before : address / page + 1 ≤ (size + page - 1) / page := by
    rw [← Nat.add_div_right _ hp]
    exact Nat.div_le_div_right (by omega)
  refine ⟨by rw [ends]; exact Nat.mul_mod_left .., ?_, fun past => ?_⟩
  · rw [ends]
    exact Nat.mul_le_mul_right page before
  · have after : (size + page - 1) / page < address / page + 1 + 1 := by
      refine Nat.div_lt_of_lt_mul ?_
      rw [Nat.mul_comm, Nat.succ_mul (address / page + 1), ← ends]
      omega
    rw [ends]
    exact congrArg (· * page) (by omega)

theorem totalSize_le_pagesEnd : g.totalSize.toNat ≤ g.pagesEnd := by
  have hp := g.pageSize_pos
  have := Nat.div_add_mod' (g.totalSize.toNat + g.pageSize.toNat - 1) g.pageSize.toNat
  have := Nat.mod_lt (g.totalSize.toNat + g.pageSize.toNat - 1) hp
  unfold pagesEnd
  omega

theorem pagesEnd_le : g.pagesEnd ≤ 0x100000000 := by
  obtain ⟨k, hk⟩ := g.pageSize_eq
  have small := g.pageSize.toNat_lt
  rw [hk] at small
  have hk' : k ≤ 32 := Nat.le_of_lt ((Nat.pow_lt_pow_iff_right (by omega)).1 small)
  have whole : 0x100000000 = 2 ^ (32 - k) * g.pageSize.toNat := by
    rw [hk, ← Nat.pow_add, Nat.sub_add_cancel hk']
  have := g.totalSize.toNat_lt
  have hp := g.pageSize_pos
  rw [pagesEnd, whole]
  refine Nat.mul_le_mul_right _ (Nat.le_of_lt_succ (Nat.div_lt_of_lt_mul ?_))
  rw [Nat.mul_comm, Nat.succ_mul, ← whole]
  omega

/-- The device ends with a page just where its size is a whole number of pages. -/
theorem pagesEnd_eq_iff : g.pagesEnd = g.totalSize.toNat ↔
    g.totalSize.toNat % g.pageSize.toNat = 0 := by
  have hp := g.pageSize_pos
  constructor
  · intro h
    rw [← h]
    exact Nat.mul_mod_left ..
  · intro whole
    obtain ⟨n, hn⟩ := Nat.dvd_of_mod_eq_zero whole
    have : g.totalSize.toNat + g.pageSize.toNat - 1 =
        g.pageSize.toNat - 1 + g.pageSize.toNat * n := by omega
    rw [pagesEnd, this, Nat.add_mul_div_left _ _ hp, Nat.div_eq_of_lt (by omega), Nat.zero_add,
      Nat.mul_comm, ← hn]

section Plan

variable {address : UInt32} {data : List UInt8}

theorem length_first_page : (data.take (g.pageRemaining address).toNat).length =
    min (g.pageSize.toNat - address.toNat % g.pageSize.toNat) data.length := by
  rw [List.length_take, g.pageRemaining_eq]

theorem next_address {length : Nat} (h : address.toNat + length < 0x100000000) :
    (address + UInt32.ofNat length).toNat = address.toNat + length := by
  have small : (UInt32.ofNat length).toNat = length := UInt32.toNat_ofNat_of_lt' (by
    show _ < 2 ^ 32
    omega)
  rw [UInt32.toNat_add, small, Nat.mod_eq_of_lt h]

theorem writePlan_page (hd : data ≠ []) (ha : ¬ g.totalSize ≤ address) :
    g.writePlan address data =
      if address.toNat + (data.take (g.pageRemaining address).toNat).length < 0x100000000 then
        { g.writePlan (address + UInt32.ofNat (data.take (g.pageRemaining address).toNat).length)
            (data.drop (g.pageRemaining address).toNat) with
          pages := ⟨address, data.take (g.pageRemaining address).toNat⟩ ::
            (g.writePlan (address +
              UInt32.ofNat (data.take (g.pageRemaining address).toNat).length)
              (data.drop (g.pageRemaining address).toNat)).pages }
      else ⟨[⟨address, data.take (g.pageRemaining address).toNat⟩], .overflow⟩ := by
  rw [writePlan, if_neg hd, if_neg ha]

/-- Each page of a write starts where the bytes of the pages before it end. -/
def Consecutive (start : Nat) (pages : List Page) : Prop :=
  ∀ before p after, pages = before ++ p :: after →
    p.address.toNat = start + (before.flatMap Page.data).length

theorem Consecutive.cons {p : Page} {pages : List Page}
    (h : Consecutive (p.address.toNat + p.data.length) pages) :
    Consecutive p.address.toNat (p :: pages) := by
  intro before q after split
  cases before with
  | nil => rw [← (List.cons.inj split).1]; rfl
  | cons x before =>
    obtain ⟨rfl, rest⟩ := List.cons.inj split
    rw [h before q after rest, List.flatMap_cons, List.length_append, Nat.add_assoc]

theorem Consecutive.of_prefix {start : Nat} {pages more : List Page} (h : Consecutive start more)
    (begins : pages <+: more) : Consecutive start pages := by
  obtain ⟨rest, rfl⟩ := begins
  rintro before p after rfl
  exact h before p (after ++ rest) (by simp)

theorem consecutive_nil (start : Nat) : Consecutive start [] := by
  intro before p after split
  simp at split

theorem consecutive_writePlan (address : UInt32) (data : List UInt8) :
    Consecutive address.toNat (g.writePlan address data).pages := by
  induction address, data using writePlan.induct g with
  | case1 address => rw [writePlan, if_pos rfl]; exact consecutive_nil _
  | case2 address data hd ha => rw [writePlan, if_neg hd, if_pos ha]; exact consecutive_nil _
  | case3 address data hd ha room page length hl ih =>
    rw [g.writePlan_page hd ha, if_pos hl]
    refine Consecutive.cons (p := page) ?_
    rw [← next_address hl]
    exact ih
  | case4 address data hd ha room page length hl =>
    rw [g.writePlan_page hd ha, if_neg hl]
    exact Consecutive.cons (p := page) (consecutive_nil _)

/-- What is sent with the first page, and what after it. -/
theorem sent_page (hd : data ≠ []) (ha : ¬ g.totalSize ≤ address) :
    let length := (data.take (g.pageRemaining address).toNat).length
    let rest := (data.drop (g.pageRemaining address).toNat).length
    length + rest = data.length ∧
    (address.toNat + length < 0x100000000 →
      g.sent address data.length = length + g.sent (address + UInt32.ofNat length) rest ∧
      (g.RunsOut address data.length ↔ g.RunsOut (address + UInt32.ofNat length) rest)) ∧
    (¬ address.toNat + length < 0x100000000 →
      g.sent address data.length = length ∧ g.pagesEnd = 0x100000000) := by
  intro length rest
  obtain ⟨-, inside, -⟩ := g.first_page hd ha
  obtain ⟨-, fits, last⟩ := pagesEnd_of_lt g.pageSize_pos inside
  have taken : length = min (g.pageSize.toNat - address.toNat % g.pageSize.toNat) data.length :=
    g.length_first_page
  have dropped : rest = data.length - (g.pageRemaining address).toNat := List.length_drop
  have room := g.pageRemaining_eq address
  have range := g.pagesEnd_le
  change _ ≤ g.pagesEnd at fits
  change _ → g.pagesEnd = _ at last
  refine ⟨by omega, fun hl => ⟨?_, ?_⟩, fun hl => ?_⟩
  · rw [sent, if_pos inside, sent, next_address hl, dropped]
    split <;> omega
  · rw [RunsOut, RunsOut, next_address hl]
    omega
  · rw [sent, if_pos inside]
    omega

theorem take_append_take_drop {α : Type} (l : List α) (m n : Nat) :
    l.take m ++ (l.drop m).take n = l.take ((l.take m).length + n) := by
  rcases Nat.le_total m l.length with h | h
  · rw [List.length_take, Nat.min_eq_left h, List.take_add]
  · rw [List.drop_of_length_le h, List.take_of_length_le h, List.take_nil, List.append_nil,
      List.take_of_length_le (Nat.le_add_right ..)]

/-- A write sends its bytes up to the end of the last page. -/
theorem bytes_of_writePlan (address : UInt32) (data : List UInt8) :
    (g.writePlan address data).pages.flatMap Page.data =
      data.take (g.sent address data.length) := by
  induction address, data using writePlan.induct g with
  | case1 address => simp [writePlan]
  | case2 address data hd ha =>
    rw [UInt32.le_iff_toNat_le] at ha
    rw [writePlan, if_neg hd, if_pos (UInt32.le_iff_toNat_le.2 ha), sent, if_neg (by omega)]
    simp
  | case3 address data hd ha room page length hl ih =>
    obtain ⟨-, more, -⟩ := g.sent_page hd ha
    rw [g.writePlan_page hd ha, if_pos hl, List.flatMap_cons, ih, (more hl).1]
    exact take_append_take_drop ..
  | case4 address data hd ha room page length hl =>
    obtain ⟨-, -, all⟩ := g.sent_page hd ha
    rw [g.writePlan_page hd ha, if_neg hl, (all hl).1]
    simp only [List.flatMap_cons, List.flatMap_nil, List.append_nil]
    rw [List.length_take]
    exact List.take_eq_take_min

/-- A write runs out of addresses, or ends when its bytes are sent or the last page is full. -/
theorem ending_of_writePlan (address : UInt32) (data : List UInt8) :
    (g.writePlan address data).ending =
      if g.RunsOut address data.length then .overflow
      else if g.sent address data.length = data.length then .complete
      else .pastEnd (data.length - g.sent address data.length) := by
  induction address, data using writePlan.induct g with
  | case1 address =>
    have := address.toNat_lt
    have range : ¬ g.RunsOut address 0 := fun h => by
      have := h.2.2
      omega
    simp [writePlan, sent, range]
  | case2 address data hd ha =>
    have length : data.length ≠ 0 := by simpa using hd
    rw [UInt32.le_iff_toNat_le] at ha
    have inside : ¬ address.toNat < g.totalSize.toNat := by omega
    rw [writePlan, if_neg hd, if_pos (UInt32.le_iff_toNat_le.2 ha), if_neg fun h => inside h.1,
      sent, if_neg inside, if_neg (by omega), Nat.sub_zero]
  | case3 address data hd ha room page length hl ih =>
    obtain ⟨cut, more, -⟩ := g.sent_page hd ha
    obtain ⟨sent, range⟩ := more hl
    have taken : length + (data.drop room).length = data.length := cut
    rw [g.writePlan_page hd ha, if_pos hl]
    show (g.writePlan (address + UInt32.ofNat length) (data.drop room)).ending = _
    rw [ih, sent]
    refine if_congr range.symm rfl ?_
    change _ = if length + g.sent (address + UInt32.ofNat length) (data.drop room).length = _ then
      _ else WriteEnd.pastEnd
        (_ - (length + g.sent (address + UInt32.ofNat length) (data.drop room).length))
    exact if_congr (by omega) rfl (congrArg _ (by omega))
  | case4 address data hd ha room page length hl =>
    obtain ⟨-, inside, -⟩ := g.first_page hd ha
    obtain ⟨cut, -, all⟩ := g.sent_page hd ha
    have taken : length + (data.drop room).length = data.length := cut
    rw [g.writePlan_page hd ha, if_neg hl, if_pos ⟨inside, (all hl).2, by omega⟩]

end Plan

theorem Consecutive.ends {start : Nat} {pages : List Page} (h : Consecutive start pages) :
    (∀ p ∈ pages, start ≤ p.address.toNat ∧
      p.address.toNat + p.data.length ≤ start + (pages.flatMap Page.data).length) ∧
    (pages ≠ [] → ∃ p ∈ pages,
      p.address.toNat + p.data.length = start + (pages.flatMap Page.data).length) := by
  refine ⟨fun p hp => ?_, fun some => ?_⟩
  · obtain ⟨before, after, rfl⟩ := List.append_of_mem hp
    have := h before p after rfl
    simp only [List.flatMap_append, List.flatMap_cons, List.length_append]
    omega
  · obtain ⟨before, p, rfl⟩ := (List.eq_nil_or_concat pages).resolve_left some
    rw [List.concat_eq_append] at h ⊢
    have := h before p [] rfl
    refine ⟨p, by simp, ?_⟩
    simp only [List.flatMap_append, List.flatMap_cons, List.flatMap_nil, List.append_nil,
      List.length_append]
    omega

theorem page_le_pagesEnd {address : UInt32} {data : List UInt8} {p : Page}
    (hp : p ∈ (g.writePlan address data).pages) :
    p.address.toNat + p.data.length ≤ g.pagesEnd := by
  obtain ⟨-, inside, fits⟩ := g.page_of_writePlan hp
  have := (pagesEnd_of_lt g.pageSize_pos inside).2.1
  change _ ≤ g.pagesEnd at this
  omega

/-- The writes whose pages all lie inside of the device. -/
theorem pages_inside_iff (address : UInt32) (data : List UInt8) :
    (∀ p ∈ (g.writePlan address data).pages, p.address.toNat + p.data.length ≤ g.totalSize.toNat) ↔
      g.totalSize.toNat % g.pageSize.toNat = 0 ∨ g.totalSize.toNat ≤ address.toNat ∨
        address.toNat + data.length ≤ g.totalSize.toNat := by
  obtain ⟨ends, last⟩ := (g.consecutive_writePlan address data).ends
  have sent : ((g.writePlan address data).pages.flatMap Page.data).length =
      g.sent address data.length := by
    rw [bytes_of_writePlan, List.length_take, Nat.min_eq_left (g.sent_le ..)]
  rw [sent] at ends last
  constructor
  · intro inside
    by_contra beyond
    rw [not_or, not_or, ← g.pagesEnd_eq_iff] at beyond
    obtain ⟨part, start, stop⟩ := beyond
    have := g.totalSize_le_pagesEnd
    have more : g.totalSize.toNat < address.toNat + g.sent address data.length := by
      rw [Geometry.sent, if_pos (by omega)]
      omega
    obtain ⟨p, hp, hend⟩ := last fun none => by
      rw [none] at sent
      simp only [List.flatMap_nil, List.length_nil] at sent
      omega
    have := inside p hp
    omega
  · rintro (whole | outside | fits) p hp
    · rw [← g.pagesEnd_eq_iff.2 whole]
      exact g.page_le_pagesEnd hp
    · have := (g.page_of_writePlan hp).2.1
      have := (ends p hp).1
      omega
    · have := (ends p hp).2
      have := g.sent_le address data.length
      omega

/-- A write that stays inside of the device sends just what the device holds of it. -/
theorem sent_of_inside {address : UInt32} {length : Nat}
    (h : g.totalSize.toNat % g.pageSize.toNat = 0 ∨ g.totalSize.toNat ≤ address.toNat ∨
      address.toNat + length ≤ g.totalSize.toNat) :
    g.sent address length = min length (g.totalSize.toNat - address.toNat) ∧
      ¬ g.RunsOut address length := by
  have := g.totalSize.toNat_lt
  have := g.totalSize_le_pagesEnd
  unfold sent RunsOut
  rw [← g.pagesEnd_eq_iff] at h
  split <;> omega

/-! ## The bytes that a write programs -/

/-- Whether a write of `length` bytes programs the byte at `i`: it is one of them, and the write or
the page of the byte ends inside of the device. -/
structure Programs (address : UInt32) (length i : Nat) : Prop where
  low : address.toNat ≤ i
  high : i - address.toNat < length
  inside : address.toNat + length ≤ g.totalSize.toNat ∨
    (i / g.pageSize.toNat + 1) * g.pageSize.toNat ≤ g.totalSize.toNat

theorem programs_iff {address : UInt32} {length i : Nat} : g.Programs address length i ↔
    address.toNat ≤ i ∧ i - address.toNat < length ∧
      (address.toNat + length ≤ g.totalSize.toNat ∨
        (i / g.pageSize.toNat + 1) * g.pageSize.toNat ≤ g.totalSize.toNat) :=
  ⟨fun h => ⟨h.low, h.high, h.inside⟩, fun h => ⟨h.1, h.2.1, h.2.2⟩⟩

instance (address : UInt32) (length i : Nat) : Decidable (g.Programs address length i) :=
  decidable_of_iff' _ g.programs_iff

/-- The page of a byte ends after it, and for the bytes in what is left of the page of an address
it ends with that. -/
theorem page_end {page i : Nat} (hp : 0 < page) (address : Nat) :
    i < (i / page + 1) * page ∧
      (address ≤ i → i < address + (page - address % page) →
        (i / page + 1) * page = address + (page - address % page)) := by
  have hi := Nat.div_add_mod' i page
  have ha := Nat.div_add_mod' address page
  have := Nat.mod_lt i hp
  have := Nat.mod_lt address hp
  rw [Nat.succ_mul]
  refine ⟨by omega, fun low high => ?_⟩
  have same : i / page = address / page := by
    refine Nat.div_eq_of_lt_le (by omega) ?_
    rw [Nat.succ_mul]
    omega
  rw [same]
  omega

theorem Programs.lt {address : UInt32} {length i : Nat} (h : g.Programs address length i) :
    i < g.totalSize.toNat := by
  have := (page_end (i := i) g.pageSize_pos 0).1
  obtain ⟨low, high, inside⟩ := h
  omega

/-- The first page of a write programs its bytes if it ends inside of the device, and the other
bytes are those that the rest of the write programs. -/
theorem programs_page (address : UInt32) (data : List UInt8) (i : Nat) :
    let length := (data.take (g.pageRemaining address).toNat).length
    (i < address.toNat + length → (g.Programs address data.length i ↔
      (address.toNat ≤ i ∧ i - address.toNat < length) ∧
        address.toNat + length ≤ g.totalSize.toNat)) ∧
    (address.toNat + length ≤ i → address.toNat + length < 0x100000000 →
      (g.Programs address data.length i ↔ g.Programs (address + UInt32.ofNat length)
        (data.drop (g.pageRemaining address).toNat).length i)) := by
  intro length
  obtain ⟨after, ends⟩ := page_end (i := i) g.pageSize_pos address.toNat
  rw [← g.pageRemaining_eq] at ends
  have taken : length = min _ data.length := List.length_take
  refine ⟨fun here => ?_, fun later hl => ?_⟩
  · rw [programs_iff]
    omega
  · rw [programs_iff, programs_iff, next_address hl, List.length_drop]
    omega

/-- A page of a write programs its bytes if it ends inside of the device. -/
theorem byte_programHeld (m : Memory) (hm : m.size = g.totalSize.toNat) (p : Page) (i : Nat) :
    (programHeld m p).byte i =
      if h : (p.address.toNat ≤ i ∧ i - p.address.toNat < p.data.length) ∧
          p.address.toNat + p.data.length ≤ g.totalSize.toNat then
        m.byte i &&& p.data[i - p.address.toNat]
      else m.byte i := by
  unfold programHeld
  by_cases held : p.address.toNat + p.data.length ≤ g.totalSize.toNat
  · rw [if_pos (by simpa [Memory.holds, hm] using held), Memory.byte_program]
    simp only [held, and_true]
  · rw [if_neg (by simpa [Memory.holds, hm] using held), dif_neg fun h => held h.2]

/-- The pages of a write together program just these bytes. -/
theorem byte_foldl_pages (m : Memory) (hm : m.size = g.totalSize.toNat) (address : UInt32)
    (data : List UInt8) (i : Nat) :
    ((g.writePlan address data).pages.foldl programHeld m).byte i =
      if h : g.Programs address data.length i then
        m.byte i &&& data.get ⟨i - address.toNat, h.high⟩
      else m.byte i := by
  induction address, data using writePlan.induct g generalizing m with
  | case1 address => simp [writePlan, programs_iff]
  | case2 address data hd ha =>
    rw [writePlan, if_neg hd, if_pos ha, dif_neg]
    · rfl
    · rw [UInt32.le_iff_toNat_le] at ha
      intro programs
      have := programs.lt
      have := programs.low
      omega
  | case3 address data hd ha room page length hl ih =>
    obtain ⟨now, next⟩ := g.programs_page address data i
    change i < address.toNat + length → _ at now
    change address.toNat + length ≤ i → address.toNat + length < _ →
      (_ ↔ g.Programs (address + UInt32.ofNat length) (data.drop room).length i) at next
    rw [g.writePlan_page hd ha, if_pos hl, List.foldl_cons]
    change ((g.writePlan (address + UInt32.ofNat length) (data.drop room)).pages.foldl programHeld
      (programHeld m page)).byte i = _
    rw [ih _ (by rw [size_programHeld, hm]), g.byte_programHeld m hm]
    rcases Nat.lt_or_ge i (address.toNat + length) with hi | hi
    · -- in or before this page
      have before : ¬ g.Programs (address + UInt32.ofNat length) (data.drop room).length i := by
        intro programs
        have low := programs.low
        rw [next_address hl] at low
        omega
      rw [dif_neg before]
      by_cases here : g.Programs address data.length i
      · rw [dif_pos ((now hi).1 here), dif_pos here]
        exact congrArg _ List.getElem_take
      · rw [dif_neg fun h => here ((now hi).2 h), dif_neg here]
    · -- after this page
      have away : ¬ (i - address.toNat < length) := by omega
      by_cases later : g.Programs address data.length i
      · have rest := (next hi hl).1 later
        rw [dif_pos rest, dif_neg fun h => away h.1.2, dif_pos later, List.get_eq_getElem,
          List.get_eq_getElem, List.getElem_drop]
        -- where data is left, the page was filled to its end
        have left := rest.high
        rw [List.length_drop] at left
        have full : length = room := List.length_take_of_le (by omega)
        have low := rest.low
        rw [next_address hl] at low
        congr 2
        show room + (i - (address + UInt32.ofNat length).toNat) = i - address.toNat
        rw [next_address hl]
        omega
      · rw [dif_neg fun h => later ((next hi hl).2 h), dif_neg fun h => away h.1.2, dif_neg later]
  | case4 address data hd ha room page length hl =>
    have past : ¬ address.toNat + length ≤ g.totalSize.toNat := fun inside =>
      hl (Nat.lt_of_le_of_lt inside g.totalSize.toNat_lt)
    rw [g.writePlan_page hd ha, if_neg hl]
    show (programHeld m page).byte i = _
    rw [g.byte_programHeld m hm, dif_neg fun h => past h.2, dif_neg]
    intro programs
    have := programs.lt
    have here : i < address.toNat + length := by omega
    exact past (((g.programs_page address data i).1 here).1 programs).2

/-- A write that stays inside of the device programs its bytes up to the end of the device. -/
theorem programs_iff_of_inside {address : UInt32} {data : List UInt8} (held : ∀ p ∈
    (g.writePlan address data).pages, p.address.toNat + p.data.length ≤ g.totalSize.toNat)
    (i : Nat) : g.Programs address data.length i ↔
      (address.toNat ≤ i ∧ i - address.toNat < data.length) ∧ i < g.totalSize.toNat := by
  constructor
  · exact fun h => ⟨⟨h.low, h.high⟩, h.lt⟩
  · rintro ⟨⟨low, high⟩, limit⟩
    refine ⟨low, high, ?_⟩
    rcases (g.pages_inside_iff address data).1 held with whole | outside | fits
    · have := Nat.mod_lt i g.pageSize_pos
      rw [(page_end (i := i) g.pageSize_pos i).2 (Nat.le_refl i) (by omega)]
      exact .inr (page_inside whole limit (by omega))
    · omega
    · exact .inl fits

/-! ## Erases -/

/-- How many sectors an erase meets. -/
def sectorsMet (address : UInt32) (length : Nat) : Nat :=
  (min (address.toNat + length) g.totalSize.toNat + 4095) / 4096 - address.toNat / 4096

theorem lt_sectorsMet_iff {address : UInt32} {length k : Nat} : k < g.sectorsMet address length ↔
    address.toNat / 4096 * 4096 + 4096 * k < min (address.toNat + length) g.totalSize.toNat := by
  unfold sectorsMet
  omega

/-- How many sectors an erase erases one by one. -/
def sectorErases (address : UInt32) (length : Nat) : Nat :=
  if g.isWholeChip address length then 0 else g.sectorsMet address length

theorem addresses_of_sectorsFrom (address : UInt32) (remaining : Nat) :
    (g.sectorsFrom address remaining).map (·.address.toNat) =
      (List.range ((min (address.toNat + remaining) g.totalSize.toNat + 4095 - address.toNat) /
        4096)).map (address.toNat + 4096 * ·) := by
  have size : sectorSize.toNat = 4096 := rfl
  have := g.totalSize.toNat_lt
  induction address, remaining using sectorsFrom.induct g with
  | case1 address remaining h =>
    rw [sectorsFrom, if_pos h]
    rw [UInt32.le_iff_toNat_le] at h
    have none : (min (address.toNat + remaining) g.totalSize.toNat + 4095 - address.toNat) / 4096 =
        0 := by omega
    rw [none]
    rfl
  | case2 address remaining h ih =>
    rw [sectorsFrom, if_neg h, List.map_cons]
    rw [not_or, UInt32.le_iff_toNat_le] at h
    have count : (min (address.toNat + remaining) g.totalSize.toNat + 4095 - address.toNat) / 4096 =
        (min (address.toNat + 4096 + (remaining - min remaining 4096)) g.totalSize.toNat + 4095 -
          (address.toNat + 4096)) / 4096 + 1 := by omega
    rw [count, List.range_succ_eq_map, List.map_cons, List.map_map]
    refine congrArg₂ _ rfl ?_
    split
    next hl =>
      rw [ih, sector_next hl, size]
      refine List.map_congr_left fun i _ => ?_
      simp only [Function.comp]
      omega
    next hl =>
      -- the address space ends with this sector, and the device not after it
      have none : (min (address.toNat + 4096 + (remaining - min remaining 4096))
          g.totalSize.toNat + 4095 - (address.toNat + 4096)) / 4096 = 0 := by omega
      rw [none]
      rfl

/-- The sectors of an erase: from the one that holds the address on, as many as it meets. -/
theorem sectors_of_erase (address : UInt32) (length : Nat) :
    (g.sectorsFrom (alignErase address length).1 (alignErase address length).2).map
      (·.address.toNat) = (List.range (g.sectorsMet address length)).map
        (address.toNat / 4096 * 4096 + 4096 * ·) := by
  obtain ⟨start, stop⟩ := alignErase_eq address length
  have := g.totalSize.toNat_lt
  have large : maxLength = 2 ^ 64 - 1 := rfl
  rw [g.addresses_of_sectorsFrom, stop, start]
  congr 2
  unfold sectorsMet
  omega

/-- The erases whose sectors all lie inside of the device. -/
theorem sectors_inside_iff (address : UInt32) (length : Nat) :
    (∀ i < g.sectorsMet address length,
      address.toNat / 4096 * 4096 + 4096 * i + 4096 ≤ g.totalSize.toNat) ↔
      g.totalSize.toNat % 4096 = 0 ∨ g.totalSize.toNat / 4096 < address.toNat / 4096 ∨
        address.toNat + length ≤ g.totalSize.toNat / 4096 * 4096 := by
  unfold sectorsMet
  constructor
  · intro inside
    by_contra beyond
    rw [not_or, not_or] at beyond
    have := inside (g.totalSize.toNat / 4096 - address.toNat / 4096) (by omega)
    omega
  · intro bounded i hi
    omega

end FlashGate.Geometry

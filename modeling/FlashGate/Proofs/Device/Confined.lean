/-
Operations that keep to their sectors. The messages of several clients, each of which keeps to
sectors of its own, do to the sectors of one client what its own operations do alone, and hand over
to it what these hand over. Main statement: `Flat.confined_run`.
-/
import FlashGate.Proofs.Refinement

namespace FlashGate

/-- The address that an operation starts at. -/
def Operation.address : Operation → UInt32
  | .read address _ => address
  | .fastRead _ address _ => address
  | .write address _ => address
  | .erase address _ => address

/-- The address of the operation, and all bytes of its range, lie in the given sectors. -/
def Operation.Within (own : Nat → Prop) (o : Operation) : Prop :=
  own (o.address.toNat / 4096) ∧ ∀ k < o.length, own ((o.address.toNat + k) / 4096)

/-- Each client's jobs keep to the sectors that it owns. -/
def Confined (owns : ClientId → Nat → Prop) (messages : List Message) : Prop :=
  ∀ j, .job j ∈ messages → j.operation.Within (owns j.client)

/-- The operation that a message asks for, if it is one of the client's. -/
def Message.operationOf? (id : ClientId) : Message → Option Operation
  | .job j => if j.client = id then some j.operation else none
  | _ => none

/-- The operations that a client asks for, in order. -/
def operationsOf (id : ClientId) (messages : List Message) : List Operation :=
  messages.filterMap (Message.operationOf? id)

namespace Flat

/-- The flat memories agree on the given sectors. -/
structure SameIn (own : Nat → Prop) (f f' : Flat) : Prop where
  size : f.size = f'.size
  byte : ∀ i < f.size, own (i / 4096) → f.byte i = f'.byte i

variable {own : Nat → Prop} {f f' : Flat} {o : Operation}

theorem size_after (f : Flat) (o : Operation) : (f.after o).size = f.size := by
  cases o <;> rfl

theorem size_run (f : Flat) (messages : List Message) : (f.run messages).size = f.size := by
  induction messages generalizing f with
  | nil => rfl
  | cons x rest ih =>
    refine (ih (f.step x)).trans ?_
    cases x with
    | job j => exact size_after f j.operation
    | park i => rfl
    | stop => rfl

/-- What an operation does to a byte hangs on nothing but the byte. -/
theorem SameIn.after (h : SameIn own f f') (o : Operation) :
    SameIn own (f.after o) (f'.after o) := by
  cases o with
  | read => exact h
  | fastRead => exact h
  | write address data =>
    refine ⟨h.size, fun i hi mine => ?_⟩
    have hi : i < f.size := hi
    have same := h.byte i hi mine
    simp only [Flat.after, Flat.write, same, h.size]
  | erase address length =>
    refine ⟨h.size, fun i hi mine => ?_⟩
    have hi : i < f.size := hi
    have same := h.byte i hi mine
    simp only [Flat.after, Flat.erase, same, h.size]

/-- An operation leaves the bytes outside of its sectors as they are. -/
theorem byte_after_of_within (within : o.Within own) {i : Nat} (other : ¬ own (i / 4096)) :
    (f.after o).byte i = f.byte i := by
  obtain ⟨start, range⟩ := within
  cases o with
  | read => rfl
  | fastRead => rfl
  | write address data =>
    have range : ∀ k < data.length, own ((address.toNat + k) / 4096) := range
    refine dif_neg fun hw => other ?_
    have := range (i - address.toNat) hw.2.1
    rwa [Nat.add_sub_cancel' hw.1] at this
  | erase address length =>
    have start : own (address.toNat / 4096) := start
    have range : ∀ k < length, own ((address.toNat + k) / 4096) := range
    refine if_neg fun he => other ?_
    -- the sector that meets the range is that of the address, or of a byte of the range
    obtain ⟨x, after, before, sector⟩ := he.1
    rw [← sector]
    by_cases low : x < address.toNat
    · rwa [show x / 4096 = address.toNat / 4096 by omega]
    · have := range (x - address.toNat) (by omega)
      rwa [Nat.add_sub_cancel' (by omega)] at this

/-- An operation hands over nothing but what is in its sectors. -/
theorem SameIn.reply (h : SameIn own f f') (within : o.Within own) : f.reply o = f'.reply o := by
  have read {start length : Nat} (range : ∀ k < length, own ((start + k) / 4096)) :
      f.read start length = f'.read start length := by
    refine List.map_congr_left fun k hk => ?_
    rw [h.size]
    split
    next hi => exact h.byte _ (by rwa [h.size]) (range k (List.mem_range.1 hk))
    next => rfl
  cases o with
  | read address length => exact read within.2
  | fastRead mode address length =>
    cases mode with
    | raw => exact read within.2
    | nibbleSwap => exact congrArg (List.map Submode.swapNibbles) (read within.2)
  | write => rfl
  | erase => rfl

/-! ## Messages of several clients -/

/-- The flat memory after operations. -/
def perform (f : Flat) (operations : List Operation) : Flat := operations.foldl after f

/-- The bytes that the reads among the operations hand over, one after the other. -/
def answers (f : Flat) : List Operation → List (List UInt8)
  | [] => []
  | o :: rest => (if o.isRead then [f.reply o] else []) ++ answers (f.after o) rest

/-- The bytes of a client's reads among the messages, under their tickets. -/
def repliesTo (f : Flat) (id : ClientId) : List Message → List (Ticket × List UInt8)
  | [] => []
  | .job j :: rest =>
    (if j.client = id ∧ j.operation.isRead = true then [(j.ticket, f.reply j.operation)] else []) ++
      repliesTo (f.step (.job j)) id rest
  | x :: rest => repliesTo (f.step x) id rest

theorem answers_begin {operations later : List Operation} (h : operations <+: later) :
    f.answers operations <+: f.answers later := by
  obtain ⟨more, rfl⟩ := h
  induction operations generalizing f with
  | nil => exact List.nil_prefix
  | cons o rest ih => exact (List.prefix_append_right_inj _).2 ih

/-- A reply is one to the client that asked for it. -/
theorem mem_repliesTo {messages : List Message} {r : Ticket × List UInt8}
    (h : r ∈ f.replies messages) :
    ∃ j, .job j ∈ messages ∧ j.ticket = r.1 ∧ r ∈ f.repliesTo j.client messages := by
  induction messages generalizing f with
  | nil => cases h
  | cons x rest ih =>
    rcases List.mem_append.1 h with here | later
    · cases x with
      | park i => cases here
      | stop => cases here
      | job j =>
        by_cases read : j.operation.isRead = true
        · have here : r ∈ if j.operation.isRead = true then
              [(j.ticket, f.reply j.operation)] else [] := here
          rw [if_pos read, List.mem_singleton] at here
          refine ⟨j, List.mem_cons_self .., by rw [here], List.mem_append_left _ ?_⟩
          rw [if_pos ⟨rfl, read⟩, here]
          exact List.mem_singleton_self _
        · have here : r ∈ if j.operation.isRead = true then
              [(j.ticket, f.reply j.operation)] else [] := here
          rw [if_neg read] at here
          cases here
    · obtain ⟨j, hj, ticket, reply⟩ := ih later
      refine ⟨j, List.mem_cons_of_mem _ hj, ticket, ?_⟩
      cases x with
      | park i => exact reply
      | stop => exact reply
      | job j' => exact List.mem_append_right _ reply

variable {owns : ClientId → Nat → Prop} {id : ClientId}

/-- Messages that keep to the sectors of their clients do to the sectors of one client what its own
operations do alone, and hand over to it what these hand over. -/
theorem confined_run (apart : ∀ i j s, owns i s → owns j s → i = j) {messages : List Message}
    (confined : Confined owns messages) (h : SameIn (owns id) f f') :
    SameIn (owns id) (f.run messages) (f'.perform (operationsOf id messages)) ∧
      (f.repliesTo id messages).map (·.2) = f'.answers (operationsOf id messages) := by
  induction messages generalizing f f' with
  | nil => exact ⟨h, rfl⟩
  | cons x rest ih =>
    have later : Confined owns rest := fun j hj => confined j (List.mem_cons_of_mem _ hj)
    cases x with
    | park i => exact ih later h
    | stop => exact ih later h
    | job j =>
      have within := confined j (List.mem_cons_self ..)
      by_cases mine : j.client = id
      · have operations :
            operationsOf id (.job j :: rest) = j.operation :: operationsOf id rest := by
          simp [operationsOf, Message.operationOf?, mine]
        obtain ⟨stored, handed⟩ := ih later (h.after j.operation)
        rw [operations]
        refine ⟨stored, ?_⟩
        rw [mine] at within
        rw [repliesTo, answers, List.map_append, ← h.reply within]
        refine congrArg₂ (· ++ ·) ?_ handed
        by_cases read : j.operation.isRead = true <;> simp [mine, read]
      · -- the job of another client leaves the sectors as they are
        have operations : operationsOf id (.job j :: rest) = operationsOf id rest := by
          simp [operationsOf, Message.operationOf?, mine]
        have kept : SameIn (owns id) (f.step (.job j)) f' := by
          have size : (f.after j.operation).size = f.size := size_after f j.operation
          refine ⟨size.trans h.size, fun i hi own => ?_⟩
          rw [← h.byte i (by rwa [← size]) own]
          exact byte_after_of_within within fun other => mine (apart _ _ _ other own)
        obtain ⟨stored, handed⟩ := ih later kept
        rw [operations]
        refine ⟨stored, ?_⟩
        rw [repliesTo, if_neg fun h => mine h.1]
        exact handed

end Flat

end FlashGate

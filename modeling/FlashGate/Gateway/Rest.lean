/-
Under the fixed schedule a gate comes to rest: every move takes at least one off the rank, so after
as many moves as the rank says no thread can move. Main statement: `rest_move?`, that in a gate
let come to rest no thread has a move left; the schedule may leave out clients that are idle.
The same goes for a gate where one client is attended to, unless it has its answer.
-/
import FlashGate.Gateway.Schedule

namespace FlashGate

/-! ## Ranks of changed states -/

namespace Roster

theorem rank_put (id : ClientId) (c : Client) (l : List (ClientId × Client)) :
    rank (put id c l) + (find id l).task.rank = rank l + c.task.rank := by
  induction l with
  | nil => simp [put, find, rank, Task.rank]
  | cons e rest ih =>
    obtain ⟨i, d⟩ := e
    by_cases h : i = id
    · simp only [put, find, h, if_true, rank]; omega
    · simp only [put, find, h, if_false, rank]; omega

end Roster

namespace Control

variable (c : Control) (id : ClientId)

theorem rank_set (d : Client) :
    ({ c with clients := c.clients.set id d } : Control).rank + (c.client id).task.rank =
      c.rank + d.task.rank := by
  have := Roster.rank_put id d c.clients.entries
  simp only [rank, client, Roster.get, Roster.set] at *
  omega

theorem rank_place_lt {t : Task} (h : t.rank < (c.client id).task.rank) :
    (c.place id t).rank < c.rank := by
  have h' : (c.place id t).rank + _ = _ := c.rank_set id { c.client id with task := t }
  have : ({ c.client id with task := t } : Client).task.rank = t.rank := rfl
  omega

theorem rank_finish_lt (a : Answer) (h : 0 < (c.client id).task.rank) :
    (c.finish id a).rank < c.rank := by
  have h' : (c.finish id a).rank + _ = _ :=
    c.rank_set id { c.client id with task := .idle, answer := some a }
  have : ({ c.client id with task := .idle, answer := some a } : Client).task.rank = 0 := rfl
  omega

end Control

/-! ## Moves lower the rank -/

/-- Whether a move takes the rank of the state below `n`, wherever its script ends. -/
def Move.Lowers (n : Nat) : Move → Prop
  | .quiet next _ => next.rank < n
  | .drive _ resume => ∀ r, (resume (.finished r)).1.rank < n

namespace Control

theorem dispatcherMove?_lowers {c : Control} {m : Move} (h : c.dispatcherMove? = some m) :
    m.Lowers c.rank := by
  unfold dispatcherMove? at h
  cases hd : c.dispatcher with
  | starting =>
    simp only [hd] at h
    cases h
    simp [Move.Lowers, rank, hd, Dispatcher.rank]
  | receiving =>
    simp only [hd] at h
    split at h
    · cases h
    next msg rest hq =>
      cases h
      cases msg <;>
        simp [take, Move.Lowers, rank, hd, hq, Dispatcher.rank, Message.weight] <;> omega
  | claiming j =>
    simp only [hd] at h
    split at h
    · cases h
    · cases h
      simp [Move.Lowers, rank, hd, Dispatcher.rank]
  | serving j s =>
    simp only [hd] at h
    cases h
    intro r
    match r with
    | .ok bytes =>
      by_cases hr : j.operation.isRead <;> simp [served, hr, rank, hd, Dispatcher.rank]
    | .error f => cases f <;> simp [dispatcherFault, rank, hd, Dispatcher.rank]
  | detaching j =>
    simp only [hd] at h
    cases h
    simp [Move.Lowers, rank, hd, Dispatcher.rank]
  | restoring j =>
    simp only [hd] at h
    cases h
    simp [Move.Lowers, rank, hd, Dispatcher.rank]
  | claimingRelease l =>
    simp only [hd] at h
    split at h
    · cases h
    · cases h
      simp [Move.Lowers, rank, hd, Dispatcher.rank]
  | releasing l s =>
    simp only [hd] at h
    cases h
    intro r
    match r with
    | .ok bytes => simp [rank, hd, Dispatcher.rank]
    | .error f => cases f <;> simp [dispatcherFault, rank, hd, Dispatcher.rank]
  | detachingRelease l =>
    cases l <;> simp only [hd] at h <;> cases h <;> simp [Move.Lowers, rank, hd, Dispatcher.rank]
  | announcing =>
    simp only [hd] at h
    cases h
    simp [Move.Lowers, rank, hd, Dispatcher.rank]
  | parked =>
    simp only [hd] at h
    split at h
    · cases h
    · cases h
      simp [Move.Lowers, rank, hd, Dispatcher.rank]
  | unwinding =>
    simp only [hd] at h
    cases h
    simp only [Move.Lowers, rank, hd, Dispatcher.rank, List.length_nil]
    omega
  | stopped => simp only [hd] at h; cases h
  | dead => simp only [hd] at h; cases h
  | aborted => simp only [hd] at h; cases h

theorem claim?_lowers {c : Control} {id : ClientId} {t : Task} {m : Move}
    (h : c.claim? id t = some m) (ht : t.rank < (c.client id).task.rank) : m.Lowers c.rank := by
  unfold claim? at h
  split at h
  · cases h
  · cases h
    exact rank_place_lt { c with holder := some (.client id) } id ht

theorem afterSubmission_rank {c : Control} {id : ClientId} {s : Submission} {t : Option Ticket}
    (h : (c.client id).task = .leaving s t) : (c.afterSubmission id s t).rank < c.rank := by
  cases s with
  | job o buffer =>
    cases t with
    | some t =>
      simp only [afterSubmission]
      split
      · exact rank_place_lt c id (by simp [h, Task.rank])
      · exact rank_finish_lt c id _ (by simp [h, Task.rank])
    | none => exact rank_finish_lt c id _ (by simp [h, Task.rank])
  | park =>
    cases t with
    | some t => exact rank_place_lt c id (by simp [h, Task.rank])
    | none => exact rank_place_lt c id (by simp [h, Task.rank])

theorem rank_push_place_lt {c : Control} {id : ClientId} {msg : Message} {t : Task}
    (h : t.rank + Message.weight < (c.client id).task.rank) :
    ((c.push msg).place id t).rank < c.rank := by
  have h' : ((c.push msg).place id t).rank + _ = _ :=
    (c.push msg).rank_set id { (c.push msg).client id with task := t }
  have h₁ : (c.push msg).rank = c.rank + Message.weight := by
    simp [rank, push, Message.weight]
    omega
  have h₂ : (c.push msg).client id = c.client id := rfl
  have : ({ c.client id with task := t } : Client).task.rank = t.rank := rfl
  rw [h₁, h₂] at h'
  omega

theorem submissionMove?_lowers {c : Control} {id : ClientId} {t : Task} {m : Move}
    (ht : (c.client id).task = t) (h : c.submissionMove? id t = some m) : m.Lowers c.rank := by
  unfold submissionMove? at h
  split at h
  next s =>
    obtain ⟨a, -, rfl⟩ := Option.map_eq_some_iff.1 h
    refine rank_place_lt { c with admission := a } id (?_ : _ < (c.client id).task.rank)
    cases s <;> simp [ht, Task.rank]
  next s =>
    split at h
    · cases h
      refine rank_place_lt c id ?_
      cases s <;> simp [ht, Task.rank, Message.weight]
    · split at h
      · cases h
        refine rank_push_place_lt ?_
        cases s <;> simp [ht, Task.rank, Message.weight]
      · cases h
  next s t =>
    cases h
    exact afterSubmission_rank (c := { c with admission := c.admission.leave }) ht
  next t buffer =>
    split at h
    next bytes _ =>
      cases h
      exact rank_finish_lt { c with replies := c.replies.filter fun r => r.1 != t } id _
        (show 0 < (c.client id).task.rank by simp [ht, Task.rank])
    · split at h
      · cases h
        exact rank_finish_lt c id _ (by simp [ht, Task.rank])
      · cases h
  · cases h

theorem rank_set_of_task {c : Control} {id : ClientId} {d : Client}
    (h : d.task = (c.client id).task) :
    ({ c with clients := c.clients.set id d } : Control).rank = c.rank := by
  have := c.rank_set id d
  rw [h] at this
  omega

theorem held_rank {c : Control} {id : ClientId} {spin : SpinLock} {p : Purpose} {reentry : Bool}
    (h : (c.client id).task = .spinning p reentry) : (c.held id spin p).rank < c.rank := by
  let d : Client := { c.client id with holds := (c.client id).holds + 1 }
  let e : Control := { c with spin, clients := c.clients.set id d }
  have he : e.rank = c.rank := rank_set_of_task (c := c) (d := d) rfl
  have ht : (e.client id).task = .spinning p reentry := by simp [e, d, client, ← h]
  rw [← he]
  cases p with
  | hold => exact rank_finish_lt e id _ (by simp [ht, Task.rank])
  | window => exact rank_place_lt e id (by simp [ht, Task.rank])

theorem lockMove?_lowers {c : Control} {id : ClientId} {t : Task} {m : Move}
    (ht : (c.client id).task = t) (h : c.lockMove? id t = some m) : m.Lowers c.rank := by
  unfold lockMove? at h
  split at h
  next p =>
    obtain ⟨a, -, rfl⟩ := Option.map_eq_some_iff.1 h
    refine rank_place_lt { c with admission := a } id (?_ : _ < (c.client id).task.rank)
    cases p <;> simp [ht, Task.rank]
  next p =>
    cases h
    exact held_rank ht
  next p =>
    obtain ⟨l, -, rfl⟩ := Option.map_eq_some_iff.1 h
    exact held_rank ht
  · split at h
    · cases h
      exact rank_place_lt { c with park := ⟨.requested, some id⟩ } id
        (show _ < (c.client id).task.rank by simp [ht, Task.rank])
    · cases h
      exact rank_place_lt c id (by simp [ht, Task.rank, Message.weight])
  · cases h
    exact rank_place_lt { c with park := if c.park.state = .requested then {} else c.park } id
      (show _ < (c.client id).task.rank by simp [ht, Task.rank])
  · split at h
    · cases h
    · cases h
      exact rank_place_lt c id (by simp [ht, Task.rank])
  · exact claim?_lowers h (by simp [ht, Task.rank])
  next s =>
    cases h
    intro r
    match r with
    | .ok _ => exact rank_place_lt c id (by simp [ht, Task.rank])
    | .error f =>
      exact rank_place_lt { c with holder := none } id
        (show _ < (c.client id).task.rank by simp [ht, Task.rank])
  · cases h
    exact rank_place_lt { c with holder := none } id
      (show _ < (c.client id).task.rank by simp [ht, Task.rank])
  next a =>
    cases h
    let d : Client := { c.client id with holds := (c.client id).holds - 1 }
    let e : Control := { c with spin := c.spin.release, clients := c.clients.set id d }
    have he : e.rank = c.rank := rank_set_of_task (c := c) (d := d) rfl
    have hd : (e.client id).task = .unspinning a := by simp [e, d, client, ← ht]
    show (e.place id (.unadmitting a)).rank < c.rank
    rw [← he]
    exact rank_place_lt e id (by simp [hd, Task.rank])
  next a =>
    cases h
    exact rank_finish_lt { c with admission := c.admission.leave } id a
      (show 0 < (c.client id).task.rank by simp [ht, Task.rank])
  · cases h

theorem closeMove?_lowers {c : Control} {id : ClientId} {t : Task} {m : Move}
    (ht : (c.client id).task = t) (h : c.closeMove? id t = some m) : m.Lowers c.rank := by
  unfold closeMove? at h
  split at h
  · split at h
    · cases h
      exact rank_place_lt c id (by simp [ht, Task.rank])
    · cases h
      exact rank_finish_lt c id _ (by simp [ht, Task.rank, Message.weight])
  · exact claim?_lowers h (by simp [ht, Task.rank])
  · split at h
    · cases h
      exact rank_place_lt c id (by simp [ht, Task.rank])
    · cases h
      exact rank_place_lt c id (by simp [ht, Task.rank])
  next w s =>
    cases h
    intro r
    match r with
    | .ok _ => exact rank_place_lt c id (by simp [ht, Task.rank])
    | .error f =>
      exact rank_finish_lt { c with holder := none } id _
        (show 0 < (c.client id).task.rank by simp [ht, Task.rank, Message.weight])
  next w =>
    split at h
    · cases h
      exact rank_place_lt { c with park := {} } id
        (show _ < (c.client id).task.rank by simp [ht, Task.rank])
    · cases h
      exact rank_place_lt c id (by simp [ht, Task.rank])
  next w e =>
    cases h
    have hc : (({ c with holder := none } : Control).client id).task = .detachingClose w e := ht
    cases w <;> cases e
    · exact rank_finish_lt { c with holder := none } id _ (by simp [hc, Task.rank, Message.weight])
    · exact rank_finish_lt { c with holder := none } id _ (by simp [hc, Task.rank, Message.weight])
    · exact rank_place_lt { c with holder := none } id (by simp [hc, Task.rank])
    · exact rank_place_lt { c with holder := none } id (by simp [hc, Task.rank])
  · cases h

theorem bypassMove?_lowers {c : Control} {id : ClientId} {t : Task} {m : Move}
    (ht : (c.client id).task = t) (h : c.bypassMove? id t = some m) : m.Lowers c.rank := by
  unfold bypassMove? at h
  split at h
  · split at h
    · cases h
      exact rank_place_lt c id (by simp [ht, Task.rank])
    · cases h
      exact rank_finish_lt c id _ (by simp [ht, Task.rank])
  · split at h
    next l _ =>
      cases h
      exact rank_place_lt { c with spin := l } id
        (show _ < (c.client id).task.rank by simp [ht, Task.rank])
    · cases h
      exact rank_finish_lt c id _ (by simp [ht, Task.rank])
  · split at h
    · cases h
      exact rank_place_lt c id (by simp [ht, Task.rank])
    · cases h
      exact rank_place_lt { c with holder := some (.client id) } id
        (show _ < (c.client id).task.rank by simp [ht, Task.rank])
  · split at h
    · cases h
      exact rank_place_lt c id (by simp [ht, Task.rank])
    · cases h
      exact rank_place_lt c id (by simp [ht, Task.rank])
  next q s =>
    cases h
    intro r
    match r with
    | .ok _ => exact rank_place_lt c id (by simp [ht, Task.rank])
    | .error f => exact rank_place_lt c id (by simp [ht, Task.rank])
  · cases h
    exact rank_place_lt { c with holder := none } id
      (show _ < (c.client id).task.rank by simp [ht, Task.rank])
  · cases h
    exact rank_finish_lt { c with spin := c.spin.release } id _
      (show 0 < (c.client id).task.rank by simp [ht, Task.rank])
  · cases h

theorem rank_finish_set_lt {c : Control} {id : ClientId} {spin : SpinLock} {d : Client} (a : Answer)
    (hd : d.task = (c.client id).task) (h : 0 < (c.client id).task.rank) :
    (({ c with spin, clients := c.clients.set id d } : Control).finish id a).rank < c.rank := by
  have he : ({ c with spin, clients := c.clients.set id d } : Control).rank = c.rank :=
    rank_set_of_task hd
  rw [← he]
  refine rank_finish_lt _ id a ?_
  simpa [client, hd] using h

theorem outsideMove?_lowers {c : Control} {id : ClientId} {t : Task} {m : Move}
    (ht : (c.client id).task = t) (h : c.outsideMove? id t = some m) : m.Lowers c.rank := by
  unfold outsideMove? at h
  split at h
  · split at h
    · cases h
      exact rank_finish_set_lt _ rfl (by simp [ht, Task.rank])
    · cases h
      exact rank_finish_lt c id _ (by simp [ht, Task.rank])
  · simp only at h
    split at h
    · cases h
      exact rank_finish_lt c id _ (by simp [ht, Task.rank])
    · cases h
      exact rank_finish_set_lt _ rfl (by simp [ht, Task.rank])
  · cases h

theorem dropMove?_lowers {c : Control} {id : ClientId} {t : Task} {m : Move}
    (ht : (c.client id).task = t) (h : c.dropMove? id t = some m) : m.Lowers c.rank := by
  unfold dropMove? at h
  split at h
  · split at h
    · cases h
      exact rank_place_lt c id (by simp [ht, Task.rank])
    · cases h
      exact rank_place_lt c id (by simp [ht, Task.rank])
  · split at h
    · cases h
      exact rank_place_lt c id (by simp [ht, Task.rank, Message.weight])
    · split at h
      · cases h
        exact rank_push_place_lt (by simp [ht, Task.rank])
      · cases h
  · split at h
    · cases h
      exact rank_finish_lt c id _ (by simp [ht, Task.rank])
    · cases h
      exact rank_finish_lt c id _ (by simp [ht, Task.rank])
    · cases h
  · cases h

theorem clientMove?_lowers {c : Control} {id : ClientId} {m : Move}
    (h : c.clientMove? id = some m) : m.Lowers c.rank := by
  unfold clientMove? at h
  split at h
  · cases h
  all_goals first
    | exact submissionMove?_lowers ‹_› h
    | exact closeMove?_lowers ‹_› h
    | exact bypassMove?_lowers ‹_› h
    | exact outsideMove?_lowers ‹_› h
    | exact dropMove?_lowers ‹_› h
    | exact lockMove?_lowers rfl h

/-- Every move lowers the rank. -/
theorem move?_lowers {c : Control} {who : Actor} {m : Move} (h : c.move? who = some m) :
    m.Lowers c.rank := by
  unfold move? at h
  split at h
  · cases h
  · exact dispatcherMove?_lowers h
  · exact clientMove?_lowers h

/-! ## The schedule -/

theorem firstMove?_eq_some {c : Control} {who : Actor} {m : Move} :
    ∀ {l : List Actor}, c.firstMove? l = some (who, m) → c.move? who = some m
  | [], h => by cases h
  | a :: l, h => by
    unfold firstMove? at h
    split at h
    · cases h
      assumption
    · exact firstMove?_eq_some h

theorem firstMove?_eq_none {c : Control} {l : List Actor} :
    c.firstMove? l = none ↔ ∀ who ∈ l, c.move? who = none := by
  induction l with
  | nil => simp [firstMove?]
  | cons a l ih =>
    unfold firstMove?
    cases h : c.move? a <;> simp [h, ih]

theorem clientMove?_eq_none {c : Control} {id : ClientId}
    (h : (c.client id).task.isIdle = true) : c.clientMove? id = none := by
  unfold clientMove?
  split <;> simp_all [Task.isIdle]

/-- If no thread of the schedule has a move, no thread has one. -/
theorem move?_eq_none_of_order {c : Control} {first : ClientId}
    (h : ∀ who ∈ c.order first, c.move? who = none) (who : Actor) : c.move? who = none := by
  cases who with
  | dispatcher => exact h _ (by simp [order])
  | client id =>
    cases hi : (c.client id).task.isIdle with
    | true =>
      unfold move?
      split
      · rfl
      · simp_all
      · simp_all [clientMove?_eq_none]
    | false => exact h _ (by simp [order, Roster.mem_busy hi])

end Control

namespace Gate

variable {σ : Type}

theorem rank_perform_lt (T : Transport σ) {who : Actor} {c : Control} {m : Move}
    (h : c.move? who = some m) (b : Bus σ) : (perform T .whole who m b).control.rank < c.rank := by
  have hl := Control.move?_lowers h
  cases m with
  | quiet next events => exact hl
  | drive script resume => exact hl (script.run T who b).1

/-- After as many moves as the rank says, no thread of the schedule has a move left. -/
theorem moves_order (T : Transport σ) (first : ClientId) : ∀ (n : Nat) (c : Control) (b : Bus σ),
    c.rank ≤ n → (moves T first n c b).control.firstMove?
      ((moves T first n c b).control.order first) = none := by
  intro n
  induction n with
  | zero =>
    intro c b hn
    cases h : c.firstMove? (c.order first) with
    | none => simpa only [moves] using h
    | some p =>
      obtain ⟨who, m⟩ := p
      have := rank_perform_lt T (Control.firstMove?_eq_some h) b
      omega
  | succ n ih =>
    intro c b hn
    rw [moves]
    split
    next h => exact h
    next who m h =>
      have := rank_perform_lt T (Control.firstMove?_eq_some h) b
      exact ih _ _ (Nat.le_of_lt_succ (Nat.lt_of_lt_of_le this hn))

theorem rest_order (T : Transport σ) (first : ClientId) (g : Gate σ) :
    ∀ who ∈ (rest T first g).control.order first, (rest T first g).control.move? who = none :=
  Control.firstMove?_eq_none.1 (moves_order T first _ g.control g.bus (Nat.le_refl _))

/-- A client that is attended to has its answer, or no thread of the schedule has a move left. -/
theorem movesFor_idle (T : Transport σ) (id : ClientId) : ∀ (n : Nat) (c : Control) (b : Bus σ),
    c.rank ≤ n → ((movesFor T id n c b).control.client id).task = .idle ∨
      (movesFor T id n c b).control.firstMove? ((movesFor T id n c b).control.order id) = none := by
  intro n
  induction n with
  | zero =>
    intro c b hn
    cases h : c.firstMove? (c.order id) with
    | none => exact .inr (by simpa only [movesFor] using h)
    | some p =>
      obtain ⟨who, m⟩ := p
      have := rank_perform_lt T (Control.firstMove?_eq_some h) b
      omega
  | succ n ih =>
    intro c b hn
    rw [movesFor]
    split
    next idle => exact .inl idle
    next =>
      split
      next h => exact .inr h
      next who m h =>
        have := rank_perform_lt T (Control.firstMove?_eq_some h) b
        exact ih _ _ (Nat.le_of_lt_succ (Nat.lt_of_lt_of_le this hn))

/-- In a gate that is let come to rest no thread has a move left. -/
theorem rest_move? (T : Transport σ) (first : ClientId) (g : Gate σ) (who : Actor) :
    (rest T first g).control.move? who = none :=
  Control.move?_eq_none_of_order (rest_order T first g) who

/-- A client that is attended to in vain has no answer ever, unless it comes from outside: no thread
has a move left. -/
theorem attend_move? (T : Transport σ) (id : ClientId) (g : Gate σ)
    (waits : ((attend T id g).control.client id).task ≠ .idle) (who : Actor) :
    (attend T id g).control.move? who = none :=
  Control.move?_eq_none_of_order (Control.firstMove?_eq_none.1
    ((movesFor_idle T id _ g.control g.bus (Nat.le_refl _)).resolve_left waits)) who

end Gate

end FlashGate

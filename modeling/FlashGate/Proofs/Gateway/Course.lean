/-
The run of one command of a client, from the gate at which the client turns to it: other threads
move in between, and the moves of the client's own are told apart. Main statements:
`Course.invariant`, that what the begin of a command establishes and every move keeps holds wherever
the command has come, and `Course.netChange_spin` and `Course.netChange_admission`, that the moves
of the client's own take as many levels of its locks as the client has more in the end.
-/
import FlashGate.Proofs.Gateway.Hold

namespace FlashGate

/-- The client's levels of admission. -/
def Admission.level (a : Admission) (id : ClientId) : Nat :=
  if a.owner = some id then a.depth else 0

namespace Control

variable {c : Control} {id : ClientId} {e : Deed} {d : Client} {events : List Event}

theorem Locks.level (locks : Locks c) (id : ClientId) :
    c.admission.level id = (c.client id).entries := by
  unfold Admission.level
  split
  next mine => exact (locks.admission.eq_of_pos ((locks.owner id).1 mine)).symm
  next others => exact (Nat.eq_zero_of_not_pos fun pos => others ((locks.owner id).2 pos)).symm

/-- A client's turn changes the count of the spin lock by what it changes of the client's levels. -/
theorem Turn.count (turn : Turn c id e d events) (allowed : e.Allowed c id) (locks : Locks c) :
    ((e.apply c id).spin.count : Int) - c.spin.count = (d.levels : Int) - (c.client id).levels := by
  have here := turn.levels (locks.holding id)
  cases e with
  | spin =>
    have free : c.spin.count = 0 := allowed
    have here : d.levels = (c.client id).levels + 1 := here
    simp only [Deed.apply, free, here]
    omega
  | respin =>
    have here : d.levels = (c.client id).levels + 1 := here
    simp only [Deed.apply, SpinLock.relock, here]
    omega
  | unspin =>
    obtain ⟨pos, less⟩ := here
    have all := locks.spin.eq_of_pos pos
    simp only [Deed.apply, SpinLock.release, less]
    omega
  | _ =>
    have here : d.levels = (c.client id).levels := here
    simp only [Deed.apply, push, here]
    omega

end Control

namespace Gate

variable {σ : Type}

/-- A run of one command of a client, from the gate at which the client turns to it: the gates
before and after each move of the client's own, and the gate that the run has come to. In between
the other threads move, other clients turn to commands, and the device is changed from outside. -/
inductive Course (T : Transport σ) (env : σ → σ → Prop) (id : ClientId) (k : FlashGate.Command)
    (g₀ : Gate σ) : List (Gate σ × Gate σ) → Gate σ → Prop
  | begin {c : Control} (h : g₀.control.begin? id k = some c) :
    Course T env id k g₀ [(g₀, { g₀ with control := c })] { g₀ with control := c }
  | own {moves : List (Gate σ × Gate σ)} {g : Gate σ} {m : Move} (h : Course T env id k g₀ moves g)
    (move : g.control.move? (.client id) = some m) :
    Course T env id k g₀ (moves ++ [(g, perform T .single (.client id) m g.bus)])
      (perform T .single (.client id) m g.bus)
  | other {moves : List (Gate σ × Gate σ)} {g : Gate σ} {who : Actor} {m : Move}
    (h : Course T env id k g₀ moves g) (apart : who ≠ .client id)
    (move : g.control.move? who = some m) :
    Course T env id k g₀ moves (perform T .single who m g.bus)
  | turns {moves : List (Gate σ × Gate σ)} {g : Gate σ} {i : ClientId} {k' : FlashGate.Command}
    {c : Control} (h : Course T env id k g₀ moves g) (apart : i ≠ id)
    (turned : g.control.begin? i k' = some c) : Course T env id k g₀ moves { g with control := c }
  | outside {moves : List (Gate σ × Gate σ)} {g : Gate σ} {device : σ}
    (h : Course T env id k g₀ moves g) (change : env g.bus.device device) :
    Course T env id k g₀ moves { g with bus := { g.bus with device } }

variable {T : Transport σ} {env : σ → σ → Prop} {id : ClientId} {k : FlashGate.Command}
  {g₀ g : Gate σ} {moves : List (Gate σ × Gate σ)}

theorem busy_of_move? {c : Control} {m : Move} (move : c.move? (.client id) = some m) :
    c.clientMove? id = some m ∧ (c.client id).task.isIdle = false := by
  rw [Control.move?_client (Control.alive_of_move? move)] at move
  refine ⟨move, ?_⟩
  cases idle : (c.client id).task.isIdle with
  | false => rfl
  | true =>
    rw [Control.clientMove?, Task.eq_idle idle] at move
    cases move

theorem Course.reach (h : Course T env id k g₀ moves g) : Reach T env g₀ g := by
  induction h with
  | begin h => exact .step .refl (.begin h)
  | own _ move ih => exact .step ih (.move move)
  | other _ _ move ih => exact .step ih (.move move)
  | turns _ _ turned ih => exact .step ih (.begin turned)
  | outside _ change ih => exact .outside ih change

theorem Course.idle (h : Course T env id k g₀ moves g) : (g₀.control.client id).task = .idle := by
  induction h with
  | begin h => exact Control.idle_of_begin? h
  | _ => assumption

theorem Course.sound (h : Course T env id k g₀ moves g) (sound : g₀.control.Sound) :
    g.control.Sound := h.reach.invariant sound fun _ _ _ _ hc goes => goes.sound hc

theorem client_other {c next : Control} {who : Actor} {events : List Event}
    (goes : c.Goes who next events) (apart : who ≠ .client id) : next.client id = c.client id := by
  cases goes with
  | dispatcher h => exact h.client id
  | @client i _ _ h =>
    obtain ⟨e, d, -, -, rfl⟩ := h
    rw [Control.client_turned, if_neg fun same => apart (by rw [same])]

/-- What holds of a client and its own moves when it turns to a command, and is kept by each of its
own moves, holds wherever the command has come. -/
theorem Course.invariant {P : List (Gate σ × Gate σ) → Client → Prop}
    (h : Course T env id k g₀ moves g) (sound : g₀.control.Sound)
    (begin : ∀ c, g₀.control.begin? id k = some c → P [(g₀, ⟨c, g₀.bus⟩)] (c.client id))
    (own : ∀ moves g m, g.control.Sound → P moves (g.control.client id) →
      g.control.move? (.client id) = some m →
      P (moves ++ [(g, perform T .single (.client id) m g.bus)])
        ((perform T .single (.client id) m g.bus).control.client id)) :
    P moves (g.control.client id) := by
  induction h with
  | begin h => exact begin _ h
  | own h move ih => exact own _ _ _ (h.sound sound) ih move
  | other _ apart move ih =>
    obtain ⟨_, _, _, _, goes⟩ := perform_goes (T := T) move
    rwa [client_other goes apart]
  | turns _ apart turned ih =>
    have goes : Control.Goes _ _ _ _ := .client (Control.begin?_turn turned)
    rwa [client_other goes fun same => apart (by cases same; rfl)]
  | outside _ _ ih => exact ih

/-- The moves of a client while nobody else moves, at most so many, after those made so far. -/
def alone (T : Transport σ) (id : ClientId) :
    Nat → List (Gate σ × Gate σ) → Gate σ → List (Gate σ × Gate σ) × Gate σ
  | 0, moves, g => (moves, g)
  | n + 1, moves, g =>
    match g.control.move? (.client id) with
    | none => (moves, g)
    | some m =>
      let next := perform T .single (.client id) m g.bus
      alone T id n (moves ++ [(g, next)]) next

theorem Course.alone (n : Nat) :
    ∀ {moves : List (Gate σ × Gate σ)} {g : Gate σ}, Course T env id k g₀ moves g →
      Course T env id k g₀ (Gate.alone T id n moves g).1 (Gate.alone T id n moves g).2 := by
  induction n with
  | zero => exact fun h => h
  | succ n ih =>
    intro moves g h
    rw [Gate.alone]
    split
    · exact h
    next m move => exact ih (h.own move)

/-! ## Net changes -/

/-- How much the moves change a number of the control state, all together. -/
def netChange (f : Control → Nat) : List (Gate σ × Gate σ) → Int
  | [] => 0
  | p :: rest => ((f p.2.control : Int) - f p.1.control) + netChange f rest

theorem netChange_append (f : Control → Nat) (moves : List (Gate σ × Gate σ))
    (p : Gate σ × Gate σ) :
    netChange f (moves ++ [p]) = netChange f moves + ((f p.2.control : Int) - f p.1.control) := by
  induction moves with
  | nil => simp [netChange]
  | cons q rest ih => simp [netChange, ih, Int.add_assoc]

/-- A number that the client's own moves change as they change a number of the client's own. -/
theorem Course.netChange {f : Control → Nat} {own : Client → Nat} (h : Course T env id k g₀ moves g)
    (sound : g₀.control.Sound)
    (same : ∀ (c next : Control) (events : List Event), c.Sound → c.Turns id next events →
      (f next : Int) - f c = (own (next.client id) : Int) - own (c.client id)) :
    Gate.netChange f moves = (own (g.control.client id) : Int) - own (g₀.control.client id) := by
  refine h.invariant (P := fun moves d =>
    Gate.netChange f moves = (own d : Int) - own (g₀.control.client id)) sound (fun c begun => ?_)
    fun moves g m sound ih move => ?_
  · simpa [Gate.netChange] using same _ _ _ sound (Control.begin?_turn begun)
  · obtain ⟨_, _, _, _, goes⟩ := perform_goes (T := T) move
    cases goes with
    | client turns =>
      rw [netChange_append, ih, same _ _ _ sound turns]
      omega

/-- The client's own moves add to the spin lock what the client has more of its levels in the end.
-/
theorem Course.netChange_spin (h : Course T env id k g₀ moves g) (sound : g₀.control.Sound) :
    Gate.netChange (·.spin.count) moves =
      ((g.control.client id).levels : Int) - (g₀.control.client id).levels := by
  refine h.netChange sound fun c next events sound turns => ?_
  obtain ⟨e, d, turn, allowed, rfl⟩ := turns
  rw [Control.client_turned, if_pos rfl]
  exact turn.count allowed sound.locks

/-- So they do to its levels of admission. -/
theorem Course.netChange_admission (h : Course T env id k g₀ moves g) (sound : g₀.control.Sound) :
    Gate.netChange (·.admission.level id) moves =
      ((g.control.client id).entries : Int) - (g₀.control.client id).entries := by
  refine h.netChange sound fun c next events sound turns => ?_
  rw [sound.locks.level, (turns.locks sound.locks).level]

end Gate

end FlashGate

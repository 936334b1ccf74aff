/-
Two chips that differ in the submode of their fast-read hardware. Nothing but a fetch tells them
apart, and the dispatcher selects a submode before it fetches. Main statements: `selected_serve`,
that a job keeps to this, and `perform_alike`, that the chips then give the same answers.
-/
import FlashGate.Chip
import FlashGate.Proofs.Transfer

namespace FlashGate

/-- Whether the call selects a submode. -/
def Call.isSelect : Call → Bool
  | .fastReadSetMode _ => true
  | _ => false

/-- The world of an observer who knows whether a submode has been selected, and lets fetches pass
only then. -/
def World.selected : World Bool where
  permits known c := c.isFetch = true → known = true
  reacts known c _ known' := known' = (known || c.isSelect)

namespace Transfer

open Script

variable {known : Bool}

theorem selected_polls : World.selected.Polls (fun _ _ => True) known := by
  intro c hc
  have plain : c.isFetch = false ∧ c.isSelect = false := by
    cases c <;> first | exact ⟨rfl, rfl⟩ | cases hc
  refine ⟨fun h => (by rw [plain.1] at h; cases h), fun r w hr => ?_⟩
  cases r with
  | error f => trivial
  | ok x =>
    have hr : w = (known || c.isSelect) := hr
    rw [hr, plain.2, Bool.or_false]

theorem selected_only {α : Type} {s : Script α} (h : s.Only fun c => c.isFetch = false) :
    s.Always World.selected (fun _ _ => True) known := by
  refine h.passes (fun _ c hc fetch => ?_) fun _ => selected_polls
  rw [hc] at fetch
  cases fetch

theorem selected_ask {c : Call} (h : c.isFetch = false) :
    (ask c).Always World.selected (fun _ _ => True) known :=
  selected_only (only_ask h)

theorem selected_connect (policy : RetryPolicy) :
    (connect policy).Always World.selected (fun _ _ => True) known :=
  selected_only (only_connect (by rfl) (by exact fun _ => rfl) policy)

theorem selected_moves : Moves World.selected (fun _ _ => True) (fun _ _ => True) where
  disconnect := by
    intro p known _
    refine Always.mono ?_ (selected_ask (c := .disconnect) rfl)
    rintro (f | ⟨⟩) _ -
    · trivial
    · trivial
  shutdown := by
    intro p known _
    refine Always.mono ?_ (selected_ask (c := .fastReadShutdown) rfl)
    rintro (f | ⟨⟩) _ -
    · trivial
    · trivial
  claim := by
    intro p known _ _
    refine always_bind.2 (Always.mono ?_ (selected_ask (c := .fastReadSetup) rfl))
    rintro (f | ⟨⟩) known' -
    · trivial
    · refine Always.mono ?_ (selected_ask (c := .fastReadApplyCalibration) rfl)
      rintro (f | ⟨⟩) _ -
      · trivial
      · trivial

/-- An operation selects a submode before it fetches. -/
theorem selected_perform (s : Setup) (o : Operation) :
    (Control.perform s o).Always World.selected (fun _ _ => True) known := by
  cases ho : o.kind.isFastRead with
  | false =>
    exact selected_only ((only_perform_direct s ho).weaken (fun c hc => (direct_poll c hc).2)
      fun c hc => hc.2)
  | true =>
    cases o with
    | fastRead submode address length =>
      refine always_bind.2 (always_ask.2 ⟨fun h => (by cases h), ?_⟩)
      rintro (f | x) known' hk
      · trivial
      obtain rfl : known' = true := by rw [hk]; exact Bool.or_true _
      refine Always.mono (fun _ _ _ => trivial) (Only.always (I := fun known => known = true) ?_ ?_
        (only_fastRead (Control.zeros length) none) rfl)
      · rintro known c rfl -
        exact ⟨fun _ => rfl, fun r w hw => by rw [hw]; rfl⟩
      · rintro known rfl c hc
        refine ⟨fun _ => rfl, fun r w hw => ?_⟩
        have hw : w = true := hw
        cases r <;> exact hw
    | _ => cases ho

/-- A job selects a submode before it fetches. -/
theorem selected_serve (s : Setup) (m : Mode) (o : Operation) :
    (Control.serve s m o).Always World.selected (fun _ _ => True) known := by
  refine always_bind.2 (Always.mono ?_ (always_reconfigure_to selected_moves (fun _ _ h => h)
    (fun _ _ => Always.mono (fun _ _ _ => ?_) (selected_connect _)) o.kind trivial))
  · rintro (f | ⟨e | ⟨⟩⟩) known' -
    · trivial
    · exact always_bind.2 (always_log.2 trivial)
    · exact selected_perform s o
  · unfold Arrives
    split <;> trivial

theorem selected_release (s : Setup) (m : Mode) :
    (Control.release s m).Always World.selected (fun _ _ => True) known := by
  refine always_bind.2 (Always.mono ?_ (always_reconfigure_release selected_moves trivial))
  rintro (f | ⟨e | ⟨⟩⟩) known' h
  · trivial
  · exact h.elim
  · trivial

end Transfer

namespace Chip

open Script

/-- The chip with another submode selected. -/
def submoded (chip : Chip) (m : Submode) : Chip := { chip with submode := m }

/-- Nothing but a fetch depends on the submode, and nothing but a selection changes it. -/
theorem perform_submoded (chip : Chip) (m : Submode) {c : Call} (hf : c.isFetch = false)
    (hs : c.isSelect = false) :
    ((chip.submoded m).perform c).reply = (chip.perform c).reply ∧
      ((chip.submoded m).perform c).device = (chip.perform c).device.submoded m := by
  cases c with
  | fastRead => cases hf
  | fastReadSetMode => cases hs
  | connect =>
    by_cases h : chip.connectFailuresLeft > 0 <;> simp [perform, connect, submoded, h]
  | readRaw command address buffer =>
    by_cases h : chip.memory.holds address.toNat buffer.length = true <;>
      simp [perform, readRaw, submoded, h]
  | isBusy =>
    by_cases h : 0 < chip.busy <;> simp [perform, poll, submoded, h]
  | sendCommand command =>
    by_cases hw : chip.writeEnabled = true <;>
      simp only [perform, sendCommand, submoded, begin, hw] <;> (repeat' split) <;> simp_all
  | programPage command address data =>
    by_cases hw : chip.writeEnabled = true <;>
      by_cases hh : chip.memory.holds address.toNat data.length = true <;>
      simp only [perform, programPage, submoded, begin, hw, hh] <;> (repeat' split) <;> simp_all
  | eraseSector command address =>
    by_cases hw : chip.writeEnabled = true <;>
      simp only [perform, eraseSector, submoded, begin, hw] <;> (repeat' split) <;> simp_all
  | _ => exact ⟨rfl, rfl⟩

/-- Chips that differ in the submode at most, and in nothing once it is known. -/
def Alike (known : Bool) (d d' : Chip) : Prop :=
  (∃ m, d = d'.submoded m) ∧ (known = true → d = d')

/-- Chips that are alike give the same answers and stay alike, as long as no submode is fetched in
that is not known. -/
theorem perform_alike {known : Bool} {d d' : Chip} (h : Alike known d d') {c : Call}
    (permitted : World.selected.permits known c) :
    (d.perform c).reply = (d'.perform c).reply ∧
      Alike (known || c.isSelect) (d.perform c).device (d'.perform c).device := by
  obtain ⟨⟨m, rfl⟩, same⟩ := h
  cases known with
  | true =>
    rw [same rfl]
    exact ⟨rfl, ⟨_, rfl⟩, fun _ => rfl⟩
  | false =>
    have hf : c.isFetch = false := by
      cases hc : c.isFetch with
      | false => rfl
      | true => cases permitted hc
    cases hs : c.isSelect with
    | false =>
      obtain ⟨reply, device⟩ := d'.perform_submoded m hf hs
      exact ⟨reply, ⟨m, device⟩, nofun⟩
    | true =>
      cases c with
      | fastReadSetMode => exact ⟨rfl, ⟨_, rfl⟩, fun _ => rfl⟩
      | _ => cases hs

end Chip

end FlashGate

import LteUe.Layers.Observed
import LteUe.Proofs.Lifetime.Operations

/-!
# Starts that succeed

What a call does that starts a stack, one step after the other, is known beforehand if the layers come up
(`Lifetime.starting`). If they hand no job to the workers on the way, the start leaves the queues and the
workers alone (`Lifetime.run_starting`).
-/

namespace LteUe

variable {L κ α : Type}

/-- What brings the layers up hands no job to the workers. -/
structure Layers.Jobless (L : Type) {κ : Type} [Layers L κ] : Prop where
  usim : Moves (fun y y' : L × Surroundings κ => y'.2.pool = y.2.pool) Layers.usimInit
  raised {h : Hook L κ Unit} :
    Layers.Raised h → Moves (fun y y' : L × Surroundings κ => y'.2.pool = y.2.pool) h

namespace Work

/-- The queues, the workers and the count of the packets refused stay as they are. -/
structure Spares (y y' : Executor L κ × Shared κ) : Prop where
  dispatcher : y'.2.dispatcher = y.2.dispatcher
  pool : y'.2.pool = y.2.pool
  uplinkDropped : y'.2.uplinkDropped = y.2.uplinkDropped

theorem composes_spares : Composes (Spares : Executor L κ × Shared κ → _ → Prop) where
  refl _ := ⟨rfl, rfl, rfl⟩
  trans h h' := ⟨h'.dispatcher.trans h.dispatcher, h'.pool.trans h.pool,
    h'.uplinkDropped.trans h.uplinkDropped⟩

theorem spares_hook {h : Hook L κ α} (hh : Moves (fun y y' : L × Surroundings κ => y'.2.pool = y.2.pool) h) :
    Moves Spares (hook h) := by
  rintro ⟨e, s⟩
  rw [outcome_hook_eq]
  exact ⟨rfl, hh (e.layers, s.toSurroundings), rfl⟩

end Work

variable [Layers L κ] {radio : Radio} {sinks : Sinks}

theorem Rung.spares_work (hL : Layers.Jobless (κ := κ) L) (r : Rung) :
    Moves Work.Spares (r.work radio sinks : Work L κ Unit) := by
  have hc : Composes (@Work.Spares L κ) := Work.composes_spares
  cases r with
  | mac => exact Work.spares_hook (hL.raised .macInit)
  | rlc => exact Work.spares_hook (hL.raised .rlcInit)
  | pdcp => exact Work.spares_hook (hL.raised .pdcpInit)
  | nas => exact Work.spares_hook (hL.raised .nasInit)
  | rrc => exact Work.spares_hook (hL.raised .rrcInit)
  | radio =>
    refine moves_modify fun y => ?_
    obtain ⟨_, _, ha⟩ := Stack.shared_attachRadio radio y.2
    show Work.Spares y (y.1, Stack.attachRadio radio y.2)
    rw [ha]
    exact ⟨rfl, rfl, rfl⟩
  | capture layer =>
    have hs := fun layer => Work.spares_hook (hL.raised (.captureBegun layer))
    cases layer with
    | mac | nas =>
      exact hc.bind hc.get fun _ => Work.moves_startCapture hc (hs _) (fun _ _ _ => ⟨rfl, rfl, rfl⟩) _ _ _

namespace Lifetime

variable {x y : Lifetime L κ} {n : Nat} {ev : Event}

/-- What happens when call `n` starts a stack and the layers come up. -/
def starting (n : Nat) (radio : Radio) : List Event :=
  [.initEntered n radio .uninitialized, .usim n (.ok ())] ++ Rung.all.map (.raised n) ++
    [.worked, .worked, .initReturned n (.ok ())]

theorem Alone.aside (hL : Layers.Jobless (κ := κ) L) (h : Alone x ev y) (hc : ev.call? ≠ none) :
    Aside x ev y := by
  cases h.step with
  | enterInit | refuseInit | returnInit | enterShutdown | returnShutdown =>
    exact ⟨h, ⟨rfl, rfl, rfl⟩, rfl, rfl, rfl⟩
  | usimUp _ hu | usimFails _ hu =>
    have hs := (Work.spares_hook hL.usim).of_ok hu
    exact ⟨h, ⟨rfl, rfl, rfl⟩, hs.dispatcher, hs.pool, hs.uplinkDropped⟩
  | raise _ hr =>
    have hs := (Rung.spares_work hL _).of_ok hr
    exact ⟨h, ⟨rfl, rfl, rfl⟩, hs.dispatcher, hs.pool, hs.uplinkDropped⟩
  | _ => exact absurd rfl hc

/-- A start whose layers come up takes its steps one after the other, and each of them goes on beside the tasks. -/
theorem run_starting (hL : Layers.Jobless (κ := κ) L) (layers : L) (sinks : Sinks) {s : Stack L κ}
    (hh : x.holder = none) (h : Stack.init layers radio sinks x.toStack = .ok (.ok ()) s) :
    Run Aside x (starting x.calls radio) { x with toStack := s, calls := x.calls + 1 } := by
  have hcalls : ∀ ev ∈ Event.initEntered x.calls radio x.state :: .usim x.calls (.ok ()) ::
      Rung.all.map (.raised x.calls), ev.call? ≠ none := by
    simp [Rung.all, Event.call?]
  unfold Stack.init at h
  rw [hh]
  split at h
  · cases h
  · rename_i hs
    have hs := not_not.1 hs
    split at h
    · cases h
    · cases h
    · rename_i e shared hb
      cases h
      have h₁ := (alone_raised hh hs hb).mono fun he ha => ha.aside hL (hcalls _ he)
      rw [hs] at h₁
      exact h₁.append (aside_up rfl)

end Lifetime

/-! ## Observed layers -/

theorem ObservedLayers.jobless : Layers.Jobless ObservedLayers where
  usim _ := rfl
  raised h := by
    have hc : Composes fun y y' : ObservedLayers × Surroundings Callback => y'.2.pool = y.2.pool :=
      ⟨fun _ => rfl, fun h h' => h'.trans h⟩
    cases h with
    | macInit | rlcInit | pdcpInit | nasInit | rrcInit => exact fun _ => rfl
    | captureBegun layer =>
      show Moves _ (captureBegun layer)
      refine hc.bind (x := Hook.surroundings) (fun _ => rfl) fun s => ?_
      cases s.captures.get layer with
      | none => exact hc.pure _
      | some c => cases layer <;> exact fun _ => rfl

end LteUe

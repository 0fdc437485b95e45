import LteUe.Proofs.Executor.Handles
import LteUe.Proofs.Executor.Replay

/-!
# Layers that only write

Of a capture layers get a handle that lets them write, and not close (`Layers.WriteOnly`). So all that a task does
to the captures is to write to them (`Work.writes_perform`), but for the one that ends the executor: it closes them
once the layers have stopped (`Work.teardown_cases`).
-/

namespace LteUe

variable {L κ α : Type}

/-- Packets have been written to the captures, by whichever layer. -/
def Captures.Written : Captures → Captures → Prop :=
  Relation.ReflTransGen fun c c' => ∃ layer pdu w, c' = (c.write layer pdu w).1

/-- Nothing has become of the captures but that packets have been written to them. -/
def Writes (y y' : L × Surroundings κ) : Prop := y.2.captures.Written y'.2.captures

theorem composes_writes : Composes (Writes : L × Surroundings κ → L × Surroundings κ → Prop) where
  refl _ := .refl
  trans h h' := h.trans h'

theorem Writes.of_eq {y y' : L × Surroundings κ} (h : y'.2.captures = y.2.captures) : Writes y y' := by
  unfold Writes
  rw [h]
  exact .refl

theorem scenic_writes : Work.Scenic (Writes : L × Surroundings κ → L × Surroundings κ → Prop) where
  toComposes := composes_writes
  framed _ _ _ h := h

/-- Whatever the layers do, the captures are only written to. -/
abbrev Layers.WriteOnly (L : Type) {κ : Type} [Layers L κ] : Prop := Layers.Within L Writes

theorem Handled.writes {y y' : L × Surroundings κ} (h : Handled y y') : Writes y y' := by
  refine h.keeps composes_writes (fun _ _ _ => .of_eq rfl) fun l r r' hu => ?_
  cases hu with
  | note | report => exact .of_eq rfl
  | startSearch | startSelect => exact .of_eq (r.apart_submitRadio _).1
  | capture layer pdu => exact .single ⟨layer, pdu, r.world, rfl⟩
  | defer ticks c =>
    unfold Surroundings.defer
    split
    · exact .of_eq rfl
    · exact .of_eq rfl

theorem ObservedLayers.writeOnly : Layers.WriteOnly ObservedLayers := handled.mono Handled.writes

theorem SimLayers.writeOnly : Layers.WriteOnly SimLayers := handled.mono Handled.writes

/-! ## Tasks -/

namespace Work

variable [Layers L κ] {y z : Executor L κ × Shared κ}

theorem admits_writes (hL : Layers.WriteOnly L) :
    AdmitsTasks fun y y' : Executor L κ × Shared κ => Writes (scene y) (scene y') where
  refl _ := composes_writes.refl _
  trans := composes_writes.trans
  calm hc := .of_eq hc.captures
  hook hc := scenic_writes.hook (hL.called hc)
  tick := scenic_writes.tickTimers hL.fire

theorem writes_perform (hL : Layers.WriteOnly L) {c : Command} (hc : c ≠ .teardown) :
    Writes (scene y) (scene (outcome (perform c) y).2) := (admits_writes hL).perform_of_ne hc y

/-- If a hook that stops a layer faults, the captures are not closed. -/
theorem teardown_cases (hL : Layers.WriteOnly L) (y : Executor L κ × Shared κ) :
    (∃ f, (outcome (perform .teardown) y).1 = .error f ∧
        Writes (scene y) (scene (outcome (perform .teardown) y).2)) ∨
      ∃ v r, Writes (scene y) (scene v) ∧ (outcome (perform .teardown) y).1 = .ok r ∧
        (outcome (perform .teardown) y).2.2.captures = (v.2.captures.close v.2.world).1 := by
  have hstop := (admits_writes hL).stop ({ y.1 with running := false }, y.2)
  have hperform : outcome (perform .teardown : Work L κ Reply) y = outcome (do
      stopLayers
      closeCaptures
      return .done : Work L κ Reply) ({ y.1 with running := false }, y.2) := by
    show outcome (teardown >>= fun _ => pure Reply.done : Work L κ Reply) y = _
    rw [teardown_eq, bind_assoc, bind_assoc]
    rfl
  rw [hperform]
  cases hs : (stopLayers : Work L κ Unit) ({ y.1 with running := false }, y.2) with
  | error f v =>
    rw [outcome, hs] at hstop
    rw [outcome_bind_of_error hs]
    exact .inl ⟨f, rfl, hstop⟩
  | ok _ v =>
    rw [outcome, hs] at hstop
    rw [outcome_bind_of_ok hs]
    exact .inr ⟨v, .done, hstop, rfl, rfl⟩

end Work

end LteUe

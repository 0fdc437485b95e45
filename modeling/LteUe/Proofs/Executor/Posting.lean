import LteUe.Proofs.Executor.Handles

/-!
# Layers that only post

A handle to the stack lets layers post deferrals, and do nothing else with those that wait. So whatever
a hook does, the deferrals that waited before still wait after it, in front of those that it has posted
(`Hook.Posts`). Observed layers are of this kind.
-/

namespace LteUe

variable {L κ α : Type}

/-- The deferrals that waited still wait, and others may have been posted since. -/
def Posting (y y' : L × Surroundings κ) : Prop := ∃ posts, y'.2.deferred = y.2.deferred ++ posts

theorem composes_posting : Composes (Posting : L × Surroundings κ → L × Surroundings κ → Prop) where
  refl _ := ⟨[], (List.append_nil _).symm⟩
  trans := by
    rintro s t u ⟨p, hp⟩ ⟨q, hq⟩
    exact ⟨p ++ q, by rw [hq, hp, List.append_assoc]⟩

theorem Posting.of_eq {y y' : L × Surroundings κ} (h : y'.2.deferred = y.2.deferred) : Posting y y' :=
  ⟨[], by rw [h, List.append_nil]⟩

/-- The hook takes back no deferral that has been posted. -/
abbrev Hook.Posts (h : Hook L κ α) : Prop := Moves Posting h

/-- No hook takes a deferral back, and no callback. -/
structure Layers.PostOnly (L : Type) {κ : Type} [Layers L κ] : Prop where
  hook {α : Type} {h : Hook L κ α} : Layers.Called h → h.Posts
  fire (c : κ) : Hook.Posts (Layers.fire c : Hook L κ κ)

theorem Handled.posting {y y' : L × Surroundings κ} (h : Handled y y') : Posting y y' := by
  refine h.keeps composes_posting (fun _ _ _ => .of_eq rfl) fun l r r' hu => ?_
  cases hu with
  | note | report | capture => exact .of_eq rfl
  | startSearch | startSelect => exact .of_eq (r.apart_submitRadio _).2
  | defer ticks c =>
    unfold Surroundings.defer
    split
    · exact .of_eq rfl
    · exact ⟨_, rfl⟩

theorem Layers.Within.postOnly [Layers L κ] (h : Layers.Within L Handled) : Layers.PostOnly L where
  hook hc := (h.called hc).mono Handled.posting
  fire c := (h.fire c).mono Handled.posting

theorem ObservedLayers.postOnly : Layers.PostOnly ObservedLayers := ObservedLayers.handled.postOnly

end LteUe

import LteUe.Fault

/-!
# Computations that may fault

What is known of a sequence of computations from what is known of each: when it succeeds
(`bind_eq_ok_iff`), where it can get, whether or not it does (`Moves`), and how it compares with another
one (`Relates`). Over a list, a computation that may have no result has one if it has one for each member
(`mapM_eq_some_map_iff`).
-/

namespace LteUe

variable {σ ε α β : Type} {s u : σ} {b : β}

theorem bind_eq_ok_iff {x : EStateM ε σ α} {f : α → EStateM ε σ β} :
    (x >>= f) s = .ok b u ↔ ∃ a t, x s = .ok a t ∧ f a t = .ok b u := by
  show EStateM.bind x f s = _ ↔ _
  unfold EStateM.bind
  cases x s with
  | ok a t =>
    constructor
    · intro h
      exact ⟨a, t, rfl, h⟩
    · rintro ⟨a', t', h, h'⟩
      cases h
      exact h'
  | error e t => simp

theorem bind_eq_error_iff {x : EStateM ε σ α} {f : α → EStateM ε σ β} {e : ε} :
    (x >>= f) s = .error e u ↔ x s = .error e u ∨ ∃ a t, x s = .ok a t ∧ f a t = .error e u := by
  show EStateM.bind x f s = _ ↔ _
  unfold EStateM.bind
  cases x s with
  | ok a t =>
    constructor
    · intro h
      exact .inr ⟨a, t, rfl, h⟩
    · rintro (h | ⟨a', t', h, h'⟩)
      · cases h
      · cases h
        exact h'
  | error e' t => simp

theorem pure_eq_ok_iff {a : β} : (pure a : EStateM ε σ β) s = .ok b u ↔ a = b ∧ s = u := by
  show EStateM.Result.ok a s = _ ↔ _
  simp

theorem get_bind (f : σ → EStateM ε σ β) : (get >>= f) s = f s s := rfl

theorem modify_bind (g : σ → σ) (f : PUnit → EStateM ε σ β) :
    ((modify g : EStateM ε σ PUnit) >>= f) s = f () (g s) := rfl

theorem outcome_bind_of_ok {x : EStateM ε σ α} {f : α → EStateM ε σ β} {a : α} (h : x s = .ok a u) :
    outcome (x >>= f) s = outcome (f a) u := by
  show outcome (EStateM.bind x f) s = _
  rw [outcome, EStateM.bind, h]
  rfl

theorem outcome_bind_of_error {x : EStateM ε σ α} {f : α → EStateM ε σ β} {e : ε} (h : x s = .error e u) :
    outcome (x >>= f) s = (.error e, u) := by
  show outcome (EStateM.bind x f) s = _
  rw [outcome, EStateM.bind, h]

/-- Whatever becomes of `x`, it ends in a state that `R` relates to the one in which it began. -/
def Moves (R : σ → σ → Prop) (x : EStateM ε σ α) : Prop := ∀ s, R s (outcome x s).2

theorem Moves.of_ok {R : σ → σ → Prop} {x : EStateM ε σ β} (h : Moves R x) (hx : x s = .ok b u) :
    R s u := by
  have := h s
  rwa [outcome, hx] at this

theorem Moves.of_error {R : σ → σ → Prop} {x : EStateM ε σ β} {e : ε} (h : Moves R x)
    (hx : x s = .error e u) : R s u := by
  have := h s
  rwa [outcome, hx] at this

theorem Moves.mono {R S : σ → σ → Prop} {x : EStateM ε σ α} (h : Moves R x)
    (hRS : ∀ {s t}, R s t → S s t) : Moves S x := fun s => hRS (h s)

/-- What is known of one computation, and of the next wherever it begins. -/
theorem Moves.bind {R S T : σ → σ → Prop} {x : EStateM ε σ α} {f : α → EStateM ε σ β}
    (hx : Moves R x) (hf : ∀ a, Moves S (f a)) (h : ∀ {s t u}, R s t → S t u → T s u)
    (h' : ∀ {s t}, R s t → T s t) : Moves T (x >>= f) := by
  intro s
  show T s (outcome (EStateM.bind x f) s).2
  unfold outcome EStateM.bind
  cases hs : x s with
  | ok a t => exact h (hx.of_ok hs) (hf a t)
  | error e t => exact h' (hx.of_error hs)

theorem Moves.ite {R : σ → σ → Prop} {p : Prop} [Decidable p] {x y : EStateM ε σ α} (hx : Moves R x)
    (hy : Moves R y) : Moves R (if p then x else y) := by
  split
  · exact hx
  · exact hy

/-- A relation that holds of doing nothing, and of one thing after the other. -/
structure Composes (R : σ → σ → Prop) : Prop where
  refl (s : σ) : R s s
  trans {s t u : σ} : R s t → R t u → R s u

namespace Composes

variable {R : σ → σ → Prop} (h : Composes R)

include h

theorem pure (a : α) : Moves R (Pure.pure a : EStateM ε σ α) := h.refl

theorem throw (e : ε) : Moves R (MonadExcept.throw e : EStateM ε σ α) := h.refl

theorem get : Moves R (MonadState.get : EStateM ε σ σ) := h.refl

theorem bind {x : EStateM ε σ α} {f : α → EStateM ε σ β} (hx : Moves R x)
    (hf : ∀ a, Moves R (f a)) : Moves R (x >>= f) := hx.bind hf h.trans id

theorem forM {l : List β} {f : β → EStateM ε σ Unit} (hf : ∀ b, Moves R (f b)) :
    Moves R (l.forM f) := by
  induction l with
  | nil => exact h.pure ()
  | cons b l ih => exact h.bind (hf b) fun _ => ih

theorem foldlM {l : List α} {f : β → α → EStateM ε σ β} (hf : ∀ b a, Moves R (f b a)) {b : β} :
    Moves R (l.foldlM f b) := by
  induction l generalizing b with
  | nil => exact h.pure b
  | cons a l ih =>
    rw [List.foldlM_cons]
    exact h.bind (hf b a) fun _ => ih

end Composes

/-! ## Side by side -/

section Relates

variable {τ : Type} {ρ : σ → τ → Prop} {s' : τ}

/-- Two results answer the same or fault alike, and leave states that `ρ` relates. -/
inductive Matches (ρ : σ → τ → Prop) : EStateM.Result ε σ α → EStateM.Result ε τ α → Prop
  | ok {a : α} {s : σ} {s' : τ} : ρ s s' → Matches ρ (.ok a s) (.ok a s')
  | error {e : ε} {s : σ} {s' : τ} : ρ s s' → Matches ρ (.error e s) (.error e s')

/-- Begun in states that `ρ` relates, two computations have results that match. -/
def Relates (ρ : σ → τ → Prop) (x : EStateM ε σ α) (x' : EStateM ε τ α) : Prop :=
  ∀ s s', ρ s s' → Matches ρ (x s) (x' s')

theorem Relates.of_ok {x : EStateM ε σ α} {x' : EStateM ε τ α} {a : α} {t : σ} (h : Relates ρ x x')
    (hs : ρ s s') (hx : x s = .ok a t) : ∃ t', x' s' = .ok a t' ∧ ρ t t' := by
  have hm := h s s' hs
  rw [hx] at hm
  generalize x' s' = r at hm ⊢
  cases hm with
  | ok ht => exact ⟨_, rfl, ht⟩

theorem Relates.pure (a : α) : Relates ρ (Pure.pure a : EStateM ε σ α) (Pure.pure a) :=
  fun _ _ h => .ok h

theorem Relates.throw (e : ε) :
    Relates ρ (MonadExcept.throw e : EStateM ε σ α) (MonadExcept.throw e) := fun _ _ h => .error h

theorem Relates.ite {p : Prop} [Decidable p] {x y : EStateM ε σ α} {x' y' : EStateM ε τ α}
    (hx : Relates ρ x x') (hy : Relates ρ y y') : Relates ρ (if p then x else y) (if p then x' else y') := by
  split
  · exact hx
  · exact hy

theorem relates_modify {f : σ → σ} {f' : τ → τ} (h : ∀ s s', ρ s s' → ρ (f s) (f' s')) :
    Relates ρ (modify f : EStateM ε σ PUnit) (modify f') := fun s s' hs => .ok (h s s' hs)

theorem Relates.bind {x : EStateM ε σ α} {x' : EStateM ε τ α} {f : α → EStateM ε σ β}
    {f' : α → EStateM ε τ β} (hx : Relates ρ x x') (hf : ∀ a, Relates ρ (f a) (f' a)) :
    Relates ρ (x >>= f) (x' >>= f') := by
  intro s s' hs
  have hm := hx s s' hs
  show Matches ρ (EStateM.bind x f s) (EStateM.bind x' f' s')
  unfold EStateM.bind
  generalize x s = r at hm ⊢
  generalize x' s' = r' at hm ⊢
  cases hm with
  | ok ht => exact hf _ _ _ ht
  | error ht => exact .error ht

theorem Relates.foldlM {l : List α} {f : β → α → EStateM ε σ β} {f' : β → α → EStateM ε τ β}
    (hf : ∀ b a, Relates ρ (f b a) (f' b a)) (b : β) : Relates ρ (l.foldlM f b) (l.foldlM f' b) := by
  induction l generalizing b with
  | nil => exact .pure b
  | cons a l ih =>
    rw [List.foldlM_cons, List.foldlM_cons]
    exact (hf b a).bind fun b => ih b

theorem Relates.forM {l : List β} {f : β → EStateM ε σ Unit} {f' : β → EStateM ε τ Unit}
    (hf : ∀ b, Relates ρ (f b) (f' b)) : Relates ρ (l.forM f) (l.forM f') := by
  induction l with
  | nil => exact .pure ()
  | cons b l ih => exact (hf b).bind fun _ => ih

end Relates

theorem moves_modify {R : σ → σ → Prop} {f : σ → σ} (hf : ∀ s, R s (f s)) :
    Moves R (modify f : EStateM ε σ PUnit) := hf

/-! ## One result for each member of a list -/

theorem mapM_congr {l : List α} {f g : α → Option β} (h : ∀ a ∈ l, f a = g a) : l.mapM f = l.mapM g := by
  induction l with
  | nil => rfl
  | cons a l ih =>
    rw [List.mapM_cons, List.mapM_cons, h a List.mem_cons_self, ih fun b hb => h b (List.mem_cons_of_mem _ hb)]

theorem mapM_eq_some_map_iff {l : List α} {f : α → Option β} {g : α → β} :
    l.mapM f = some (l.map g) ↔ ∀ a ∈ l, f a = some (g a) := by
  induction l with
  | nil => simp
  | cons a l ih => simp [List.mapM_cons, Option.bind_eq_some_iff, ih]

end LteUe

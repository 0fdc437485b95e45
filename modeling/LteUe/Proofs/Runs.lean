import Mathlib.Data.List.Induction

/-!
# Runs

A system is given by its steps: which event may take it from which state to which other. A run is the
list of the events that take it from a first state to a last one, oldest event first. What every step
keeps, every run keeps (`Run.invariant`), and a run splits wherever its list of events does
(`run_append_iff`).
-/

namespace LteUe

variable {σ ε : Type} {step : σ → ε → σ → Prop} {s t u : σ} {e : ε} {l m : List ε}

/-- The runs of a system from `s`: their events and the states in which they end. -/
inductive Run (step : σ → ε → σ → Prop) (s : σ) : List ε → σ → Prop
  | nil : Run step s [] s
  | snoc {l : List ε} {t u : σ} {e : ε} : Run step s l t → step t e u → Run step s (l ++ [e]) u

theorem run_nil_iff : Run step s [] u ↔ u = s := by
  constructor
  · intro h
    generalize hl : ([] : List ε) = l at h
    cases h with
    | nil => rfl
    | snoc _ _ => simp at hl
  · rintro rfl
    exact .nil

theorem run_snoc_iff : Run step s (l ++ [e]) u ↔ ∃ t, Run step s l t ∧ step t e u := by
  constructor
  · intro h
    generalize hl : l ++ [e] = m at h
    cases h with
    | nil => simp at hl
    | @snoc l' t _ e' h h' =>
      obtain ⟨rfl, he⟩ := List.append_inj' hl rfl
      obtain rfl : e = e' := by simpa using he
      exact ⟨t, h, h'⟩
  · rintro ⟨t, h, h'⟩
    exact h.snoc h'

theorem run_append_iff : Run step s (l ++ m) u ↔ ∃ t, Run step s l t ∧ Run step t m u := by
  induction m using List.reverseRecOn generalizing u with
  | nil => simp [run_nil_iff]
  | append_singleton m e ih =>
    rw [← List.append_assoc, run_snoc_iff]
    constructor
    · rintro ⟨v, h, h'⟩
      obtain ⟨t, h₁, h₂⟩ := ih.1 h
      exact ⟨t, h₁, h₂.snoc h'⟩
    · rintro ⟨t, h₁, h₂⟩
      obtain ⟨v, h₂, h'⟩ := run_snoc_iff.1 h₂
      exact ⟨v, ih.2 ⟨t, h₁, h₂⟩, h'⟩

theorem run_singleton_iff : Run step s [e] u ↔ step s e u := by
  rw [← List.nil_append [e], run_snoc_iff]
  simp [run_nil_iff]

theorem run_cons_iff : Run step s (e :: l) u ↔ ∃ t, step s e t ∧ Run step t l u := by
  rw [← List.singleton_append, run_append_iff]
  simp only [run_singleton_iff]

theorem Run.append (h : Run step s l t) (h' : Run step t m u) : Run step s (l ++ m) u :=
  run_append_iff.2 ⟨t, h, h'⟩

theorem Run.cons (h : step s e t) (h' : Run step t l u) : Run step s (e :: l) u :=
  run_cons_iff.2 ⟨t, h, h'⟩

theorem exists_run_cons (h : step s e t) (h' : ∃ u, Run step t l u) : ∃ u, Run step s (e :: l) u :=
  h'.imp fun _ h' => .cons h h'

theorem exists_run_cons_and {P : σ → Prop} (h : step s e t) (h' : ∃ u, Run step t l u ∧ P u) :
    ∃ u, Run step s (e :: l) u ∧ P u :=
  h'.imp fun _ h' => ⟨.cons h h'.1, h'.2⟩

/-- What holds at first and is kept by every step holds at the end of every run. -/
theorem Run.invariant {P : σ → Prop} (h : Run step s l u) (hs : P s)
    (hstep : ∀ t e u, P t → step t e u → P u) : P u := by
  induction h with
  | nil => exact hs
  | snoc _ h' ih => exact hstep _ _ _ ih h'

/-- A run is one of another system as well, with states and events seen through `g` and `f`, if each of its
steps is a step of that system. -/
theorem Run.map {τ ζ : Type} {step' : τ → ζ → τ → Prop} {f : ε → ζ} {g : σ → τ} (h : Run step s l u)
    (hstep : ∀ {t e u}, e ∈ l → step t e u → step' (g t) (f e) (g u)) : Run step' (g s) (l.map f) (g u) := by
  induction h with
  | nil => exact .nil
  | snoc _ h' ih =>
    rw [List.map_append]
    exact (ih fun he => hstep (List.mem_append_left _ he)).snoc
      (hstep (List.mem_append_right _ (List.mem_singleton_self _)) h')

theorem Run.mapState {τ : Type} {step' : τ → ε → τ → Prop} {g : σ → τ} (h : Run step s l u)
    (hstep : ∀ {t e u}, e ∈ l → step t e u → step' (g t) e (g u)) : Run step' (g s) l (g u) := by
  simpa using h.map (f := id) hstep

theorem Run.mono {step' : σ → ε → σ → Prop} (h : Run step s l u)
    (hstep : ∀ {t e u}, e ∈ l → step t e u → step' t e u) : Run step' s l u :=
  h.mapState (g := id) hstep

theorem exists_run_append (h : Run step s l t) (h' : ∃ u, Run step t m u) : ∃ u, Run step s (l ++ m) u :=
  h'.imp fun _ h' => h.append h'

theorem exists_run_append_and {P : σ → Prop} (h : Run step s l t) (h' : ∃ u, Run step t m u ∧ P u) :
    ∃ u, Run step s (l ++ m) u ∧ P u :=
  h'.imp fun _ h' => ⟨h.append h'.1, h'.2⟩

theorem Run.exists_step (h : Run step s l u) (he : e ∈ l) : ∃ t t', step t e t' := by
  induction h with
  | nil => simp at he
  | @snoc m t t' e' _ h' ih =>
    obtain he | he := List.mem_append.1 he
    · exact ih he
    · obtain rfl := List.mem_singleton.1 he
      exact ⟨t, t', h'⟩

theorem filterMap_snoc {α β : Type} (f : α → Option β) (l : List α) (a : α) :
    (l ++ [a]).filterMap f = l.filterMap f ++ (f a).toList := by
  rw [List.filterMap_append]
  cases h : f a <;> simp [h]

end LteUe

import LteUe.Proofs.Executor.Moves
import LteUe.Proofs.Timer.Stepping

/-!
# Two executors side by side

Two executors run the same ticks on layers that may differ, and in surroundings that may differ. If medium
access control and the timer callbacks cannot tell the two apart (`Layers.Couples`), then whatever else the
ticks leave is the same on both sides (`Work.relates_subTicks`).
-/

namespace LteUe

namespace TimerTable

variable {κ σ τ : Type} {ρ : σ → τ → Prop} {fire : κ → EStateM Fault σ κ} {fire' : κ → EStateM Fault τ κ}

/-- The tables are the same, and the contexts related. -/
def Beside (ρ : σ → τ → Prop) (y : TimerTable κ × σ) (y' : TimerTable κ × τ) : Prop :=
  y.1 = y'.1 ∧ ρ y.2 y'.2

theorem relates_onTable (f : TimerTable κ → TimerTable κ) :
    Relates (Beside ρ) (onTable f : EStateM Fault (TimerTable κ × σ) Unit) (onTable f) :=
  relates_modify fun _ _ h => ⟨congrArg f h.1, h.2⟩

theorem relates_inContext {α : Type} {x : EStateM Fault σ α} {x' : EStateM Fault τ α} (h : Relates ρ x x') :
    Relates (Beside ρ) (inContext x : EStateM Fault (TimerTable κ × σ) α) (inContext x') := by
  rintro ⟨t, s⟩ ⟨_, s'⟩ ⟨rfl, hs⟩
  have hm := h s s' hs
  unfold inContext
  dsimp only
  generalize x s = r at hm ⊢
  generalize x' s' = r' at hm ⊢
  cases hm with
  | ok hs => exact .ok ⟨rfl, hs⟩
  | error hs => exact .error ⟨rfl, hs⟩

variable (h : ∀ c, Relates ρ (fire c) (fire' c))

include h

theorem relates_expire (i : Nat) (s : TimerSlot κ) :
    Relates (Beside ρ) (expire fire i s) (expire fire' i s) := by
  refine (relates_onTable _).bind fun _ => ?_
  cases hc : s.callback with
  | none =>
    cases ho : s.oneShot with
    | true => exact relates_onTable (·.release ⟨i, s.generation⟩)
    | false => exact .pure ()
  | some c =>
    refine (relates_inContext (h c)).bind fun k => ?_
    cases ho : s.oneShot with
    | true => exact relates_onTable (·.release ⟨i, s.generation⟩)
    | false => exact (relates_onTable _).bind fun _ => .pure ()

theorem relates_stepSlot (i : Nat) : Relates (Beside ρ) (stepSlot fire i) (stepSlot fire' i) := by
  rintro ⟨t, x⟩ ⟨_, x'⟩ ⟨rfl, hx⟩
  by_cases hr : ∃ s, t.slots[i]? = some s ∧ s.IsRunning
  · obtain ⟨s, hs, hr⟩ := hr
    by_cases h1 : 1 < s.remaining
    · rw [stepSlot_of_running hs hr h1, stepSlot_of_running hs hr h1]
      exact .ok ⟨rfl, hx⟩
    · rw [stepSlot_of_due hs hr h1, stepSlot_of_due hs hr h1]
      exact ((relates_expire h i s).bind fun _ => .pure true) _ _ ⟨rfl, hx⟩
  · have hr : ∀ s, t.slots[i]? = some s → ¬ s.IsRunning := fun s hs h => hr ⟨s, hs, h⟩
    rw [stepSlot_of_not_running hr, stepSlot_of_not_running hr]
    exact .ok ⟨rfl, hx⟩

theorem relates_stepAll : Relates (Beside ρ) (stepAll fire) (stepAll fire') := by
  rintro ⟨t, x⟩ ⟨_, x'⟩ ⟨rfl, hx⟩
  exact Relates.foldlM (fun n i => (relates_stepSlot h i).bind fun b => .pure _) 0 _ _ ⟨rfl, hx⟩

end TimerTable

variable {L L' κ : Type}

/-- Medium access control and the timer callbacks cannot tell apart what `ρ` relates: they answer the same
and leave again what it relates. Nor can they if the deferrals posted are taken on both sides, or the
state of the stack and its radio are put back. -/
structure Layers.Couples [Layers L κ] [Layers L' κ]
    (ρ : L × Surroundings κ → L' × Surroundings κ → Prop) : Prop where
  macTick (tti : UInt32) : Relates ρ (Layers.macTick tti) (Layers.macTick tti)
  fire (c : κ) : Relates ρ (Layers.fire c) (Layers.fire c)
  deferred {l : L} {l' : L'} {r r' : Surroundings κ} : ρ (l, r) (l', r') → r.deferred = r'.deferred
  taken {l : L} {l' : L'} {r r' : Surroundings κ} :
    ρ (l, r) (l', r') → ρ (l, { r with deferred := [] }) (l', { r' with deferred := [] })
  putBack {l : L} {l' : L'} {r r' : Surroundings κ} (state : LifecycleState) (radio : Option Radio) :
    ρ (l, r) (l', r') →
      ρ (l, { r with state := state, radio := radio }) (l', { r' with state := state, radio := radio })

namespace Work

variable {ρ : L × Surroundings κ → L' × Surroundings κ → Prop} {α : Type}

/-- The layers and their surroundings are related, and all that ticks reach besides is the same. -/
structure Alongside (ρ : L × Surroundings κ → L' × Surroundings κ → Prop) (y : Executor L κ × Shared κ)
    (y' : Executor L' κ × Shared κ) : Prop where
  context : ρ (y.1.layers, y.2.toSurroundings) (y'.1.layers, y'.2.toSurroundings)
  timers : y.1.timers = y'.1.timers
  ticks : y.1.ticksProcessed = y'.1.ticksProcessed
  executed : y.1.tasksExecuted = y'.1.tasksExecuted
  faulted : y.1.tasksFaulted = y'.1.tasksFaulted
  running : y.1.running = y'.1.running
  state : y.2.state = y'.2.state
  radio : y.2.radio = y'.2.radio
  config : y.2.config = y'.2.config
  dispatcher : y.2.dispatcher = y'.2.dispatcher
  uplinkDropped : y.2.uplinkDropped = y'.2.uplinkDropped
  slots : y.2.slots = y'.2.slots

section Relates

variable [Layers L κ] [Layers L' κ] {e : Executor L κ} {e' : Executor L' κ} {s s' : Shared κ}
  (hρ : Layers.Couples ρ)

include hρ

/-- Hooks and steps of the timers leave executors alongside each other. -/
theorem Alongside.leave (hy : Alongside ρ (e, s) (e', s')) {l : L} {l' : L'} {r r' : Surroundings κ}
    (hr : ρ (l, r) (l', r')) {t t' : TimerTable κ} (ht : t = t') :
    Alongside ρ ({ e with layers := l, timers := t }, adopt s r)
      ({ e' with layers := l', timers := t' }, adopt s' r') := by
  have hstate : s.state = s'.state := hy.state
  have hradio : s.radio = s'.radio := hy.radio
  refine { hy with timers := ht, context := ?_ }
  show ρ (l, { r with state := s.state, radio := s.radio }) (l', { r' with state := s'.state, radio := s'.radio })
  rw [← hstate, ← hradio]
  exact hρ.putBack _ _ hr

theorem relates_hook {h : Hook L κ α} {h' : Hook L' κ α} (hh : Relates ρ h h') :
    Relates (Alongside ρ) (hook h) (hook h') := by
  rintro ⟨e, s⟩ ⟨e', s'⟩ hy
  have hm := hh _ _ hy.context
  unfold hook
  dsimp only at hm ⊢
  generalize h (e.layers, s.toSurroundings) = z at hm ⊢
  generalize h' (e'.layers, s'.toSurroundings) = z' at hm ⊢
  cases hm with
  | ok hr => exact .ok (hy.leave hρ hr hy.timers)
  | error hr => exact .error (hy.leave hρ hr hy.timers)

theorem relates_armDeferred :
    Relates (Alongside ρ) (armDeferred : Work L κ Unit) (armDeferred : Work L' κ Unit) := by
  refine relates_modify ?_
  rintro ⟨e, s⟩ ⟨e', s'⟩ hy
  have hd : s.deferred = s'.deferred := hρ.deferred hy.context
  have ht : e.timers = e'.timers := hy.timers
  refine { hy with context := hρ.taken hy.context, timers := ?_ }
  simp only [hd, ht]

theorem relates_stepTimers :
    Relates (Alongside ρ) (stepTimers : Work L κ Nat) (stepTimers : Work L' κ Nat) := by
  rintro ⟨e, s⟩ ⟨e', s'⟩ hy
  have hm := TimerTable.relates_stepAll hρ.fire (e.timers, e.layers, s.toSurroundings)
    (e'.timers, e'.layers, s'.toSurroundings) ⟨hy.timers, hy.context⟩
  unfold stepTimers
  dsimp only
  generalize TimerTable.stepAll Layers.fire (e.timers, e.layers, s.toSurroundings) = z at hm ⊢
  generalize TimerTable.stepAll Layers.fire (e'.timers, e'.layers, s'.toSurroundings) = z' at hm ⊢
  cases hm with
  | ok hr => exact .ok (hy.leave hρ hr.2 hr.1)
  | error hr => exact .error (hy.leave hρ hr.2 hr.1)

theorem relates_subTick (tti : UInt32) :
    Relates (Alongside ρ) (subTick tti : Work L κ Unit) (subTick tti : Work L' κ Unit) := by
  refine (relates_hook hρ (hρ.macTick tti)).bind fun _ => (relates_armDeferred hρ).bind fun _ =>
    (relates_stepTimers hρ).bind fun _ => relates_modify fun y y' hy => ?_
  exact { hy with ticks := congrArg (· + 1) hy.ticks }

theorem relates_subTicks (ttis : List UInt32) :
    Relates (Alongside ρ) (ttis.forM subTick : Work L κ Unit) (ttis.forM subTick : Work L' κ Unit) :=
  .forM (relates_subTick hρ)

end Relates

/-! ## What ticks leave alone -/

/-- The books of the batches, which no single tick concerns. -/
def books (e : Executor L κ) : TickProfiler × Option UInt32 × Nat × Nat :=
  (e.profiler, e.currentTti, e.longTickWarnings, e.backlogWarnings)

/-- The books stay as they are. -/
def SameBooks (y y' : Executor L κ × Shared κ) : Prop := books y'.1 = books y.1

theorem composes_sameBooks : Composes (SameBooks (L := L) (κ := κ)) := ⟨fun _ => rfl, fun h h' => h'.trans h⟩

theorem moves_hook {h : Hook L κ α} : Moves SameBooks (hook h) := by
  rintro ⟨e, s⟩
  obtain ⟨l, r, ho⟩ := outcome_hook h e s
  rw [ho]
  rfl

theorem moves_stepTimers [Layers L κ] : Moves SameBooks (stepTimers : Work L κ Nat) := by
  rintro ⟨e, s⟩
  obtain ⟨t, l, r, ho⟩ := outcome_stepTimers e s
  rw [ho]
  rfl

theorem moves_subTick [Layers L κ] (tti : UInt32) : Moves SameBooks (subTick tti : Work L κ Unit) :=
  composes_sameBooks.bind moves_hook fun _ => composes_sameBooks.bind (moves_modify fun _ => rfl) fun _ =>
    composes_sameBooks.bind moves_stepTimers fun _ => moves_modify fun _ => rfl

theorem moves_subTicks [Layers L κ] (ttis : List UInt32) : Moves SameBooks (ttis.forM subTick : Work L κ Unit) :=
  composes_sameBooks.forM moves_subTick

end Work

end LteUe

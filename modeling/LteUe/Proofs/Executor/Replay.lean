import LteUe.Proofs.Executor.Calls

/-!
# Layers followed call by call

What a call makes of some layers may be known without their surroundings (`Layers.KnownBy`). Then the layers
that a task leaves are those that its calls make of the layers it found, one after the other
(`Work.layers_perform`).
-/

namespace LteUe

variable {L κ α : Type}

namespace TimerTable

variable {σ : Type} {R : σ → σ → Prop} {fire : κ → EStateM Fault σ κ}

theorem moves_inContext {x : EStateM Fault σ α} (hx : Moves R x) :
    Moves (fun y y' => R y.2 y'.2) (inContext x : EStateM Fault (TimerTable κ × σ) α) := by
  rintro ⟨t, s⟩
  have hs := hx s
  unfold outcome at hs ⊢
  unfold inContext
  dsimp only
  generalize x s = r at hs ⊢
  cases r with
  | ok a s' => exact hs
  | error e s' => exact hs

/-- Of its context, a step of the timers changes what the callbacks change. -/
theorem moves_stepAll (hR : Composes R) (hf : ∀ c, Moves R (fire c)) :
    Moves (fun y y' => R y.2 y'.2) (stepAll fire) := by
  have hc : Composes fun y y' : TimerTable κ × σ => R y.2 y'.2 := ⟨fun _ => hR.refl _, hR.trans⟩
  have ht : ∀ f, Moves (fun y y' => R y.2 y'.2) (onTable f : EStateM Fault (TimerTable κ × σ) Unit) :=
    fun _ => moves_modify fun _ => hR.refl _
  have hexpire : ∀ i s, Moves (fun y y' => R y.2 y'.2) (expire fire i s) := by
    intro i s
    refine hc.bind (ht _) fun _ => ?_
    cases s.callback with
    | none =>
      cases s.oneShot with
      | true => exact ht (·.release ⟨i, s.generation⟩)
      | false => exact hc.pure ()
    | some c =>
      refine hc.bind (moves_inContext (hf c)) fun k => ?_
      cases s.oneShot with
      | true => exact ht (·.release ⟨i, s.generation⟩)
      | false => exact hc.bind (ht _) fun _ => hc.pure ()
  have hslot : ∀ i, Moves (fun y y' => R y.2 y'.2) (stepSlot fire i) := by
    intro i
    refine hc.bind hc.get fun y => ?_
    cases y.1.slots[i]? with
    | none => exact hc.pure _
    | some s =>
      dsimp only
      split
      · split
        · exact hc.bind (ht _) fun _ => hc.pure _
        · exact hc.bind (hexpire i s) fun _ => hc.pure _
      · exact hc.pure _
  exact hc.bind hc.get fun y => hc.foldlM fun n i => hc.bind (hslot i) fun b => hc.pure _

end TimerTable

/-- The hook of a call, whatever it answers. -/
def Call.hook [Layers L κ] : Call κ → Hook L κ Unit
  | usimInit => discard Layers.usimInit
  | macInit => Layers.macInit
  | rlcInit => Layers.rlcInit
  | pdcpInit => Layers.pdcpInit
  | nasInit => Layers.nasInit
  | rrcInit => Layers.rrcInit
  | captureBegun layer => Layers.captureBegun layer
  | macTick tti => Layers.macTick tti
  | hasData lcid => discard (Layers.hasData lcid)
  | writeSdu lcid sdu blocking => Layers.writeSdu lcid sdu blocking
  | attach cause => Layers.attach cause
  | detach switchOff => discard (Layers.detach switchOff)
  | nasBatch => Layers.nasBatch
  | rrcBatch => Layers.rrcBatch
  | inSync => Layers.inSync
  | outOfSync => Layers.outOfSync
  | searchDone result cell => Layers.searchDone result cell
  | selectDone selected => Layers.selectDone selected
  | usimStop => Layers.usimStop
  | macStop => Layers.macStop
  | rlcStop => Layers.rlcStop
  | pdcpStop => Layers.pdcpStop
  | nasStop => Layers.nasStop
  | rrcStop => Layers.rrcStop
  | fire callback => discard (Layers.fire callback)

/-- `after` tells what each call makes of the layers, whatever lies around them, and whether or not the call
faults. -/
def Layers.KnownBy [Layers L κ] (after : L → Call κ → L) : Prop :=
  ∀ (c : Call κ) (l : L) (r : Surroundings κ), (outcome (c.hook : Hook L κ Unit) (l, r)).2.1 = after l c

theorem outcome_discard {σ ε : Type} (x : EStateM ε σ α) (s : σ) :
    (outcome (discard x) s).2 = (outcome x s).2 := by
  show (outcome (EStateM.map _ x) s).2 = _
  unfold outcome EStateM.map
  cases x s <;> rfl

/-- Some more calls are on record, and the layers are those that these make of the layers before. -/
def Recorded.Replays (after : L → Call κ → L) (y y' : Recorded L κ) : Prop :=
  ∃ m, y'.calls = y.calls ++ m ∧ y'.layers = m.foldl after y.layers

namespace Recorded

variable {after : L → Call κ → L} {c : Call κ} {x : Hook L κ α}

theorem composes_replays : Composes (Recorded.Replays after) where
  refl y := ⟨[], (List.append_nil _).symm, rfl⟩
  trans := by
    rintro y y' y'' ⟨m, hm, hl⟩ ⟨m', hm', hl'⟩
    refine ⟨m ++ m', ?_, ?_⟩
    · rw [hm', hm, List.append_assoc]
    · rw [hl', hl, List.foldl_append]

theorem moves_recorded (hx : ∀ l r, (outcome x (l, r)).2.1 = after l c) :
    Moves (fun y y' => Recorded.Replays after y.1 y'.1) (Hook.recorded c x) := by
  rintro ⟨y, r⟩
  have hy := hx y.layers r
  refine ⟨[c], ?_, ?_⟩
  · unfold outcome Hook.recorded
    dsimp only
    cases x (y.layers, r) <;> rfl
  · rw [List.foldl_cons, List.foldl_nil, ← hy]
    unfold outcome Hook.recorded
    dsimp only
    cases x (y.layers, r) <;> rfl

end Recorded

namespace Work

/-- The layers of an executor in their surroundings. -/
def scene (y : Executor L κ × Shared κ) : L × Surroundings κ := (y.1.layers, y.2.toSurroundings)

/-- A relation between layers in their surroundings that composes, and looks neither at the state of the stack
nor at the radio nor at the deferrals that wait. -/
structure Scenic (R : L × Surroundings κ → L × Surroundings κ → Prop) : Prop extends Composes R where
  framed {y y' : L × Surroundings κ} (state : LifecycleState) (radio : Option Radio) (deferred : List (Nat × κ)) :
    R y y' → R y (y'.1, { y'.2 with state := state, radio := radio, deferred := deferred })

section Scenic

variable {R : L × Surroundings κ → L × Surroundings κ → Prop} (hR : Scenic R)

include hR

theorem Scenic.hook {h : Hook L κ α} (hh : Moves R h) : Moves (fun y y' => R (scene y) (scene y')) (hook h) := by
  rintro ⟨e, s⟩
  have hy := hh (e.layers, s.toSurroundings)
  unfold outcome at hy ⊢
  unfold Work.hook
  dsimp only
  generalize h (e.layers, s.toSurroundings) = r at hy ⊢
  cases r with
  | ok a y => exact hR.framed s.state s.radio y.2.deferred hy
  | error f y => exact hR.framed s.state s.radio y.2.deferred hy

theorem Scenic.tickTimers [Layers L κ] (hf : ∀ c : κ, Moves R (Layers.fire c)) :
    Moves (fun y y' => R (scene y) (scene y')) (tickTimers : Work L κ Unit) := by
  have hc : Composes fun y y' : Executor L κ × Shared κ => R (scene y) (scene y') :=
    ⟨fun _ => hR.refl _, hR.trans⟩
  refine hc.bind (moves_modify fun y => hR.framed y.2.state y.2.radio [] (hR.refl _)) fun _ =>
    hc.bind ?_ fun _ => moves_modify fun _ => hR.refl _
  rintro ⟨e, s⟩
  have hy := TimerTable.moves_stepAll hR.toComposes hf (e.timers, e.layers, s.toSurroundings)
  unfold outcome at hy ⊢
  unfold stepTimers
  dsimp only
  generalize TimerTable.stepAll Layers.fire (e.timers, e.layers, s.toSurroundings) = r at hy ⊢
  cases r with
  | ok n y => exact hR.framed s.state s.radio y.2.2.deferred hy
  | error f y => exact hR.framed s.state s.radio y.2.2.deferred hy

end Scenic

section Layers

variable {R : L → L → Prop}

theorem moves_layers_hook {h : Hook L κ α} (hh : Moves (fun y y' => R y.1 y'.1) h) :
    Moves (fun y y' => R y.1.layers y'.1.layers) (hook h) := by
  rintro ⟨e, s⟩
  have hy := hh (e.layers, s.toSurroundings)
  unfold outcome at hy ⊢
  unfold hook
  dsimp only
  generalize h (e.layers, s.toSurroundings) = r at hy ⊢
  cases r with
  | ok a y => exact hy
  | error f y => exact hy

theorem moves_layers_tickTimers [Layers L κ] (hR : Composes R)
    (hf : ∀ c : κ, Moves (fun y y' : L × Surroundings κ => R y.1 y'.1) (Layers.fire c)) :
    Moves (fun y y' => R y.1.layers y'.1.layers) (tickTimers : Work L κ Unit) := by
  have hs : Scenic fun y y' : L × Surroundings κ => R y.1 y'.1 :=
    { refl := fun _ => hR.refl _, trans := hR.trans, framed := fun _ _ _ h => h }
  exact hs.tickTimers hf

end Layers

variable [Layers L κ] {after : L → Call κ → L}

theorem admits_replays (h : Layers.KnownBy after) :
    Admits fun y y' : Executor (Recorded L κ) κ × Shared κ =>
      Recorded.Replays after y.1.layers y'.1.layers where
  refl _ := Recorded.composes_replays.refl _
  trans := Recorded.composes_replays.trans
  quiet hq := hq.layers ▸ Recorded.composes_replays.refl _
  hook hc := by
    have hd : ∀ {β : Type} {x : Hook L κ β} {c : Call κ}, c.hook = discard x →
        ∀ l r, (outcome x (l, r)).2.1 = after l c := fun hx l r => by
      rw [← h, hx, outcome_discard]
    refine moves_layers_hook ?_
    cases hc with
    | macTick tti => exact Recorded.moves_recorded (h (.macTick tti))
    | hasData lcid => exact Recorded.moves_recorded (hd rfl)
    | writeSdu lcid sdu blocking => exact Recorded.moves_recorded (h (.writeSdu lcid sdu blocking))
    | attach cause => exact Recorded.moves_recorded (h (.attach cause))
    | detach switchOff => exact Recorded.moves_recorded (hd rfl)
    | nasBatch => exact Recorded.moves_recorded (h .nasBatch)
    | rrcBatch => exact Recorded.moves_recorded (h .rrcBatch)
    | inSync => exact Recorded.moves_recorded (h .inSync)
    | outOfSync => exact Recorded.moves_recorded (h .outOfSync)
    | searchDone result cell => exact Recorded.moves_recorded (h (.searchDone result cell))
    | selectDone selected => exact Recorded.moves_recorded (h (.selectDone selected))
    | usimStop => exact Recorded.moves_recorded (h .usimStop)
    | macStop => exact Recorded.moves_recorded (h .macStop)
    | rlcStop => exact Recorded.moves_recorded (h .rlcStop)
    | pdcpStop => exact Recorded.moves_recorded (h .pdcpStop)
    | nasStop => exact Recorded.moves_recorded (h .nasStop)
    | rrcStop => exact Recorded.moves_recorded (h .rrcStop)
  tick := moves_layers_tickTimers Recorded.composes_replays fun c =>
    Recorded.moves_recorded fun l r => by
      rw [← h (.fire c) l r]
      exact congrArg Prod.fst (outcome_discard ..).symm

/-- A task leaves the layers that its calls make of those it found. -/
theorem layers_perform (h : Layers.KnownBy after) (c : Command) (y : Executor L κ × Shared κ) :
    (outcome (perform c) y).2.1.layers = (callsOf c y).foldl after y.1.layers := by
  have hp := (admits_replays h).perform (fun _ => Recorded.composes_replays.refl _) c (record y)
  obtain ⟨m, hm, hl⟩ := hp
  rw [outcome_record, callsOf, hm]
  exact hl

theorem layers_run (h : Layers.KnownBy after) (u : Task) (e : Executor L κ) (s : Shared κ) :
    (e.run u s).1.layers = (callsOf u.command (e, s)).foldl after e.layers := by
  rw [← layers_perform h u.command (e, s)]
  unfold Executor.run Executor.conclude
  dsimp only
  split <;> rfl

end Work

end LteUe

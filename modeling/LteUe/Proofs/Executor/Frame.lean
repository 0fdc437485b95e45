import LteUe.Proofs.Executor.Moves

/-!
# What the executor leaves alone

Hooks of the layers and timers reach neither the queues nor the answers nor the state of the stack, its
radio or its configuration, and neither end the executor nor count tasks (`Work.Steady`). So no task does any
of this but the one that ends the executor, and neither does the opening of a capture.
-/

namespace LteUe.Work

variable {L κ α : Type}

/-- Nothing has changed that is out of reach for layers and timers. -/
structure Steady (y y' : Executor L κ × Shared κ) : Prop where
  dispatcher : y'.2.dispatcher = y.2.dispatcher
  slots : y'.2.slots = y.2.slots
  state : y'.2.state = y.2.state
  radio : y'.2.radio = y.2.radio
  config : y'.2.config = y.2.config
  uplinkDropped : y'.2.uplinkDropped = y.2.uplinkDropped
  running : y'.1.running = y.1.running
  executed : y'.1.tasksExecuted = y.1.tasksExecuted
  faulted : y'.1.tasksFaulted = y.1.tasksFaulted

theorem composes_steady : Composes (Steady : Executor L κ × Shared κ → _ → Prop) where
  refl _ := by constructor <;> rfl
  trans h h' := ⟨h'.dispatcher.trans h.dispatcher, h'.slots.trans h.slots, h'.state.trans h.state,
    h'.radio.trans h.radio, h'.config.trans h.config, h'.uplinkDropped.trans h.uplinkDropped,
    h'.running.trans h.running, h'.executed.trans h.executed, h'.faulted.trans h.faulted⟩

theorem steady_hook (h : Hook L κ α) : Moves Steady (hook h) := by
  rintro ⟨e, s⟩
  obtain ⟨l, r, ho⟩ := outcome_hook h e s
  rw [ho]
  constructor <;> rfl

variable [Layers L κ]

theorem steady_stepTimers : Moves Steady (stepTimers : Work L κ Nat) := by
  rintro ⟨e, s⟩
  obtain ⟨t, l, r, ho⟩ := outcome_stepTimers e s
  rw [ho]
  constructor <;> rfl

theorem steady_tickTimers : Moves Steady (tickTimers : Work L κ Unit) := by
  have hc : Composes (@Steady L κ) := composes_steady
  refine hc.bind (moves_modify fun _ => by constructor <;> rfl) fun _ => ?_
  exact hc.bind steady_stepTimers fun _ => moves_modify fun _ => by constructor <;> rfl

theorem admits_steady : Admits (Steady : Executor L κ × Shared κ → _ → Prop) where
  toComposes := composes_steady
  quiet h := ⟨h.dispatcher, h.slots, h.state, h.radio, h.config, h.uplinkDropped, h.running, h.executed,
    h.faulted⟩
  hook _ := steady_hook _
  tick := steady_tickTimers

/-- No task touches any of this, but the one that ends the executor ends it. -/
theorem steady_perform (c : Command) (y : Executor L κ × Shared κ) :
    Steady ({ y.1 with running := (outcome (perform c) y).2.1.running }, y.2) (outcome (perform c) y).2 := by
  have hc : Composes fun y z : Executor L κ × Shared κ => Steady ({ y.1 with running := z.1.running }, y.2) z :=
    ⟨fun _ => composes_steady.refl _, fun h h' => ⟨h'.dispatcher.trans h.dispatcher, h'.slots.trans h.slots,
      h'.state.trans h.state, h'.radio.trans h.radio, h'.config.trans h.config,
      h'.uplinkDropped.trans h.uplinkDropped, rfl, h'.executed.trans h.executed, h'.faulted.trans h.faulted⟩⟩
  have ha := admits_steady.mono hc fun h => ⟨h.dispatcher, h.slots, h.state, h.radio, h.config, h.uplinkDropped,
    rfl, h.executed, h.faulted⟩
  exact ha.perform (fun _ => composes_steady.refl _) c y

/-- Opening a capture changes the captures and the world, and may then call a hook. -/
theorem moves_startCapture {R : Executor L κ × Shared κ → Executor L κ × Shared κ → Prop} (hc : Composes R)
    {layer : CapturedLayer} (hh : Moves R (hook (Layers.captureBegun layer)))
    (hm : ∀ y captures world, R y (y.1, { y.2 with captures := captures, world := world })) (sinks : Sinks)
    (enabled : Bool) (path : String) :
    Moves R (startCapture sinks enabled path layer : Work L κ Unit) := by
  refine hc.bind (fun y => hm y _ _) fun started => ?_
  cases started with
  | true => exact hh
  | false => exact hc.pure _

theorem steady_startCapture (sinks : Sinks) (enabled : Bool) (path : String) (layer : CapturedLayer) :
    Moves Steady (startCapture sinks enabled path layer : Work L κ Unit) :=
  moves_startCapture composes_steady (steady_hook _) (fun _ _ _ => by constructor <;> rfl) sinks enabled path

end LteUe.Work

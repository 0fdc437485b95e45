import LteUe.Proofs.Executor.Frame
import LteUe.Proofs.Lifetime.Steps
import LteUe.Proofs.Stack.Accounts

/-!
# What becomes of the tasks

No step in the life of a stack but the closing of the dispatcher loses a task, and none adds one that was
not enqueued (`Lifetime.Step.effect`). On the way up, only one rung attaches a radio, and none reaches the
queues (`Rung.framed`).
-/

namespace LteUe

variable {L κ α : Type}

namespace Shared

variable {s s' t : Shared κ}

theorem Keeps.trans (h : Keeps s t) (h' : Keeps t s') : Keeps s s' :=
  ⟨h'.dispatcher.trans h.dispatcher, h'.radio.trans h.radio, h'.state.trans h.state⟩

theorem radio_closeDispatcher (s : Shared κ) : s.closeDispatcher.radio = s.radio := by
  obtain ⟨w, hw⟩ := s.surroundings_closeDispatcher
  exact congrArg (·.radio) hw

end Shared

theorem Executor.radio_begin {e e' : Executor L κ} {s s' : Shared κ} {u : Task}
    (h : e.begin s = some (u, e', s')) : s'.radio = s.radio := by
  obtain ⟨d, rfl⟩ := shared_begin h
  rfl

theorem Stack.shared_attachRadio (radio : Radio) (s : Shared κ) :
    ∃ r w, attachRadio radio s = { s with radio := r, world := w } := by
  unfold attachRadio
  split
  · exact ⟨_, _, rfl⟩
  · exact ⟨_, _, rfl⟩

/-! ## What a rung leaves alone -/

theorem Work.Steady.keeps {y y' : Executor L κ × Shared κ} (h : Work.Steady y y') : y.2.Keeps y'.2 :=
  ⟨h.dispatcher, h.radio, h.state⟩

namespace Rung

variable [Layers L κ] {radio : Radio} {sinks : Sinks} {y z : Executor L κ × Shared κ}

theorem steady_work {r : Rung} (hr : r ≠ .radio) :
    Moves Work.Steady (r.work radio sinks : Work L κ Unit) := by
  have hc : Composes (@Work.Steady L κ) := Work.composes_steady
  cases r with
  | mac | rlc | pdcp | nas | rrc => exact Work.steady_hook _
  | radio => exact absurd rfl hr
  | capture layer =>
    cases layer with
    | mac | nas => exact hc.bind hc.get fun _ => Work.steady_startCapture _ _ _ _

theorem work_radio (h : Rung.radio.work radio sinks y = .ok () z) :
    z = (y.1, Stack.attachRadio radio y.2) := by
  cases h
  rfl

/-- No rung reaches the queues or the state of the stack, or ends the executor. -/
theorem framed (r : Rung) (h : r.work radio sinks y = .ok () z) :
    z.2.dispatcher = y.2.dispatcher ∧ z.2.state = y.2.state ∧ z.1.running = y.1.running := by
  by_cases hr : r = .radio
  · subst hr
    obtain ⟨_, _, ha⟩ := Stack.shared_attachRadio radio y.2
    rw [work_radio h, ha]
    exact ⟨rfl, rfl, rfl⟩
  · have hs := (steady_work hr).of_ok h
    exact ⟨hs.dispatcher, hs.state, hs.running⟩

end Rung

namespace Lifetime

open Queries (Touched)

variable {x y : Lifetime L κ} {e : Event} {t : List Event} {n : Nat}

theorem posted_snoc (t : List Event) (e : Event) : posted (t ++ [e]) = posted t ++ e.posted?.toList :=
  filterMap_snoc ..

theorem begun_snoc (t : List Event) (e : Event) : begun (t ++ [e]) = begun t ++ e.begun?.toList :=
  filterMap_snoc ..

theorem run_snoc (t : List Event) (e : Event) : run (t ++ [e]) = run t ++ e.run?.toList :=
  filterMap_snoc ..

theorem ups_snoc (t : List Event) (e : Event) : ups (t ++ [e]) = ups t + if e.isUp then 1 else 0 := by
  rw [ups, List.countP_append, List.countP_singleton]
  rfl

theorem teardowns_append (l m : List Task) : teardowns (l ++ m) = teardowns l + teardowns m :=
  List.countP_append ..

/-! ## What a step does to the tasks -/

/-- The effect of an event on the tasks. Only the closing of the dispatcher loses any. -/
structure Effect (x : Lifetime L κ) (e : Event) (y : Lifetime L κ) : Prop where
  touched : Touched x.shared.dispatcher y.shared.dispatcher
  conserves : y.shared.dispatcher.closed = false →
    (x.tasks ++ e.posted?.toList).Perm (e.run?.toList ++ y.tasks)
  task : x.task.toList ++ e.begun?.toList = e.run?.toList ++ y.task.toList

theorem Effect.of_same (hp : e.posted? = none) (hb : e.begun? = none) (hr : e.run? = none)
    (hd : y.shared.dispatcher = x.shared.dispatcher) (ht : y.task = x.task) : Effect x e y where
  touched := hd ▸ .same
  conserves _ := by
    rw [tasks, tasks, hp, hr, hd, ht]
    simp
  task := by
    rw [hb, hr, ht]
    simp

theorem Effect.of_posted {k : QueueKind} {u : Task} {d : Dispatcher Task}
    (h : x.shared.offer k u = .accepted d) (hd : y.shared.dispatcher = d) (ht : y.task = x.task) :
    Effect x (.posted u) y where
  touched := hd ▸ .pushed h
  conserves _ := by
    rw [tasks, tasks, hd, ht]
    have hp := (Dispatcher.tasks_of_accepted h).symm.append_right x.task.toList
    exact (List.perm_append_singleton ..).trans hp
  task := by
    rw [ht]
    exact List.append_nil _

theorem Effect.of_begun {f f' : Executor L κ} {u : Task} {s : Shared κ}
    (h : f.begin x.shared = some (u, f', s)) (hx : x.task = none) (hy : y.shared = s)
    (ht : y.task = some u) : Effect x (.began u) y := by
  obtain ⟨d, hp, hs, -⟩ := Executor.begin_spec h
  have hd : y.shared.dispatcher = d := by rw [hy, hs.dispatcher]
  refine ⟨hd ▸ .popped hp, fun _ => ?_, ?_⟩
  · obtain ⟨-, hp⟩ := Dispatcher.tryPop_eq_some_iff.1 hp
    obtain ⟨i, -, hi, rfl⟩ := Dispatcher.popInTurn_eq_some_iff.1 hp
    rw [tasks, tasks, hd, hx, ht]
    have hp := Dispatcher.tasks_serve hi
    simpa [Event.posted?, Event.run?] using hp.trans (List.perm_append_singleton ..).symm
  · rw [hx, ht]
    rfl

theorem Effect.of_ran {u : Task} {r : Except Fault Reply} (hx : x.task = some u) (ht : y.task = none)
    (hd : y.shared.dispatcher = x.shared.dispatcher) : Effect x (.ran u r) y where
  touched := hd ▸ .same
  conserves _ := by
    rw [tasks, tasks, hd, hx, ht]
    simp [Event.posted?, Event.run?]
  task := by
    rw [hx, ht]
    rfl

variable [Layers L κ]

theorem Step.effect (h : Step x e y) : Effect x e y := by
  cases h with
  | enterInit | refuseInit => exact .of_same rfl rfl rfl rfl rfl
  | usimUp _ h => exact .of_same rfl rfl rfl ((Work.steady_hook _).of_ok h).dispatcher rfl
  | usimFails _ h => exact .of_same rfl rfl rfl ((Work.steady_hook _).of_ok h).dispatcher rfl
  | raise _ h => exact .of_same rfl rfl rfl (Rung.framed _ h).1 rfl
  | start | spawn | returnInit => exact .of_same rfl rfl rfl rfl rfl
  | enterShutdown | stop => exact .of_same rfl rfl rfl rfl rfl
  | queueTeardown _ h => exact .of_posted h rfl rfl
  | teardownRejected | join => exact .of_same rfl rfl rfl rfl rfl
  | close =>
    have hd := x.shared.refilled_closeDispatcher.dispatcher
    refine ⟨?_, fun hc => ?_, List.append_nil _⟩
    · rw [hd]
      exact .closed
    · rw [x.shared.closed_closeDispatcher] at hc
      cases hc
  | halt | settle | returnShutdown => exact .of_same rfl rfl rfl rfl rfl
  | post _ h => exact .of_posted h rfl rfl
  | work h => exact .of_same rfl rfl rfl h.dispatcher rfl
  | begin ht _ _ h => exact .of_begun h ht rfl rfl
  | run ht _ h => exact .of_ran ht rfl h.dispatcher

end Lifetime

end LteUe

import LteUe.Proofs.Shutdown.Steps
import LteUe.Proofs.Stack.Operations

/-!
# The stages of a shutdown

Where the thread is that has the lock, the state of the stack, the executor, the dispatcher and the
task that ends the executor change together, and only from one line of a table to another
(`Threads.stages`). With what the table leaves open, `Threads.Ordered` is what every run keeps
(`Threads.ordered`).
-/

namespace LteUe

open Function

variable {L κ : Type}

/-- Where the thread is that has the lock, if there is one. -/
inductive Hold.Point where
  | free
  | raising
  | starting
  | failing
  | leaving
  | stopping
  | joining
  | closing
  | halting
  | gathering
  | settling
  | ended
deriving DecidableEq

namespace Hold

def point : Hold L κ → Point
  | raising .. => .raising
  | starting _ => .starting
  | failing => .failing
  | leaving => .leaving
  | stopping => .stopping
  | joining => .joining
  | closing => .closing
  | halting => .halting
  | gathering => .gathering
  | settling => .settling
  | ended => .ended

theorem point_ofFound (s : LifecycleState) :
    (ofFound s : Hold L κ).point = (ofFound s : Hold Unit Unit).point := by
  cases s <;> rfl

end Hold

/-! ## What leaves the workers alone -/

theorem Shared.pool_closeDispatcher (s : Shared κ) : s.closeDispatcher.pool = s.pool := by
  obtain ⟨w, hw⟩ := s.surroundings_closeDispatcher
  exact congrArg (·.pool) hw

theorem Executor.pool_conclude (u : Task) (r : Except Fault Reply) (e : Executor L κ) (s : Shared κ) :
    (conclude u r e s).2.pool = s.pool := by
  obtain ⟨_, _, h⟩ := shared_conclude u r e s
  rw [h]

namespace Threads

open Queries (Accounts Effect Touched)

/-- Where the thread is that has the lock. -/
def point (x : Threads L κ) : Hold.Point := x.holder.elim .free Hold.point

/-- How many tasks to end the executor wait or are being run. -/
def due (x : Threads L κ) : Nat := x.tasks.countP (·.command = .teardown)

/-- What a stage is told by: the state of the stack, where the thread is that has the lock, whether there is an
executor and goes on, whether the dispatcher is closed, and how many tasks to end the executor are due. -/
structure Stage where
  state : LifecycleState
  point : Hold.Point
  executor : Option Bool
  closed : Bool
  due : Nat
deriving DecidableEq

/-- The stages. -/
def stages : List Stage := [
  -- The stack is new, or did not come up.
  ⟨.uninitialized, .free, none, false, 0⟩,
  ⟨.uninitialized, .raising, none, false, 0⟩,
  -- It is started, or its executor is refused a thread.
  ⟨.running, .starting, none, false, 0⟩,
  ⟨.stopped, .failing, none, false, 0⟩,
  -- It runs.
  ⟨.running, .free, some true, false, 0⟩,
  -- It is shut down.
  ⟨.running, .leaving, some true, false, 0⟩,
  ⟨.stopping, .stopping, some true, false, 0⟩,
  ⟨.stopping, .joining, some true, false, 1⟩,
  ⟨.stopping, .joining, some false, false, 0⟩,
  ⟨.stopping, .closing, none, false, 0⟩,
  ⟨.stopping, .halting, none, true, 0⟩,
  ⟨.stopping, .gathering, none, true, 0⟩,
  ⟨.stopping, .settling, none, true, 0⟩,
  -- It is shut down without having been started.
  ⟨.uninitialized, .closing, none, false, 0⟩,
  ⟨.uninitialized, .halting, none, true, 0⟩,
  ⟨.uninitialized, .gathering, none, true, 0⟩,
  ⟨.uninitialized, .settling, none, true, 0⟩,
  -- It is over.
  ⟨.stopped, .ended, none, true, 0⟩,
  ⟨.stopped, .free, none, true, 0⟩]

/-- The stage in which a stack is. -/
def stage (x : Threads L κ) : Stage :=
  ⟨x.state, x.point, x.executor.map (·.running), x.shared.dispatcher.closed, x.due⟩

/-- The stack with the task in progress, as those see it who put questions. -/
def questions (x : Threads L κ) : Queries L κ := { toStack := x.toStack, task := x.task }

/-- What holds after the events `t`. The stack is in a stage of the table; only an executor runs a task,
and a closed dispatcher holds none. The queues are there, and each has room for a task at least. An
executor that a start makes ready goes on, and one that does not go on has run the task that ends it. A
shutdown that waits for the workers has ended their channel. No request is to push a task that ends the
executor, and a worker with a request runs a job. The accounts of tasks and answers are kept. -/
structure Ordered (t : List Event) (x : Threads L κ) : Prop where
  stage : x.stage ∈ stages
  task : x.executor = none → x.task = none
  tasks : x.shared.dispatcher.closed = true → x.shared.dispatcher.tasks = []
  queues : x.shared.dispatcher.queues.length = QueueKind.all.length
  roomy : ∀ n ∈ x.shared.dispatcher.queues.map (·.capacity), n ≠ 0
  ready (e : Executor L κ) : x.holder = some (.starting e) → e.running = true
  ran (e : Executor L κ) : x.executor = some e → e.running = false →
    ∃ u, u.command = .teardown ∧ .ran u ∈ t
  halted : x.point = .gathering → x.shared.pool.accepting = false
  tame (p : Client) (q : Request) : x.requests p = some q → q.command? ≠ some .teardown
  busy (w : Nat) : x.requests (.worker w) ≠ none → w ∈ x.shared.pool.working.map Prod.fst
  accounts : ∃ l, Accounts l x.questions

theorem ordered_start (c : StackConfig) : Ordered [] (start c : Threads L κ) where
  stage := List.mem_cons_self
  task _ := rfl
  tasks h := by cases h
  queues := rfl
  roomy n hn := by
    simp only [start, Shared.ofConfig, QueueKind.all, List.foldl, Dispatcher.register,
      Dispatcher.empty, List.nil_append, List.cons_append, List.map_cons, List.map_nil,
      List.mem_cons, List.not_mem_nil, or_false] at hn
    omega
  ready _ h := by cases h
  ran _ h := by cases h
  halted h := by cases h
  tame _ _ h := by cases h
  busy _ h := absurd rfl h
  accounts := ⟨[], Queries.accounts_start c⟩

variable {x y : Threads L κ} {e : Event} {t : List Event}

/-! ## Tasks that end the executor -/

theorem due_of_same (hd : y.shared.dispatcher = x.shared.dispatcher) (ht : y.task = x.task) :
    y.due = x.due := by
  rw [due, due, tasks, tasks, hd, ht]

theorem due_of_accepted {k : QueueKind} {u : Task} {d : Dispatcher Task}
    (ho : x.shared.offer k u = .accepted d) (hd : y.shared.dispatcher = d) (ht : y.task = x.task) :
    y.due = x.due + [u].countP (·.command = .teardown) := by
  have hp := (Dispatcher.tasks_of_accepted ho).append_right x.task.toList
  rw [due, due, tasks, tasks, hd, ht, hp.countP_eq, List.cons_append, List.countP_cons,
    List.countP_singleton]

theorem due_of_begun {f f' : Executor L κ} {u : Task} {s : Shared κ}
    (hb : f.begin x.shared = some (u, f', s)) (hx : x.task = none) (hs : y.shared = s)
    (ht : y.task = some u) : y.due = x.due := by
  have he : Effect x.questions (.began u) y.questions := .of_begun hb hx hs ht
  have hp : (x.tasks ++ []).Perm ([] ++ y.tasks) := he.conserves
  rw [List.append_nil] at hp
  exact hp.symm.countP_eq _

theorem due_of_ran {u : Task} (hx : x.task = some u)
    (hd : y.shared.dispatcher = x.shared.dispatcher) (ht : y.task = none) :
    y.due = x.due - [u].countP (·.command = .teardown) := by
  rw [due, due, tasks, tasks, hd, ht, hx, List.countP_append, List.countP_append]
  exact (Nat.add_sub_cancel ..).symm

theorem due_of_posted {k : QueueKind} {u : Task} {d : Dispatcher Task} (hu : u.command ≠ .teardown)
    (ho : x.shared.offer k u = .accepted d) (hd : y.shared.dispatcher = d) (ht : y.task = x.task) :
    y.due = x.due := by
  rw [due_of_accepted ho hd ht]
  simp [hu]

/-! ## From stage to stage -/

theorem point_eq {h : Hold L κ} (hh : x.holder = some h) : x.point = h.point := by
  rw [point, hh]
  rfl

theorem point_eq_free (hh : x.holder = none) : x.point = .free := by
  rw [point, hh]
  rfl

/-- The stage after a step, whose parts are mostly those of the stage before. -/
theorem stage_mem {s : LifecycleState} {p : Hold.Point} {b : Option Bool} {c : Bool} {n : Nat}
    (hm : ⟨s, p, b, c, n⟩ ∈ stages) (hs : y.state = s) (hc : y.shared.dispatcher.closed = c)
    (hn : y.due = n) (hp : y.point = p := by rfl) (hb : y.executor.map (·.running) = b := by rfl) :
    y.stage ∈ stages := by
  subst hs hc hn hp hb
  exact hm

theorem Ordered.due_of_closed (h : Ordered t x) {p : Hold.Point}
    (hp : ∀ s ∈ stages, s.point = p → s.executor = none) (hx : x.point = p)
    (hd : y.shared = x.shared.closeDispatcher) (ht : y.task = x.task) : y.due = 0 := by
  have he : x.executor = none := by simpa [Threads.stage] using hp _ h.stage hx
  have hn : y.shared.dispatcher.tasks = [] := by
    rw [hd, x.shared.refilled_closeDispatcher.dispatcher]
    exact Dispatcher.tasks_eq_nil_iff.2 x.shared.dispatcher.contents_close
  rw [due, Threads.tasks, hn, ht, h.task he]
  rfl

theorem due_pos {u : Task} (hu : x.task = some u) (hc : u.command = .teardown) : 0 < x.due := by
  have hm : u ∈ x.tasks := by simp [tasks, hu]
  exact List.countP_pos_iff.2 ⟨u, hm, by simpa⟩

variable [Layers L κ]

/-- Every step stays in its stage, or enters another one of the table. -/
theorem Ordered.stage_step (h : Ordered t x) (hxy : Step x e y) : y.stage ∈ stages := by
  -- where a step changes the stage, its line of the table leads to another line of the table
  cases hxy with
  | callShutdown => exact h.stage
  | callInit _ _ _ hh hs =>
    have hm : ∀ s ∈ stages, s.point = .free → s.state = .uninitialized →
        { s with point := .raising } ∈ stages := by decide
    exact stage_mem (hm _ h.stage (point_eq_free hh) hs) rfl rfl rfl
  | post hc ho =>
    exact stage_mem h.stage rfl (Dispatcher.closed_of_accepted ho) (due_of_posted hc ho rfl rfl)
  | work hs =>
    exact stage_mem h.stage hs.state (congrArg _ hs.dispatcher) (due_of_same hs.dispatcher rfl)
  | raise _ hh _ hs =>
    have hm : ∀ s ∈ stages, s.point = .raising →
        { s with state := .running, point := .starting } ∈ stages := by decide
    exact stage_mem (hm _ h.stage (point_eq hh)) rfl (congrArg _ hs.dispatcher)
      (due_of_same hs.dispatcher rfl)
  | raiseFails _ hh _ hs =>
    have hm : ∀ s ∈ stages, s.point = .raising → { s with point := .free } ∈ stages := by decide
    exact stage_mem (hm _ h.stage (point_eq hh)) hs.state (congrArg _ hs.dispatcher)
      (due_of_same hs.dispatcher rfl)
  | spawn hh =>
    have hm : ∀ s ∈ stages, s.point = .starting →
        { s with point := .free, executor := some true } ∈ stages := by decide
    exact stage_mem (hm _ h.stage (point_eq hh)) rfl rfl rfl rfl (congrArg some (h.ready _ hh))
  | spawnFails hh =>
    have hm : ∀ s ∈ stages, s.point = .starting →
        { s with state := .stopped, point := .failing } ∈ stages := by decide
    exact stage_mem (hm _ h.stage (point_eq hh)) rfl rfl rfl
  | closeFailed hh =>
    have hm : ∀ s ∈ stages, s.point = .failing →
        { s with point := .free, closed := true, due := 0 } ∈ stages := by decide
    have hn : ∀ s ∈ stages, s.point = .failing → s.executor = none := by decide
    exact stage_mem (hm _ h.stage (point_eq hh)) x.shared.refilled_closeDispatcher.state
      x.shared.closed_closeDispatcher (h.due_of_closed hn (point_eq hh) rfl rfl)
  | enter hh hq =>
    have hm : ∀ s ∈ stages, s.point = .free →
        { s with point := (Hold.ofFound s.state : Hold Unit Unit).point } ∈ stages := by decide
    exact stage_mem (hm _ h.stage (point_eq_free hh)) rfl rfl rfl (Hold.point_ofFound _)
  | stop hh =>
    have hm : ∀ s ∈ stages, s.point = .leaving →
        { s with state := .stopping, point := .stopping } ∈ stages := by decide
    exact stage_mem (hm _ h.stage (point_eq hh)) rfl rfl rfl
  | queueTeardown hh ho =>
    have hm : ∀ s ∈ stages, s.point = .stopping →
        { s with point := .joining, due := s.due + 1 } ∈ stages := by decide
    exact stage_mem (hm _ h.stage (point_eq hh)) rfl (Dispatcher.closed_of_accepted ho) (due_of_accepted ho rfl rfl)
  | teardownRejected hh ho =>
    have hc : ∀ s ∈ stages, s.point = .stopping → s.closed = false := by decide
    have hk : QueueKind.control.index < x.shared.dispatcher.queues.length := by
      rw [h.queues]
      decide
    have ho := Shared.closed_of_rejected hk ho
    rw [show x.shared.dispatcher.closed = false from hc _ h.stage (point_eq hh)] at ho
    cases ho
  | join hh ht he =>
    have hm : ∀ s ∈ stages, s.point = .joining → s.executor = some false →
        { s with point := .closing, executor := none } ∈ stages := by decide
    have hj : ∀ s ∈ stages, s.point = .joining → s.closed = false ∧ s.executor ≠ none := by decide
    obtain ⟨hc, hn⟩ := hj _ h.stage (point_eq hh)
    have hc : ¬x.shared.dispatcher.closed = true := Bool.eq_false_iff.1 hc
    have hf : x.stage.executor = some false := by
      obtain ⟨f, hf⟩ := Option.ne_none_iff_exists'.1 hn
      obtain ⟨e, hxe, rfl⟩ := Option.map_eq_some_iff.1 hf
      rw [hf, (he e hxe).resolve_right hc]
    exact stage_mem (hm _ h.stage (point_eq hh) hf) rfl rfl rfl
  | close hh =>
    have hm : ∀ s ∈ stages, s.point = .closing →
        { s with point := .halting, closed := true, due := 0 } ∈ stages := by decide
    have hn : ∀ s ∈ stages, s.point = .closing → s.executor = none := by decide
    exact stage_mem (hm _ h.stage (point_eq hh)) x.shared.refilled_closeDispatcher.state
      x.shared.closed_closeDispatcher (h.due_of_closed hn (point_eq hh) rfl rfl)
  | halt hh =>
    have hm : ∀ s ∈ stages, s.point = .halting →
        { s with point := .gathering } ∈ stages ∧ { s with point := .settling } ∈ stages := by decide
    obtain ⟨hg, hs⟩ := hm _ h.stage (point_eq hh)
    cases ha : x.shared.pool.stop.1 with
    | true => exact stage_mem hg rfl rfl rfl
    | false => exact stage_mem hs rfl rfl rfl
  | gather hh =>
    have hm : ∀ s ∈ stages, s.point = .gathering → { s with point := .settling } ∈ stages := by decide
    exact stage_mem (hm _ h.stage (point_eq hh)) rfl rfl rfl
  | settle hh =>
    have hm : ∀ s ∈ stages, s.point = .settling →
        { s with state := .stopped, point := .ended } ∈ stages := by decide
    exact stage_mem (hm _ h.stage (point_eq hh)) rfl rfl rfl
  | leave hh =>
    have hm : ∀ s ∈ stages, s.point = .ended → { s with point := .free } ∈ stages := by decide
    exact stage_mem (hm _ h.stage (point_eq hh)) rfl rfl rfl
  | @begin e e' u s ht he _ hb =>
    obtain ⟨d, hp, hs, hr⟩ := Executor.begin_spec hb
    obtain ⟨-, hp⟩ := Dispatcher.tryPop_eq_some_iff.1 hp
    obtain ⟨i, -, -, rfl⟩ := Dispatcher.popInTurn_eq_some_iff.1 hp
    have hc : s.dispatcher.closed = x.shared.dispatcher.closed := by
      rw [hs.dispatcher]
      rfl
    refine stage_mem h.stage hs.state hc (due_of_begun hb ht rfl rfl) rfl ?_
    rw [he]
    exact congrArg some hr
  | @run e u s seen ht he hs =>
    have hr := hs.refilled.trans (Executor.refilled_conclude u
      (outcome (Work.perform u.command) (e, seen)).1 e s)
    have hd := congrArg Dispatcher.closed hr.dispatcher
    have hg := e.running_run u seen
    by_cases hu : u.command = .teardown
    · have hm : ∀ s ∈ stages, 0 < s.due →
          { s with executor := some false, due := s.due - 1 } ∈ stages := by decide
      refine stage_mem (hm _ h.stage (due_pos ht hu)) hr.state hd ?_ rfl (congrArg some (by simp [hg, hu]))
      exact (due_of_ran ht hr.dispatcher rfl).trans (by simp [hu, Threads.stage])
    · refine stage_mem h.stage hr.state hd ?_ rfl ?_
      · exact (due_of_ran ht hr.dispatcher rfl).trans (by simp [hu])
      · rw [he]
        exact congrArg some (by simp [hg, hu])
  | receive | complete | push | ask | rejected | refused | answered => exact h.stage
  | pushed hq ho =>
    have hc : _ ≠ Command.teardown := fun hc => h.tame _ _ hq (congrArg some hc)
    exact stage_mem h.stage rfl (Dispatcher.closed_of_accepted ho) (due_of_posted hc ho rfl rfl)
  | asked hq hp =>
    obtain ⟨-, d, ho, rfl⟩ := Shared.pose_eq_asked_iff.1 hp
    have hc : _ ≠ Command.teardown := fun hc => h.tame _ _ hq (congrArg some hc)
    exact stage_mem h.stage rfl (Dispatcher.closed_of_accepted ho) (due_of_posted hc ho rfl rfl)

/-! ## What a step does to the tasks -/

/-- A step does to tasks and answers what is done there by some event. -/
theorem Step.effect (h : Step x e y) : ∃ d, Effect x.questions d y.questions := by
  cases h with
  | post _ ho => exact ⟨_, .of_posted ho rfl rfl⟩
  | work hs => exact ⟨.worked, .of_beside rfl rfl rfl rfl hs.dispatcher hs.slots rfl⟩
  | raise _ _ _ hs => exact ⟨.worked, .of_beside rfl rfl rfl rfl hs.dispatcher hs.slots rfl⟩
  | raiseFails _ _ _ hs => exact ⟨.worked, .of_beside rfl rfl rfl rfl hs.dispatcher hs.slots rfl⟩
  | closeFailed | close =>
    have hr := x.shared.refilled_closeDispatcher
    exact ⟨_, .of_closed hr.dispatcher hr.size x.shared.getElem?_closeDispatcher rfl⟩
  | queueTeardown _ ho => exact ⟨_, .of_posted ho rfl rfl⟩
  | begin ht _ _ hb => exact ⟨_, .of_begun hb ht rfl rfl⟩
  | run _ ht _ hs => exact ⟨_, .of_ran hs.toBeside ht rfl rfl⟩
  | pushed _ ho => exact ⟨_, .of_posted ho rfl rfl⟩
  | asked _ hp => exact ⟨_, .of_accepted (p := 0) hp rfl rfl⟩
  | _ => exact ⟨.worked, .of_beside rfl rfl rfl rfl rfl rfl rfl⟩

/-! ## What else is kept -/

theorem Ordered.task_step (h : Ordered t x) (hxy : Step x e y) : y.executor = none → y.task = none := by
  cases hxy with
  | spawn | begin | run => exact nofun
  | join _ ht _ => exact fun _ => ht
  | _ => exact h.task

theorem Ordered.ready_step (h : Ordered t x) (hxy : Step x e y) (f : Executor L κ)
    (hf : y.holder = some (.starting f)) : f.running = true := by
  cases hxy with
  | @raise layers radio sinks _ _ _ seen hh ho =>
    cases hf
    have hr := Work.running_bringUp radio sinks
      ((.ofLayers layers x.shared.config : Executor L κ), seen)
    rw [ho] at hr
    exact hr
  | enter => cases hs : x.state <;> simp [hs, Hold.ofFound] at hf
  | halt => cases hs : x.shared.pool.stop.1 <;> simp [hs] at hf
  | callShutdown | post | work | begin | run | receive | complete => exact h.ready f hf
  | push | ask | pushed | rejected | asked | refused | answered => exact h.ready f hf
  | _ => cases hf

theorem Ordered.ran_step (h : Ordered t x) (hxy : Step x e y) (f : Executor L κ)
    (hf : y.executor = some f) (hr : f.running = false) :
    ∃ u, u.command = .teardown ∧ .ran u ∈ t ++ [e] := by
  have keep (f : Executor L κ) (hf : x.executor = some f) (hr : f.running = false) :
      ∃ u, u.command = .teardown ∧ .ran u ∈ t ++ [e] := by
    obtain ⟨u, hu, hm⟩ := h.ran f hf hr
    exact ⟨u, hu, List.mem_append_left _ hm⟩
  cases hxy with
  | spawn hh =>
    cases hf
    rw [h.ready _ hh] at hr
    cases hr
  | join => cases hf
  | begin _ _ hg hb =>
    obtain ⟨-, -, -, hg'⟩ := Executor.begin_spec hb
    cases hf
    rw [hg', hg] at hr
    cases hr
  | @run e u _ seen _ he =>
    cases hf
    rw [Executor.running_run] at hr
    by_cases hu : u.command = .teardown
    · exact ⟨u, hu, List.mem_append_right _ (List.mem_singleton_self _)⟩
    · exact keep e he (by simpa [hu] using hr)
  | _ => exact keep f hf hr

theorem Ordered.tame_step (h : Ordered t x) (hxy : Step x e y) (p : Client) (q : Request)
    (hq : y.requests p = some q) : q.command? ≠ some .teardown := by
  have update (p' : Client) (r : Option Request) (hr : ∀ q, r = some q → q.command? ≠ some .teardown)
      (hq : update x.requests p' r p = some q) : q.command? ≠ some .teardown := by
    by_cases hp : p = p'
    · rw [hp, update_self] at hq
      exact hr q hq
    · rw [update_of_ne hp] at hq
      exact h.tame p q hq
  cases hxy with
  | push k c _ hc | ask c _ hc =>
    refine update _ _ (fun q hq => ?_) hq
    cases hq
    exact fun h => hc (Option.some.inj h)
  | pushed | rejected | refused | answered => exact update _ none nofun hq
  | asked =>
    refine update _ _ (fun q hq => ?_) hq
    cases hq
    exact nofun
  | _ => exact h.tame p q hq

theorem Ordered.halted_step (h : Ordered t x) (hxy : Step x e y) (hp : y.point = .gathering) :
    y.shared.pool.accepting = false := by
  cases hxy with
  | halt => rfl
  | work hs => exact hs.accepting.trans (h.halted hp)
  | begin _ _ _ hb => exact (congrArg _ (Executor.pool_begin hb)).trans (h.halted hp)
  | run _ _ _ hs => exact (congrArg _ (Executor.pool_conclude ..)).trans (hs.accepting.trans (h.halted hp))
  | receive hj => exact (WorkerPool.accepting_receive hj).trans (h.halted hp)
  | callShutdown | post | complete | push | ask => exact h.halted hp
  | pushed | rejected | refused | answered => exact h.halted hp
  | asked _ hp' =>
    obtain ⟨-, d, -, rfl⟩ := Shared.pose_eq_asked_iff.1 hp'
    exact h.halted hp
  | enter => cases hs : x.state <;> simp [point, hs, Hold.ofFound, Hold.point] at hp
  | _ => cases hp

theorem Ordered.busy_step (h : Ordered t x) (hxy : Step x e y) (w : Nat)
    (hw : y.requests (.worker w) ≠ none) : w ∈ y.shared.pool.working.map Prod.fst := by
  have update (p : Client) (r : Option Request) (hp : x.IsFree p ∨ x.requests p ≠ none)
      (hw : update x.requests p r (.worker w) ≠ none) : w ∈ x.shared.pool.working.map Prod.fst := by
    by_cases hpw : .worker w = p
    · subst hpw
      exact hp.elim (fun hf => hf.2 w rfl) (h.busy w)
    · rw [update_of_ne hpw] at hw
      exact h.busy w hw
  have keep {p : WorkerPool Job} (hp : p.working = x.shared.pool.working)
      (hw : x.requests (.worker w) ≠ none) : w ∈ p.working.map Prod.fst := hp ▸ h.busy w hw
  cases hxy with
  | work hs => exact keep hs.working hw
  | raise _ _ _ hs => exact keep hs.working hw
  | raiseFails _ _ _ hs => exact keep hs.working hw
  | closeFailed | close => exact keep (congrArg _ x.shared.pool_closeDispatcher) hw
  | begin _ _ _ hb => exact keep (congrArg _ (Executor.pool_begin hb)) hw
  | run _ _ _ hs => exact keep ((congrArg _ (Executor.pool_conclude ..)).trans hs.working) hw
  | receive hj =>
    obtain ⟨-, _, -, rfl⟩ := WorkerPool.receive_eq_some_iff.1 hj
    exact List.mem_cons_of_mem _ (h.busy w hw)
  | @complete v hf =>
    have hne : w ≠ v := fun hwv => hw (hwv ▸ hf.1)
    obtain ⟨⟨w, j⟩, hm, rfl⟩ := List.mem_map.1 (h.busy w hw)
    exact List.mem_map_of_mem (List.mem_filter.2 ⟨hm, by simpa using hne⟩)
  | push _ _ hf | ask _ hf => exact update _ _ (.inl hf) hw
  | pushed hq | rejected hq | refused hq | answered hq => exact update _ _ (.inr (by simp [hq])) hw
  | asked hq hp =>
    obtain ⟨-, d, -, rfl⟩ := Shared.pose_eq_asked_iff.1 hp
    exact update _ _ (.inr (by simp [hq])) hw
  | _ => exact h.busy w hw

theorem Ordered.step (h : Ordered t x) (hxy : Step x e y) : Ordered (t ++ [e]) y := by
  obtain ⟨l, hl⟩ := h.accounts
  obtain ⟨d, hd⟩ := hxy.effect
  have ht : Touched x.shared.dispatcher y.shared.dispatcher := hd.touched
  exact {
    stage := h.stage_step hxy
    task := h.task_step hxy
    tasks := ht.tasks_eq_nil h.tasks
    queues := ht.length_eq.trans h.queues
    roomy := by
      rw [ht.capacities]
      exact h.roomy
    ready := h.ready_step hxy
    ran := h.ran_step hxy
    halted := h.halted_step hxy
    tame := h.tame_step hxy
    busy := h.busy_step hxy
    accounts := ⟨l ++ [d], hl.snoc hd⟩ }

theorem ordered {c : StackConfig} (h : Run Step (start c) t x) : Ordered t x := by
  induction h with
  | nil => exact ordered_start c
  | snoc _ hs ih => exact ih.step hs

end Threads

end LteUe

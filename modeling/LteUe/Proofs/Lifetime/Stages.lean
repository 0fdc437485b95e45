import LteUe.Proofs.Lifetime.Effects

/-!
# The stages of a stack's life

The state of a stack, the statement at which the call with the lock is, the executor, the dispatcher and the
tasks that end the executor change together, and only from one line of a table to another
(`Lifetime.stages`, `Lifetime.ordered`).
-/

namespace LteUe

variable {L κ : Type}

/-- Where the call with the lock is, if there is one. -/
inductive Point where
  | free
  | refused
  | probing
  | raising
  | denied
  | starting
  | started
  | leaving
  | stopping
  | joining
  | closing
  | halting
  | settling
  | ended
deriving DecidableEq

/-- Whether the workers may have been stopped. -/
def Point.isLate : Point → Bool
  | settling | ended | free | refused => true
  | _ => false

namespace Phase

def point : Phase L κ → Point
  | refused _ => .refused
  | probing .. => .probing
  | raising .. => .raising
  | denied _ => .denied
  | starting .. => .starting
  | started _ => .started
  | leaving => .leaving
  | stopping => .stopping
  | joining => .joining
  | closing => .closing
  | halting => .halting
  | settling => .settling
  | ended => .ended

/-- The executor that a start has made ready. -/
def executor? : Phase L κ → Option (Executor L κ)
  | probing e _ _ | raising e _ _ _ | starting e _ => some e
  | _ => none

theorem point_ofFound (s : LifecycleState) :
    (ofFound s : Phase L κ).point = (ofFound s : Phase Unit Unit).point := by
  cases s <;> rfl

theorem executor?_ofFound (s : LifecycleState) : (ofFound s : Phase L κ).executor? = none := by
  cases s <;> rfl

end Phase

namespace Lifetime

/-- The statement at which the call with the lock is. -/
def point (x : Lifetime L κ) : Point := x.holder.elim .free (·.2.point)

/-- What a stage of a stack's life is told by: its state, where the call with the lock is, whether there is
an executor and goes on, whether the dispatcher is closed, how many tasks to end the executor have been
enqueued and run, and how many starts have succeeded. -/
structure Stage where
  state : LifecycleState
  point : Point
  executor : Option Bool
  closed : Bool
  posted : Nat
  run : Nat
  ups : Nat
deriving DecidableEq

/-- The stages of a stack's life. -/
def stages : List Stage := [
  -- The stack is new, or its subscriber module did not come up.
  ⟨.uninitialized, .free, none, false, 0, 0, 0⟩,
  ⟨.uninitialized, .probing, none, false, 0, 0, 0⟩,
  ⟨.uninitialized, .denied, none, false, 0, 0, 0⟩,
  ⟨.uninitialized, .raising, none, false, 0, 0, 0⟩,
  -- It is started.
  ⟨.running, .starting, none, false, 0, 0, 0⟩,
  ⟨.running, .started, some true, false, 0, 0, 0⟩,
  -- It runs.
  ⟨.running, .free, some true, false, 0, 0, 1⟩,
  ⟨.running, .refused, some true, false, 0, 0, 1⟩,
  ⟨.running, .leaving, some true, false, 0, 0, 1⟩,
  -- It is shut down.
  ⟨.stopping, .stopping, some true, false, 0, 0, 1⟩,
  ⟨.stopping, .joining, some true, false, 1, 0, 1⟩,
  ⟨.stopping, .joining, some false, false, 1, 1, 1⟩,
  ⟨.stopping, .closing, none, false, 1, 1, 1⟩,
  ⟨.stopping, .halting, none, true, 1, 1, 1⟩,
  ⟨.stopping, .settling, none, true, 1, 1, 1⟩,
  -- It is shut down without having been started.
  ⟨.uninitialized, .closing, none, false, 0, 0, 0⟩,
  ⟨.uninitialized, .halting, none, true, 0, 0, 0⟩,
  ⟨.uninitialized, .settling, none, true, 0, 0, 0⟩,
  -- It is over.
  ⟨.stopped, .ended, none, true, 1, 1, 1⟩,
  ⟨.stopped, .free, none, true, 1, 1, 1⟩,
  ⟨.stopped, .refused, none, true, 1, 1, 1⟩,
  ⟨.stopped, .ended, none, true, 0, 0, 0⟩,
  ⟨.stopped, .free, none, true, 0, 0, 0⟩,
  ⟨.stopped, .refused, none, true, 0, 0, 0⟩]

/-- The stage in which a stack is after the events `t`. -/
def stage (t : List Event) (x : Lifetime L κ) : Stage :=
  ⟨x.state, x.point, x.executor.map (·.running), x.shared.dispatcher.closed, teardowns (posted t),
    teardowns (run t), ups t⟩

variable {x y : Lifetime L κ} {e : Event} {t : List Event} {n : Nat}

/-- What holds after the events `t`: the stack is in a stage of the table. Only an executor runs a task, a
closed dispatcher holds none, and no task to end the executor is lost before that. The queues are there. An
executor that a start makes ready goes on, and once the workers are stopped they take no jobs. -/
structure Ordered (t : List Event) (x : Lifetime L κ) : Prop where
  stage : stage t x ∈ stages
  task : x.executor = none → x.task = none
  tasks : x.shared.dispatcher.closed = true → x.shared.dispatcher.tasks = []
  queues : x.shared.dispatcher.queues.length = QueueKind.all.length
  waiting : x.shared.dispatcher.closed = false →
    teardowns x.tasks + teardowns (run t) = teardowns (posted t)
  begun : begun t = run t ++ x.task.toList
  ready (n : Nat) (ph : Phase L κ) (e : Executor L κ) :
    x.holder = some (n, ph) → ph.executor? = some e → e.running = true
  halted : x.point = .settling ∨ x.state = .stopped → x.shared.pool.accepting = false

theorem ordered_start (c : StackConfig) : Ordered [] (start c : Lifetime L κ) where
  stage := List.mem_cons_self
  task _ := rfl
  tasks h := by cases h
  queues := rfl
  waiting _ := rfl
  begun := rfl
  ready _ _ _ h := by cases h
  halted h := by rcases h with h | h <;> cases h

/-! ## From stage to stage -/

theorem point_eq {ph : Phase L κ} (h : x.holder = some (n, ph)) : x.point = ph.point := by
  rw [point, h]
  rfl

theorem point_eq_free (h : x.holder = none) : x.point = .free := by
  rw [point, h]
  rfl

/-- The stage after one more event, whose parts are mostly those of the stage before. -/
theorem stage_snoc_mem {s : LifecycleState} {p : Point} {b : Option Bool} {c : Bool} {i j k : Nat}
    (hm : ⟨s, p, b, c, i, j, k⟩ ∈ stages) (hs : y.state = s) (hc : y.shared.dispatcher.closed = c)
    (hp : y.point = p := by rfl) (hb : y.executor.map (·.running) = b := by rfl)
    (hi : teardowns (posted t) + teardowns e.posted?.toList = i := by rfl)
    (hj : teardowns (run t) + teardowns e.run?.toList = j := by rfl)
    (hk : ups t + (if e.isUp then 1 else 0) = k := by rfl) : stage (t ++ [e]) y ∈ stages := by
  subst hs hc hp hb hi hj hk
  rw [stage, posted_snoc, run_snoc, teardowns_append, teardowns_append, ups, List.countP_append,
    List.countP_singleton]
  exact hm

theorem teardowns_of_ne {u : Task} (h : u.command ≠ .teardown) : teardowns [u] = 0 := by
  simp [teardowns, h]

/-- A task to end the executor is run where one was enqueued and has not been run. -/
theorem Ordered.teardown_due (h : Ordered t x) {u : Task} (hu : x.task = some u)
    (hc : u.command = .teardown) : teardowns (Lifetime.run t) < teardowns (posted t) := by
  have he : x.executor ≠ none := fun he => by
    rw [h.task he] at hu
    cases hu
  have ho : ∀ s ∈ stages, s.executor ≠ none → s.closed = false := by decide
  have hw := h.waiting (ho _ h.stage (by simpa [Lifetime.stage] using he))
  have ht : teardowns x.task.toList = 1 := by simp [hu, teardowns, hc]
  rw [Lifetime.tasks, teardowns_append, ht] at hw
  omega

variable [Layers L κ]

/-- Every step stays in its stage, or enters another one of the table. -/
theorem Ordered.stage_step (h : Ordered t x) (hxy : Step x e y) :
    Lifetime.stage (t ++ [e]) y ∈ stages := by
  -- where a step changes the stage, its line of the table leads to another line of the table
  cases hxy with
  | enterInit _ _ _ hh hs =>
    have hm : ∀ s ∈ stages, s.point = .free → s.state = .uninitialized →
        { s with point := .probing } ∈ stages := by decide
    exact stage_snoc_mem (hm _ h.stage (point_eq_free hh) hs) rfl rfl
  | refuseInit _ hh hs =>
    have hm : ∀ s ∈ stages, s.point = .free → s.state ≠ .uninitialized →
        { s with point := .refused } ∈ stages := by decide
    exact stage_snoc_mem (hm _ h.stage (point_eq_free hh) hs) rfl rfl
  | usimUp hh hw =>
    have hm : ∀ s ∈ stages, s.point = .probing → { s with point := .raising } ∈ stages := by decide
    have hs := (Work.steady_hook _).of_ok hw
    exact stage_snoc_mem (hm _ h.stage (point_eq hh)) hs.state (congrArg _ hs.dispatcher)
  | usimFails hh hw =>
    have hm : ∀ s ∈ stages, s.point = .probing → { s with point := .denied } ∈ stages := by decide
    have hs := (Work.steady_hook _).of_ok hw
    exact stage_snoc_mem (hm _ h.stage (point_eq hh)) hs.state (congrArg _ hs.dispatcher)
  | raise hh hw =>
    obtain ⟨hd, hs, -⟩ := Rung.framed _ hw
    have hm : ∀ s ∈ stages, s.point = .raising → { s with point := .raising } ∈ stages := by decide
    exact stage_snoc_mem (hm _ h.stage (point_eq hh)) hs (congrArg _ hd)
  | start hh =>
    have hm : ∀ s ∈ stages, s.point = .raising →
        { s with state := .running, point := .starting } ∈ stages := by decide
    exact stage_snoc_mem (hm _ h.stage (point_eq hh)) rfl rfl
  | @spawn n e _ hh =>
    have hm : ∀ s ∈ stages, s.point = .starting →
        { s with point := .started, executor := some true } ∈ stages := by decide
    exact stage_snoc_mem (hm _ h.stage (point_eq hh)) rfl rfl rfl
      (congrArg some (h.ready _ _ _ hh rfl))
  | @returnInit n ph r hh hr =>
    have hp := point_eq hh
    cases ph with
    | refused found =>
      have hm : ∀ s ∈ stages, s.point = .refused → { s with point := .free } ∈ stages := by decide
      obtain rfl := Option.some.inj hr
      exact stage_snoc_mem (hm _ h.stage hp) rfl rfl
    | denied causes =>
      have hm : ∀ s ∈ stages, s.point = .denied → { s with point := .free } ∈ stages := by decide
      obtain rfl := Option.some.inj hr
      exact stage_snoc_mem (hm _ h.stage hp) rfl rfl
    | started radio =>
      have hm : ∀ s ∈ stages, s.point = .started →
          { s with point := .free, ups := s.ups + 1 } ∈ stages := by decide
      obtain rfl := Option.some.inj hr
      exact stage_snoc_mem (hm _ h.stage hp) rfl rfl
    | _ => cases hr
  | enterShutdown hh =>
    have hm : ∀ s ∈ stages, s.point = .free →
        { s with point := (Phase.ofFound s.state : Phase Unit Unit).point } ∈ stages := by decide
    exact stage_snoc_mem (hm _ h.stage (point_eq_free hh)) rfl rfl (Phase.point_ofFound _)
  | stop hh =>
    have hm : ∀ s ∈ stages, s.point = .leaving →
        { s with state := .stopping, point := .stopping } ∈ stages := by decide
    exact stage_snoc_mem (hm _ h.stage (point_eq hh)) rfl rfl
  | queueTeardown hh ho =>
    have hm : ∀ s ∈ stages, s.point = .stopping →
        { s with point := .joining, posted := s.posted + 1 } ∈ stages := by decide
    exact stage_snoc_mem (hm _ h.stage (point_eq hh)) rfl (Dispatcher.closed_of_accepted ho)
  | teardownRejected hh ho =>
    have hc : ∀ s ∈ stages, s.point = .stopping → s.closed = false := by decide
    have hk : QueueKind.control.index < x.shared.dispatcher.queues.length := by
      rw [h.queues]
      decide
    have ho := Shared.closed_of_rejected hk ho
    rw [show x.shared.dispatcher.closed = false from hc _ h.stage (point_eq hh)] at ho
    cases ho
  | @join n hh ht he =>
    have hm : ∀ s ∈ stages, s.point = .joining → s.executor = some false →
        { s with point := .closing, executor := none } ∈ stages := by decide
    have hj : ∀ s ∈ stages, s.point = .joining → s.closed = false ∧ s.executor ≠ none := by decide
    obtain ⟨hc, hn⟩ := hj _ h.stage (point_eq hh)
    have hc : ¬x.shared.dispatcher.closed = true := Bool.eq_false_iff.1 hc
    have hf : (Lifetime.stage t x).executor = some false := by
      obtain ⟨f, hf⟩ := Option.ne_none_iff_exists'.1 hn
      obtain ⟨e, hxe, rfl⟩ := Option.map_eq_some_iff.1 hf
      rw [hf, (he e hxe).resolve_right hc]
    exact stage_snoc_mem (hm _ h.stage (point_eq hh) hf) rfl rfl
  | close hh =>
    have hm : ∀ s ∈ stages, s.point = .closing →
        { s with point := .halting, closed := true } ∈ stages := by decide
    have hr := x.shared.refilled_closeDispatcher
    exact stage_snoc_mem (hm _ h.stage (point_eq hh)) hr.state x.shared.closed_closeDispatcher
  | halt hh =>
    have hm : ∀ s ∈ stages, s.point = .halting → { s with point := .settling } ∈ stages := by decide
    exact stage_snoc_mem (hm _ h.stage (point_eq hh)) rfl rfl
  | settle hh =>
    have hm : ∀ s ∈ stages, s.point = .settling →
        { s with state := .stopped, point := .ended } ∈ stages := by decide
    exact stage_snoc_mem (hm _ h.stage (point_eq hh)) rfl rfl
  | returnShutdown hh =>
    have hm : ∀ s ∈ stages, s.point = .ended → { s with point := .free } ∈ stages := by decide
    exact stage_snoc_mem (hm _ h.stage (point_eq hh)) rfl rfl
  | post hu ho =>
    exact stage_snoc_mem h.stage rfl (Dispatcher.closed_of_accepted ho) rfl rfl (congrArg _ (teardowns_of_ne hu))
  | work hk ha => exact stage_snoc_mem h.stage hk.state (congrArg _ hk.dispatcher)
  | @begin e e' u s ht he hr hb =>
    obtain ⟨d, hp, hs, hr'⟩ := Executor.begin_spec hb
    obtain ⟨-, hp⟩ := Dispatcher.tryPop_eq_some_iff.1 hp
    obtain ⟨i, -, -, rfl⟩ := Dispatcher.popInTurn_eq_some_iff.1 hp
    have hc : s.dispatcher.closed = x.shared.dispatcher.closed := by
      rw [hs.dispatcher]
      rfl
    refine stage_snoc_mem h.stage hs.state hc rfl ?_
    rw [he]
    exact congrArg some hr'
  | @run e f u r s ht he hk hr hc =>
    by_cases hu : u.command = .teardown
    · have hm : ∀ s ∈ stages, s.run < s.posted →
          { s with executor := some false, run := s.run + 1 } ∈ stages := by decide
      have h₁ : teardowns [u] = 1 := by simp [teardowns, hu]
      exact stage_snoc_mem (hm _ h.stage (h.teardown_due ht hu)) hk.state (congrArg _ hk.dispatcher) rfl
        (congrArg some (hc hu)) rfl (congrArg _ h₁)
    · refine stage_snoc_mem h.stage hk.state (congrArg _ hk.dispatcher) rfl ?_ rfl
        (congrArg _ (teardowns_of_ne hu))
      rw [he]
      exact congrArg some (hr hu)

theorem Ordered.task_step (h : Ordered t x) (hxy : Step x e y) : y.executor = none → y.task = none := by
  cases hxy with
  | spawn | begin | run => exact nofun
  | join _ ht _ => exact fun _ => ht
  | _ => exact h.task

/-- An executor that a start makes ready goes on, since no rung ends it. -/
theorem Ordered.ready_step (h : Ordered t x) (hxy : Step x e y) (n : Nat) (ph : Phase L κ)
    (f : Executor L κ) (hh : y.holder = some (n, ph)) (hf : ph.executor? = some f) :
    f.running = true := by
  cases hxy with
  | enterInit =>
    cases hh
    cases hf
    rfl
  | usimUp hx hw =>
    cases hh
    cases hf
    exact ((Work.steady_hook _).of_ok hw).running.trans (h.ready _ _ _ hx rfl)
  | raise hx hw =>
    cases hh
    cases hf
    exact (Rung.framed _ hw).2.2.trans (h.ready _ _ _ hx rfl)
  | start hx =>
    cases hh
    cases hf
    exact h.ready _ _ _ hx rfl
  | enterShutdown =>
    cases hh
    rw [Phase.executor?_ofFound] at hf
    cases hf
  | post | work | begin | run => exact h.ready _ _ _ hh hf
  | returnInit | returnShutdown => cases hh
  | _ =>
    cases hh
    cases hf

theorem not_halted {s : Stage} (hs : s ∈ stages) (h : s.executor.isSome = true ∨ s.point.isLate = false) :
    ¬(s.point = .settling ∨ s.state = .stopped) := by
  have hm : ∀ s ∈ stages, s.executor.isSome = true ∨ s.point.isLate = false →
      ¬(s.point = .settling ∨ s.state = .stopped) := by decide
  exact hm s hs h

theorem Ordered.halted_step (h : Ordered t x) (hxy : Step x e y) :
    y.point = .settling ∨ y.state = .stopped → y.shared.pool.accepting = false := by
  have hy := not_halted (h.stage_step hxy)
  cases hxy with
  | enterInit | usimUp | usimFails | raise | start | spawn => exact fun hl => absurd hl (hy (.inr rfl))
  | stop | queueTeardown | teardownRejected | join | close => exact fun hl => absurd hl (hy (.inr rfl))
  | begin | run => exact fun hl => absurd hl (hy (.inl rfl))
  | halt => exact fun _ => rfl
  | settle hh => exact fun _ => h.halted (.inl (point_eq hh))
  | enterShutdown hh =>
    rintro (hp | hs)
    · have hn : ∀ s, (Phase.ofFound s : Phase L κ).point ≠ .settling := fun s => by cases s <;> nofun
      exact absurd hp (hn _)
    · exact h.halted (.inr hs)
  | refuseInit | returnInit | returnShutdown =>
    rintro (hp | hs)
    · cases hp
    · exact h.halted (.inr hs)
  | post => exact h.halted
  | work hk ha =>
    rintro (hp | hs)
    · exact ha.trans (h.halted (.inl hp))
    · exact ha.trans (h.halted (.inr (hk.state.symm.trans hs)))

theorem Ordered.step (h : Ordered t x) (hxy : Step x e y) : Ordered (t ++ [e]) y where
  stage := h.stage_step hxy
  task := h.task_step hxy
  tasks := hxy.effect.touched.tasks_eq_nil h.tasks
  queues := hxy.effect.touched.length_eq.trans h.queues
  waiting hc := by
    have hx : x.shared.dispatcher.closed = false :=
      Bool.eq_false_iff.2 fun hx => by simp [hxy.effect.touched.isClosed hx] at hc
    have hp : teardowns (x.tasks ++ e.posted?.toList) = teardowns (e.run?.toList ++ y.tasks) :=
      (hxy.effect.conserves hc).countP_eq _
    have hw := h.waiting hx
    rw [teardowns_append, teardowns_append] at hp
    rw [posted_snoc, run_snoc, teardowns_append, teardowns_append]
    omega
  begun := by
    rw [begun_snoc, run_snoc, h.begun, List.append_assoc, hxy.effect.task, List.append_assoc]
  ready := h.ready_step hxy
  halted := h.halted_step hxy

theorem ordered {c : StackConfig} (h : Run Step (start c) t x) : Ordered t x := by
  induction h with
  | nil => exact ordered_start c
  | snoc _ hs ih => exact ih.step hs

end Lifetime

end LteUe

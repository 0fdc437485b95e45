import LteUe.Proofs.Lifetime.Books
import LteUe.Proofs.Lifetime.Starting

/-!
# What the executor runs

In the life of a stack the executor runs the tasks that it takes, one at a time and in the order in which it
takes them, up to the one that ends it, and none after that; a task that faults is counted and ends nothing.
What was enqueued and not run by then is dropped when the dispatcher is closed (`Execution.runs_what_it_takes`).
-/

namespace LteUe

variable {L κ : Type}

namespace Execution

variable [Layers L κ] {t : List Event} {x y : Lifetime L κ} {w : Event}

/-! ## What goes on beside the tasks -/

theorem step_aside {e : Lifetime.Event} (h : Lifetime.Step x e y)
    (he : e.run? = none ∧ e.posted? = none ∧ e.begun? = none)
    (hd : y.shared.dispatcher = x.shared.dispatcher) : Step x (e, .missed) y :=
  .other h he.1 (hd ▸ .miss) he.2.1.symm he.2.2.symm

theorem run_aside {l : List Lifetime.Event} (h : Run Lifetime.Aside x l y) :
    Run Step x (l.map (·, .missed)) y :=
  h.map (g := id) fun _ ha => step_aside ha.step ha.idle ha.dispatcher

/-! ## Turns -/

theorem step_began {e e' : Executor L κ} {u : Task} {s : Shared κ} {i : Nat} (ht : x.task = none)
    (he : x.executor = some e) (hr : e.running = true) (hb : e.begin x.shared = some (u, e', s))
    (hi : x.shared.dispatcher.serving? = some i) :
    Step x (.began u, .popped i u) { x with shared := s, executor := some e', task := some u } := by
  obtain ⟨d, hp, hs, -⟩ := Executor.begin_spec hb
  have hd : s.dispatcher = d := hs.dispatcher
  refine .other (.begin ht he hr hb) rfl ?_ rfl rfl
  show Traffic.Effect x.shared.dispatcher (.popped i u) s.dispatcher
  rw [hd]
  exact Traffic.effect_of_tryPop hi hp

theorem step_begin {e e' : Executor L κ} {u : Task} {s : Shared κ} (ht : x.task = none)
    (he : x.executor = some e) (hr : e.running = true) (hb : e.begin x.shared = some (u, e', s)) :
    ∃ i, Step x (.began u, .popped i u) { x with shared := s, executor := some e', task := some u } := by
  obtain ⟨i, hi, -⟩ := Executor.exists_serving_of_begin hb
  exact ⟨i, step_began ht he hr hb hi⟩

theorem step_run {e : Executor L κ} {u : Task} {r : Except Fault Reply} (ht : x.task = some u)
    (he : x.executor = some e) (hr : (outcome (Work.perform u.command) (e, x.shared)).1 = r) :
    Step x (.ran u r, .missed)
      { x with shared := (e.run u x.shared).2, executor := some (e.run u x.shared).1, task := none } :=
  hr ▸ .run ht he (Executor.keeps_run u e x.shared).1

theorem run_turn {e e' : Executor L κ} {s : Shared κ} (ht : x.task = none) (he : x.executor = some e)
    (h : e.turn x.shared = some (e', s)) : ∃ u i r,
      Run Step x [(.began u, .popped i u), (.ran u r, .missed)] { x with shared := s, executor := some e' } ∧
      e'.running = decide (u.command ≠ .teardown) := by
  obtain ⟨hr, u, e₁, s₁, hb, hrun⟩ := Executor.turn_eq_some_iff.1 h
  obtain ⟨i, hbegin⟩ := step_begin ht he hr hb
  obtain ⟨-, -, -, hr₁⟩ := Executor.begin_spec hb
  have hg := Executor.running_run u e₁ s₁
  have hstep := step_run (x := { x with shared := s₁, executor := some e₁, task := some u }) rfl rfl rfl
  dsimp only at hstep
  rw [hrun] at hg hstep
  refine ⟨u, i, (outcome (Work.perform u.command) (e₁, s₁)).1, .cons hbegin (run_singleton_iff.2 ?_), ?_⟩
  · rw [ht]
    exact hstep
  · rw [hg, hr₁, hr, Bool.true_and]

/-- If nobody else does anything, the executor runs all that waits, unless it comes to the task that ends
it. -/
theorem exists_drained {e : Executor L κ} (ht : x.task = none) (he : x.executor = some e)
    (hr : e.running = true) (ho : x.shared.dispatcher.closed = false) :
    ∃ m y, Run Step x m y ∧ Lifetime.posted (lives m) = [] ∧
      (y.shared.dispatcher.tasks = [] ∨ ∃ u ∈ Lifetime.run (lives m), u.command = .teardown) := by
  induction hn : x.shared.dispatcher.tasks.length generalizing x e with
  | zero => exact ⟨[], x, .nil, rfl, .inl (List.length_eq_zero_iff.1 hn)⟩
  | succ n ih =>
    obtain ⟨_, e', s', hturn, hp, ho', -⟩ :=
      Executor.exists_turn hr ho fun hnil => by simp [hnil] at hn
    obtain ⟨u, i, r, hrun, hr'⟩ := run_turn ht he hturn
    by_cases hu : u.command = .teardown
    · exact ⟨_, _, hrun, rfl, .inr ⟨u, List.mem_singleton_self u, hu⟩⟩
    · rw [decide_eq_true hu] at hr'
      have hl := hp.length_eq
      rw [List.length_cons, hn] at hl
      obtain ⟨m, y, hm, hpost, hend⟩ :=
        ih (x := { x with shared := s', executor := some e' }) ht rfl hr' ho' (Nat.succ.inj hl.symm)
      refine ⟨_, y, hrun.append hm, hpost, hend.imp_right ?_⟩
      rintro ⟨v, hv, hc⟩
      exact ⟨v, List.mem_cons_of_mem _ hv, hc⟩

/-! ## The executor at work -/

/-- What the events `t` of a run that ends in `x` say of the executor, and what may come next. -/
structure Executes (t : List Event) (x : Lifetime L κ) : Prop where
  /-- The tasks run are the tasks taken, in the order in which they were taken, but for the one in progress. -/
  order : Lifetime.begun (lives t) = Lifetime.run (lives t) ++ x.task.toList
  /-- A task is taken while none is in progress, and it is the one that the dispatcher serves next. -/
  taken {u : Task} {d : Traffic.Event Task} {y : Lifetime L κ} : Step x (.began u, d) y →
    x.task = none ∧ x.shared.dispatcher.tryPop = some (u, y.shared.dispatcher)
  /-- Each queue is served in the order in which tasks have been accepted on it from the first, before a start
  or after it. -/
  queues (i : Nat) : x.shared.dispatcher.closed = false →
    Traffic.acceptedOn i (deals t) = Traffic.poppedFrom i (deals t) ++ x.shared.dispatcher.contents i
  /-- Entering, failing and succeeding starts leave the queues alone, and so do shutdowns as they enter and
  return. -/
  calls {n : Nat} {w : Event} {y : Lifetime L κ} : Step x w y → w.1.call? = some n →
    y.shared.dispatcher = x.shared.dispatcher
  /-- Before the first start that succeeds, all that was accepted waits. -/
  waits : x.state = .uninitialized → x.shared.dispatcher.closed = false → Lifetime.begun (lives t) = []
  /-- Whatever a task comes to, the executor goes on after it if it did before, unless the task is the one to
  end it; then it does not go on. -/
  goesOn {u : Task} {r : Except Fault Reply} {d : Traffic.Event Task} {y : Lifetime L κ}
    {e f : Executor L κ} : Step x (.ran u r, d) y → x.executor = some e → y.executor = some f →
      f.running = (e.running && u.command ≠ .teardown)
  /-- The executor goes on as long as it has not run the task that ends it. -/
  running {e : Executor L κ} : x.executor = some e →
    (e.running = true ↔ ∀ u ∈ Lifetime.run (lives t), u.command ≠ .teardown)
  /-- As long as it goes on and has no task in progress it takes one if one waits. -/
  able {e : Executor L κ} {u : Task} {d : Dispatcher Task} : x.executor = some e → e.running = true →
    x.task = none → x.shared.dispatcher.tryPop = some (u, d) → ∃ i y, Step x (.began u, .popped i u) y
  /-- If it goes on, and nobody else does anything, it runs all that waits, unless it comes to the task that
  ends it. -/
  drains {e : Executor L κ} : x.executor = some e → e.running = true → x.task = none →
    ∃ m y, Run Step x m y ∧ Lifetime.posted (lives m) = [] ∧
      (y.shared.dispatcher.tasks = [] ∨ ∃ u ∈ Lifetime.run (lives m), u.command = .teardown)
  /-- The task that ends the executor is the last one taken and run. -/
  last {u : Task} : u ∈ Lifetime.run (lives t) → u.command = .teardown →
    (∃ l, Lifetime.run (lives t) = l ++ [u] ∧ ∀ v ∈ l, v.command ≠ .teardown) ∧
      Lifetime.begun (lives t) = Lifetime.run (lives t)
  /-- After it none is taken, and none is run. -/
  ended {u : Task} {w : Event} {y : Lifetime L κ} : u ∈ Lifetime.run (lives t) → u.command = .teardown →
    Step x w y → w.1.begun? = none ∧ w.1.run? = none
  /-- The executor has counted the tasks run, and those of them that faulted. -/
  counts {e : Executor L κ} : x.executor = some e →
    e.tasksExecuted = (Lifetime.run (lives t)).length ∧ e.tasksFaulted = faults (lives t)
  /-- Every task accepted has been taken or dropped, or waits, and each once. -/
  accounts : (Lifetime.posted (lives t)).Perm
    (Lifetime.begun (lives t) ++ Traffic.droppedIn (deals t) ++ x.shared.dispatcher.tasks)
  /-- The close drops, and counts, the tasks accepted and not run. -/
  dropped {w : Event} {y : Lifetime L κ} : Step x w y → x.shared.dispatcher.closed = false →
    y.shared.dispatcher.closed = true →
      w.2 = .closed x.shared.dispatcher.close.1 ∧
      (Lifetime.posted (lives t)).Perm (Lifetime.run (lives t) ++ x.shared.dispatcher.close.1) ∧
      x.shared.dispatcher.close.1.length + (Lifetime.run (lives t)).length =
        (Lifetime.posted (lives t)).length
  /-- A turn of the executor is such a step after such another. -/
  turn {e e' : Executor L κ} {s : Shared κ} : x.task = none → x.executor = some e →
    e.turn x.shared = some (e', s) → ∃ u i r, Run Step x [(.began u, .popped i u), (.ran u r, .missed)]
      { x with shared := s, executor := some e' }

theorem Step.dispatcher_eq {n : Nat} (h : Step x w y) (hn : w.1.call? = some n) :
    y.shared.dispatcher = x.shared.dispatcher := by
  obtain ⟨e, d⟩ := w
  cases h with
  | run => cases hn
  | other hl =>
    cases hl with
    | usimUp _ hu | usimFails _ hu => exact ((Work.steady_hook _).of_ok hu).dispatcher
    | raise _ hu => exact (Rung.framed _ hu).1
    | enterInit | refuseInit | returnInit | enterShutdown | returnShutdown => rfl
    | _ => cases hn

theorem Books.ended (h : Books t x) (hw : Step x w y) {u : Task} (hu : u ∈ Lifetime.run (lives t))
    (hc : u.command = .teardown) : w.1.begun? = none ∧ w.1.run? = none := by
  obtain ⟨ht, -⟩ := h.of_teardown hu hc
  cases hw with
  | run htask =>
    rw [ht] at htask
    cases htask
  | other hl he =>
    refine ⟨?_, he⟩
    cases hl with
    | begin _ hxe hr => exact absurd hc ((h.running_iff hxe).1 hr u hu)
    | _ => rfl

theorem Books.dropped (h : Books t x) (hw : Step x w y) (ho : x.shared.dispatcher.closed = false)
    (hc : y.shared.dispatcher.closed = true) :
    w.2 = .closed x.shared.dispatcher.close.1 ∧
      (Lifetime.posted (lives t)).Perm (Lifetime.run (lives t) ++ x.shared.dispatcher.close.1) := by
  have hcl : w.2.isClosed = true := by
    have hc := hw.deal.closed_iff.1 hc
    rw [ho] at hc
    exact hc.resolve_left Bool.false_ne_true
  have hd : w.2 = .closed x.shared.dispatcher.close.1 := hw.deal.eq_closed hcl
  have hb := (h.step hw).begun_eq hc
  have hrun : Lifetime.run (lives (t ++ [w])) = Lifetime.run (lives t) := by
    cases hw with
    | run => cases hcl
    | other _ he => exact run_of_other he _
  rw [hrun, lives_snoc, Lifetime.begun_snoc, ← hw.popped, hd] at hb
  refine ⟨hd, ?_⟩
  have hp := h.conserves
  rw [h.accepted, h.popped, h.undropped ho, List.append_nil, ← List.append_nil (Lifetime.begun _)] at hp
  exact hb ▸ hp

/-- In every order of posts, starts, shutdowns and turns, the executor runs what it takes, as it takes it, up
to the task that ends it. -/
theorem runs_what_it_takes {c : StackConfig} (h : Run Step (Lifetime.start c) t x) : Executes t x where
  order := (books h).ordered.begun
  taken hw := by
    have hl : Lifetime.Step x (.began _) _ := hw.life
    cases hl with
    | begin ht _ _ hb =>
      obtain ⟨d, hp, hs, -⟩ := Executor.begin_spec hb
      exact ⟨ht, hp.trans (by rw [hs.dispatcher])⟩
  queues := (books h).queues
  calls := Step.dispatcher_eq
  waits hs _ := (books h).begun_eq_nil hs
  goesOn hw he hf := by
    cases hw with
    | other _ hrun => cases hrun
    | run _ he' =>
      cases he.symm.trans he'
      cases hf
      exact Executor.running_run ..
  running := (books h).running_iff
  able he hr ht hp := by
    obtain ⟨e', s', hb⟩ := Executor.begin_of_tryPop hp
    obtain ⟨i, hstep⟩ := step_begin ht he hr hb
    exact ⟨i, _, hstep⟩
  drains he hr ht := by
    have hm : ∀ s ∈ Lifetime.stages, s.executor ≠ none → s.closed = false := by decide
    exact exists_drained ht he hr (hm _ (books h).ordered.stage (by simp [Lifetime.stage, he]))
  last hu hc := by
    obtain ⟨ht, hl⟩ := (books h).of_teardown hu hc
    refine ⟨hl, ?_⟩
    rw [(books h).ordered.begun, ht]
    exact List.append_nil _
  ended hu hc hw := (books h).ended hw hu hc
  counts := (books h).counts _
  accounts := (books h).accepted ▸ (books h).popped ▸ (books h).conserves
  dropped hw ho hc := by
    obtain ⟨hd, hp⟩ := (books h).dropped hw ho hc
    have hl := hp.length_eq
    rw [List.length_append, Nat.add_comm] at hl
    exact ⟨hd, hp, hl.symm⟩
  turn ht he hturn := by
    obtain ⟨u, i, r, hrun, -⟩ := run_turn ht he hturn
    exact ⟨u, i, r, hrun⟩

/-- A radio with one cell. -/
def oneCell : Radio := { found := ⟨1, 100⟩, selectable := ⟨1, 100⟩ }

/-- A task that faults. -/
def boom : Task := { command := .ask 1 (some "boom") }

/-- The task that ends the executor. -/
def halt : Task := { command := .teardown }

/-- A task that does nothing. -/
def idle : Task := { command := .idle }

/-- A task that was enqueued before the start faults, and the executor goes on to the task that ends it; what
is enqueued after that is dropped. -/
theorem runs_past_fault :
    let t : List Event :=
      [(.posted boom, .accepted 0 ⟨0, 1⟩ boom), (.initEntered 0 oneCell .uninitialized, .missed),
        (.usim 0 (.ok ()), .missed), (.raised 0 .mac, .missed), (.raised 0 .rlc, .missed),
        (.raised 0 .pdcp, .missed), (.raised 0 .nas, .missed), (.raised 0 .rrc, .missed),
        (.raised 0 .radio, .missed), (.raised 0 (.capture .mac), .missed),
        (.raised 0 (.capture .nas), .missed), (.worked, .missed), (.worked, .missed),
        (.initReturned 0 (.ok ()), .missed), (.began boom, .popped 1 boom),
        (.ran boom (.error (.raised "boom")), .missed), (.shutdownEntered 1, .missed), (.worked, .missed),
        (.posted halt, .accepted 0 ⟨0, 0⟩ halt), (.began halt, .popped 0 halt),
        (.posted idle, .accepted 0 ⟨0, 1⟩ idle), (.ran halt (.ok .done), .missed), (.worked, .missed),
        (.worked, .closed [idle])]
    ∃ x : Lifetime ObservedLayers Callback, Run Step (Lifetime.start {}) t x ∧ Executes t x := by
  intro t
  have h : ∃ x : Lifetime ObservedLayers Callback, Run Step (Lifetime.start {}) t x := by
    refine exists_run_cons (.other (.post (k := .ue) nofun rfl) rfl (.accept rfl) rfl rfl) ?_
    -- The stack is started.
    refine exists_run_append
      (run_aside (Lifetime.run_starting ObservedLayers.jobless { plan := {} } {} rfl rfl)) ?_
    -- The executor runs what was enqueued before.
    refine exists_run_cons (.other (.begin rfl rfl rfl rfl) rfl (.pop rfl rfl rfl) rfl rfl) <|
      exists_run_cons (step_run rfl rfl rfl) ?_
    -- The stack is shut down.
    refine exists_run_cons (step_aside (.enterShutdown rfl) ⟨rfl, rfl, rfl⟩ rfl) <|
      exists_run_cons (step_aside (.stop rfl) ⟨rfl, rfl, rfl⟩ rfl) <|
      exists_run_cons (.other (.queueTeardown rfl rfl) rfl (.accept rfl) rfl rfl) ?_
    refine exists_run_cons (.other (.begin rfl rfl rfl rfl) rfl (.pop rfl rfl rfl) rfl rfl) ?_
    refine exists_run_cons (.other (.post (k := .ue) nofun rfl) rfl (.accept rfl) rfl rfl) <|
      exists_run_cons (step_run rfl rfl rfl) ?_
    refine exists_run_cons (step_aside (.join rfl rfl fun _ h => .inl (Option.some.inj h ▸ rfl))
      ⟨rfl, rfl, rfl⟩ rfl) ?_
    exact exists_run_cons (.other (.close rfl) rfl .close rfl rfl) ⟨_, .nil⟩
  obtain ⟨x, h⟩ := h
  exact ⟨x, h, runs_what_it_takes h⟩

end Execution

end LteUe

import LteUe.Proofs.Dispatcher.Fairness
import LteUe.Proofs.Executor.Frame
import LteUe.Proofs.Pool.Crew
import LteUe.Proofs.Stack.Accounts
import LteUe.Stack.Work

/-!
# The operations of a stack are runs

Putting a question, a turn of the executor, and the bringing up and the shutdown of a stack are made of
the steps of `Queries.Step`, with whatever layers (`run_asked`, `run_turn`, `run_init`, `run_shutdown`). The
shutdown comes to its end, since the executor takes every task that waits, and so also the one that ends
it (`Executor.running_turns`).
-/

namespace LteUe

open Function

variable {L κ α β : Type}

/-! ## Tasks go on beside the questions -/

namespace Work

/-- What the executor does goes on beside the questions. -/
def Aside (y y' : Executor L κ × Shared κ) : Prop := y.2.Beside y'.2

theorem composes_aside : Composes (Aside : Executor L κ × Shared κ → _ → Prop) where
  refl _ := ⟨rfl, rfl, rfl⟩
  trans h h' := h.trans h'

theorem Steady.aside {y y' : Executor L κ × Shared κ} (h : Steady y y') : Aside y y' :=
  ⟨h.dispatcher, h.slots, h.state⟩

/-- An executor that has ended stays so. -/
def Halted (y y' : Executor L κ × Shared κ) : Prop := y.1.running = false → y'.1.running = false

theorem composes_halted : Composes (Halted : Executor L κ × Shared κ → _ → Prop) where
  refl _ := id
  trans h h' hr := h' (h hr)

theorem halted_hook (h : Hook L κ α) : Moves Halted (hook h) :=
  (steady_hook h).mono fun hs hr => hs.running.trans hr

variable [Layers L κ]

/-- Bringing a stack up is a matter of hooks, but for the radio and the captures. -/
theorem moves_bringUp {R : Executor L κ × Shared κ → Executor L κ × Shared κ → Prop} (hc : Composes R)
    (hh : ∀ {β : Type} (h : Hook L κ β), Moves R (hook h))
    (hm : ∀ y captures world, R y (y.1, { y.2 with captures := captures, world := world })) (radio : Radio)
    (hr : ∀ y, R y (y.1, Stack.attachRadio radio y.2)) (sinks : Sinks) :
    Moves R (Stack.bringUp radio sinks : Work L κ (Except Causes Unit)) := by
  have hs := fun enabled path layer => moves_startCapture hc (hh (Layers.captureBegun layer)) hm sinks enabled path
  apply hc.bind (hh _)
  intro r
  cases r with
  | error causes => exact hc.pure _
  | ok u =>
    exact hc.bind (hh _) fun _ => hc.bind (hh _) fun _ => hc.bind (hh _) fun _ =>
      hc.bind (hh _) fun _ => hc.bind (hh _) fun _ => hc.bind (moves_modify hr) fun _ =>
      hc.bind (hc.bind hc.get fun _ => hc.bind (hs _ _ _) fun _ => hs _ _ _) fun _ => hc.pure _

theorem aside_bringUp (radio : Radio) (sinks : Sinks) :
    Moves Aside (Stack.bringUp radio sinks : Work L κ (Except Causes Unit)) := by
  refine moves_bringUp composes_aside (fun h => (steady_hook h).mono Steady.aside)
    (fun _ _ _ => ⟨rfl, rfl, rfl⟩) radio (fun y => ?_) sinks
  show y.2.Beside (Stack.attachRadio radio y.2)
  unfold Stack.attachRadio
  split
  · exact ⟨rfl, rfl, rfl⟩
  · exact ⟨rfl, rfl, rfl⟩

/-- At most the layers of the executor have changed. -/
def OnlyLayers (y y' : Executor L κ × Shared κ) : Prop := ∃ l, y'.1 = { y.1 with layers := l }

omit [Layers L κ] in
theorem composes_onlyLayers : Composes (OnlyLayers : Executor L κ × Shared κ → _ → Prop) where
  refl y := ⟨y.1.layers, rfl⟩
  trans := by
    rintro y y' y'' ⟨l, h⟩ ⟨l', h'⟩
    exact ⟨l', by rw [h', h]⟩

/-- An executor that has been brought up is as it was, but for its layers. -/
theorem onlyLayers_bringUp (radio : Radio) (sinks : Sinks) :
    Moves OnlyLayers (Stack.bringUp radio sinks : Work L κ (Except Causes Unit)) := by
  refine moves_bringUp composes_onlyLayers (fun h => ?_) (fun y _ _ => ⟨y.1.layers, rfl⟩) radio
    (fun y => ⟨y.1.layers, rfl⟩) sinks
  rintro ⟨e, s⟩
  obtain ⟨l, r, ho⟩ := outcome_hook h e s
  rw [ho]
  exact ⟨l, rfl⟩

theorem running_bringUp (radio : Radio) (sinks : Sinks) :
    Moves (fun y y' => y'.1.running = y.1.running)
      (Stack.bringUp radio sinks : Work L κ (Except Causes Unit)) := by
  refine (onlyLayers_bringUp radio sinks).mono ?_
  rintro y y' ⟨l, h⟩
  rw [h]

theorem halts_teardown :
    Moves (fun _ y => y.1.running = false) (teardown : Work L κ Unit) := by
  refine Moves.bind (R := fun _ y => y.1.running = false) (S := Halted) (moves_modify fun _ => rfl)
    (fun _ => ?_) (fun h h' => h' h) id
  have hc : Composes (@Halted L κ) := composes_halted
  refine hc.bind (halted_hook _) fun _ =>
    hc.bind (halted_hook _) fun _ => hc.bind (halted_hook _) fun _ =>
    hc.bind (halted_hook _) fun _ => hc.bind (halted_hook _) fun _ =>
    hc.bind (halted_hook _) fun _ => moves_modify fun y => id

/-- The task that stops the layers ends the executor, even if a layer faults. -/
theorem halts_perform_teardown :
    Moves (fun _ y => y.1.running = false) (perform .teardown : Work L κ Reply) := by
  have hc : Composes (@Halted L κ) := composes_halted
  have ht : Moves (fun _ y => y.1.running = false) (teardown : Work L κ Unit) := halts_teardown
  exact ht.bind (S := Halted) (fun _ => hc.pure _) (fun h h' => h' h) id

end Work

/-! ## Turns of the executor -/

theorem Dispatcher.exists_tryPop {β : Type} {d : Dispatcher β} (ho : d.closed = false)
    (hd : d.tasks ≠ []) : ∃ a d', d.tryPop = some (a, d') ∧ d.tasks.Perm (a :: d'.tasks) ∧
      d'.closed = false := by
  obtain ⟨i, hi⟩ : ∃ i, d.contents i ≠ [] := by
    by_contra hn
    exact hd (Dispatcher.tasks_eq_nil_iff.2 fun i => by_contra fun hi => hn ⟨i, hi⟩)
  obtain ⟨j, hj⟩ := Option.ne_none_iff_exists'.1 (Dispatcher.serving?_ne_none hi)
  obtain ⟨-, -, -, hne, -⟩ := Dispatcher.serving?_eq_some_iff.1 hj
  have ha := List.head?_eq_some_head hne
  refine ⟨_, d.serve j, ?_, Dispatcher.tasks_serve ha, ho⟩
  exact Dispatcher.tryPop_eq_some_iff.2 ⟨ho, Dispatcher.popInTurn_eq_some_iff.2 ⟨j, hj, ha, rfl⟩⟩

namespace Executor

variable {e e' : Executor L κ} {s s' : Shared κ} {u : Task}

theorem begin_of_tryPop {d : Dispatcher Task} (h : s.dispatcher.tryPop = some (u, d)) :
    ∃ e' s', e.begin s = some (u, e', s') :=
  ⟨_, _, begin_eq_some_iff.2 ⟨d, h, rfl, rfl⟩⟩

theorem running_conclude (u : Task) (r : Except Fault Reply) (e : Executor L κ) (s : Shared κ) :
    (conclude u r e s).1.running = e.running := by
  cases r <;> rfl

variable [Layers L κ]

/-- The executor goes on after a task unless the task is the one that ends it. -/
theorem running_run (u : Task) (e : Executor L κ) (s : Shared κ) :
    (e.run u s).1.running = (e.running && u.command ≠ .teardown) := by
  unfold run
  rw [running_conclude]
  by_cases hu : u.command = .teardown
  · rw [hu, Work.halts_perform_teardown (e, s)]
    simp
  · rw [(Work.admits_steady.perform_of_ne hu (e, s)).running]
    simp [hu]

theorem dispatcher_run (u : Task) (e : Executor L κ) (s : Shared κ) :
    (e.run u s).2.dispatcher = s.dispatcher :=
  (refilled_conclude ..).dispatcher.trans (Work.steady_perform u.command (e, s)).dispatcher

theorem exists_turn (hr : e.running = true) (ho : s.dispatcher.closed = false)
    (hd : s.dispatcher.tasks ≠ []) :
    ∃ u e' s', e.turn s = some (e', s') ∧ s.dispatcher.tasks.Perm (u :: s'.dispatcher.tasks) ∧
      s'.dispatcher.closed = false ∧ (u.command = .teardown → e'.running = false) := by
  obtain ⟨u, d, hp, hd, hdo⟩ := Dispatcher.exists_tryPop ho hd
  obtain ⟨e₁, s₁, hb⟩ := begin_of_tryPop (e := e) hp
  obtain ⟨d', hp', hs, -⟩ := begin_spec hb
  obtain rfl : d = d' := by
    rw [hp] at hp'
    exact (Prod.mk.inj (Option.some.inj hp')).2
  have hd' : (e₁.run u s₁).2.dispatcher = d := (dispatcher_run ..).trans hs.dispatcher
  refine ⟨u, (e₁.run u s₁).1, (e₁.run u s₁).2, ?_, ?_, ?_, ?_⟩
  · exact turn_eq_some_iff.2 ⟨hr, u, e₁, s₁, hb, rfl⟩
  · rwa [hd']
  · rwa [hd']
  · intro hu
    unfold run
    rw [running_conclude, hu]
    exact Work.halts_perform_teardown (e₁, s₁)

theorem turn_of_halted (hr : e.running = false) : e.turn s = none := by
  unfold turn
  rw [hr]
  rfl

/-- If there is an end among the tasks that wait, the executor comes to it. -/
theorem running_turns {n : Nat} (ho : s.dispatcher.closed = false)
    (hn : s.dispatcher.tasks.length ≤ n)
    (h : e.running = false ∨ ∃ u ∈ s.dispatcher.tasks, u.command = .teardown) :
    (e.turns n s).1.running = false := by
  induction n generalizing e s with
  | zero =>
    rcases h with h | ⟨u, hu, -⟩
    · exact h
    · rw [List.length_eq_zero_iff.1 (Nat.le_zero.1 hn)] at hu
      cases hu
  | succ n ih =>
    rcases Bool.eq_false_or_eq_true e.running with hr | hr
    · obtain ⟨u, hu, hc⟩ : ∃ u ∈ s.dispatcher.tasks, u.command = .teardown := by
        rcases h with h | h
        · rw [hr] at h
          cases h
        · exact h
      obtain ⟨a, e', s', ht, hp, ho', ha⟩ := exists_turn hr ho (List.ne_nil_of_mem hu)
      have hl := hp.length_eq
      rw [List.length_cons] at hl
      rw [turns, ht]
      refine ih ho' (by omega) ?_
      rcases List.mem_cons.1 (hp.mem_iff.1 hu) with rfl | hm
      · exact .inl (ha hc)
      · exact .inr ⟨u, hm, hc⟩
    · rw [turns, turn_of_halted hr]
      exact hr

end Executor

namespace Stack

variable [Layers L κ] {σ ε : Type} {step : σ → ε → σ → Prop} {f : Stack L κ → σ}

/-- If the turns of an executor are runs of some system, so is what it does until no task waits. -/
theorem exists_run_runWaiting
    (hturn : ∀ {y : Stack L κ} {e e' s}, y.executor = some e → e.turn y.shared = some (e', s) →
      ∃ t, Run step (f y) t (f { shared := s, executor := some e' })) (y : Stack L κ) :
    ∃ t, Run step (f y) t (f y.runWaiting) := by
  have hturns : ∀ (n : Nat) {y : Stack L κ} {e : Executor L κ}, y.executor = some e →
      ∃ t, Run step (f y) t
        (f { shared := (e.turns n y.shared).2, executor := some (e.turns n y.shared).1 }) := by
    intro n
    induction n with
    | zero =>
      intro y e he
      refine ⟨[], ?_⟩
      rw [Executor.turns, ← he]
      exact .nil
    | succ n ih =>
      intro y e he
      rw [Executor.turns]
      cases h : e.turn y.shared with
      | none =>
        refine ⟨[], ?_⟩
        simp only [← he]
        exact .nil
      | some z =>
        obtain ⟨t, ht⟩ := hturn he h
        obtain ⟨t', ht'⟩ := ih (y := { shared := z.2, executor := some z.1 }) rfl
        exact ⟨_, ht.append ht'⟩
  unfold runWaiting
  cases he : y.executor with
  | none => exact ⟨[], .nil⟩
  | some e => exact hturns _ he

end Stack

namespace Queries

variable {x : Queries L κ} {p : Nat} {c : Command}

/-! ## Putting a question -/

theorem run_asked {i : Nat} {s : Shared κ} (hp : x.callers p = .idle)
    (h : x.shared.ask c = .asked i s) :
    Run Step x [.entered p c .running, .pushed p c (.accepted i)]
      { x with shared := s, callers := update x.callers p (.waiting i) } := by
  unfold Shared.ask at h
  split at h
  · cases h
  · rename_i hs
    have hs : x.state = .running := by simpa [Stack.state] using hs
    have h₁ := Step.enter p c hp hs
    have h₂ : Step { x with callers := update x.callers p (.asking c) } _ _ :=
      .accept (update_self ..) h
    rw [hs] at h₁
    rw [update_idem] at h₂
    exact .cons h₁ (.cons h₂ .nil)

theorem run_refused {e : StackError} (hp : x.callers p = .idle)
    (h : x.shared.ask c = .refused e) :
    ∃ t, Run Step x t { x with callers := update x.callers p .done } ∧
      returnedTo p t = [.error e] := by
  unfold Shared.ask at h
  split at h
  · rename_i hs
    cases h
    have h₁ := Step.deny p c hp hs
    refine ⟨_, run_singleton_iff.2 h₁, ?_⟩
    have hr : Event.returned? p (.entered p c x.state) = some (.error .notRunning) :=
      if_pos ⟨rfl, hs⟩
    rw [returnedTo, List.filterMap_cons_some hr]
    rfl
  · rename_i hs
    have hs : x.state = .running := by simpa [Stack.state] using hs
    have h₁ := Step.enter p c hp hs
    have h₂ : Step { x with callers := update x.callers p (.asking c) } _ _ :=
      .refuse (update_self ..) h
    rw [hs] at h₁
    rw [update_idem] at h₂
    exact ⟨_, .cons h₁ (.cons h₂ .nil), by simp [returnedTo, Event.returned?]⟩

/-! ## Running -/

variable [Layers L κ]

theorem run_turn {e e' : Executor L κ} {s : Shared κ} (ht : x.task = none)
    (he : x.executor = some e) (h : e.turn x.shared = some (e', s)) :
    ∃ u e₁ s₁, e.begin x.shared = some (u, e₁, s₁) ∧
      Run Step x [.began u, .ran u (outcome (Work.perform u.command) (e₁, s₁)).1]
        { x with shared := s, executor := some e' } := by
  obtain ⟨hr, u, e₁, s₁, hb, hr'⟩ := Executor.turn_eq_some_iff.1 h
  refine ⟨u, e₁, s₁, hb, .cons (.begin ht he hr hb) (run_singleton_iff.2 ?_)⟩
  have hp := (Work.steady_perform u.command (e₁, s₁)).aside
  have hs : Step { x with shared := s₁, executor := some e₁, task := some u } _ _ :=
    .run (e := (outcome (Work.perform u.command) (e₁, s₁)).2.1)
      (r := (outcome (Work.perform u.command) (e₁, s₁)).1) rfl rfl hp
  obtain rfl : _ = e' := congrArg Prod.fst hr'
  obtain rfl : _ = s := congrArg Prod.snd hr'
  rw [ht]
  exact hs

theorem run_runWaiting (ht : x.task = none) :
    ∃ t, Run Step x t { x with toStack := x.toStack.runWaiting } :=
  x.toStack.exists_run_runWaiting (f := fun y => { x with toStack := y }) fun {y _ _ _} he h => by
    obtain ⟨_, _, _, -, hr⟩ := run_turn (x := { x with toStack := y }) ht he h
    exact ⟨_, hr⟩

/-- A stack that is brought up is said to run, and then has its executor. -/
theorem run_init {layers : L} {radio : Radio} {sinks : Sinks} {s : Stack L κ} {u : Unit}
    (hl : x.lifecycle = .idle) (hs : x.state = .uninitialized)
    (h : Stack.init layers radio sinks x.toStack = .ok (.ok u) s) :
    Run Step x [.worked, .worked] { x with toStack := s } := by
  have hb := Work.aside_bringUp (L := L) radio sinks (.ofLayers layers x.shared.config, x.shared)
  unfold Stack.init at h
  rw [if_neg (not_not.2 hs)] at h
  unfold outcome at hb
  split at h
  · cases h
  · cases h
  · rename_i e shared hr
    cases h
    rw [hr] at hb
    have hb : x.shared.Beside shared := hb
    have h₁ : Step x .worked _ := .start hl hs hb
    rw [hl]
    exact .cons h₁ (run_singleton_iff.2 (.spawn e rfl))

end Queries

/-! ## Shutting down -/

namespace WorkerPool

variable {p p' : WorkerPool β} {w : Nat} {j : β}

theorem accepting_receive (h : p.receive w = some (j, p')) : p'.accepting = p.accepting := by
  obtain ⟨-, _, -, rfl⟩ := receive_eq_some_iff.1 h
  rfl

end WorkerPool

namespace Shared

variable {s s' : Shared κ}

theorem beside_pool (s : Shared κ) (p : WorkerPool Job) : s.Beside { s with pool := p } :=
  ⟨rfl, rfl, rfl⟩

/-- What a worker changes: the pool, which goes on taking jobs or not, and what lies around the stack. -/
def Worked (s s' : Shared κ) : Prop :=
  ∃ pool world, pool.accepting = s.pool.accepting ∧ s' = { s with pool := pool, world := world }

theorem worked_refl (s : Shared κ) : s.Worked s := ⟨_, _, rfl, rfl⟩

theorem Worked.trans {t : Shared κ} (h : Worked s t) (h' : Worked t s') : Worked s s' := by
  obtain ⟨p, w, hp, rfl⟩ := h
  obtain ⟨p', w', hp', rfl⟩ := h'
  exact ⟨p', w', hp'.trans hp, rfl⟩

theorem Worked.beside (h : Worked s s') : s.Beside s' := by
  obtain ⟨p, w, -, rfl⟩ := h
  exact ⟨rfl, rfl, rfl⟩

theorem consult_eq (s : Shared κ) (j : Job) : ∃ world, (s.consult j).2 = { s with world := world } := by
  cases j with
  | search =>
    simp only [consult]
    split <;> exact ⟨_, rfl⟩
  | select cell =>
    simp only [consult]
    split <;> exact ⟨_, rfl⟩
  | report c => exact ⟨_, rfl⟩
  | fail => exact ⟨_, rfl⟩

theorem worked_consult (s : Shared κ) (j : Job) : s.Worked (s.consult j).2 := by
  obtain ⟨w, hw⟩ := s.consult_eq j
  exact ⟨s.pool, w, rfl, hw⟩

theorem enqueue_of_closed (hc : s.dispatcher.closed = true) (k : QueueKind) (c : Command) :
    s.enqueue k c = some (.error (.closed { command := c }), s) := by
  have ho : s.offer k { command := c } = .rejected (.closed { command := c }) :=
    Dispatcher.offer_eq_rejected_iff.2 (.inl ⟨hc, rfl⟩)
  unfold enqueue
  rw [ho]

theorem worked_runJob {r : Option Bool} (hc : s.dispatcher.closed = true)
    (h : s.runJob = some (r, s')) : s.Worked s' := by
  unfold runJob at h
  obtain ⟨⟨job, pool⟩, hp, h⟩ := Option.bind_eq_some_iff.1 h
  have hw : s.Worked ({ s with pool := pool }.consult job).2 :=
    Worked.trans ⟨pool, s.world, WorkerPool.accepting_receive hp, rfl⟩ (worked_consult _ job)
  dsimp only at h
  generalize Shared.consult { s with pool := pool } job = y at h hw
  obtain ⟨_ | c, s₁⟩ := y
  · cases h
    exact hw.trans ⟨s₁.pool.complete 0, _, rfl, rfl⟩
  · have hc₁ : s₁.dispatcher.closed = true := by rw [hw.beside.dispatcher, hc]
    simp only [postResult, enqueue_of_closed hc₁, Option.map_some] at h
    cases h
    exact hw.trans ⟨s₁.pool.complete 0, _, rfl, rfl⟩

theorem worked_runJobs (n : Nat) (hc : s.dispatcher.closed = true) : s.Worked (s.runJobs n) := by
  induction n generalizing s with
  | zero => exact s.worked_refl
  | succ n ih =>
    unfold runJobs
    cases h : s.runJob with
    | none => exact s.worked_refl
    | some y =>
      have hw := worked_runJob hc h
      exact hw.trans (ih (by rw [hw.beside.dispatcher, hc]))

end Shared

namespace Stack

variable {s s' : Stack L κ}

/-- A dispatcher that is not closed does not reject the task that ends the executor. -/
theorem offer_of_queueTeardown (hc : s.shared.dispatcher.closed = false)
    (hl : s.shared.dispatcher.queues.length = QueueKind.all.length) (h : s.queueTeardown = some s') :
    ∃ d, s.shared.offer .control { command := .teardown } = .accepted d ∧
      s' = { s with shared := { s.shared with dispatcher := d } } := by
  unfold queueTeardown Shared.enqueue at h
  cases ho : s.shared.offer .control { command := .teardown } with
  | accepted d =>
    rw [ho] at h
    exact ⟨d, rfl, (Option.some.inj h).symm⟩
  | rejected e =>
    have hk : QueueKind.control.index < s.shared.dispatcher.queues.length := by
      rw [hl]
      decide
    rw [Shared.closed_of_rejected hk ho] at hc
    cases hc
  | parked =>
    rw [ho] at h
    cases h

/-- Once the task that ends the executor waits, the executor comes to its end. -/
theorem halted_runWaiting [Layers L κ] {d : Dispatcher Task}
    (ho : s.shared.offer .control { command := .teardown } = .accepted d) (e : Executor L κ)
    (he : (runWaiting { s with shared := { s.shared with dispatcher := d } }).executor = some e) :
    e.running = false := by
  have hd : d.closed = false :=
    (Dispatcher.closed_of_accepted ho).trans (Dispatcher.offer_eq_accepted_iff.1 ho).1
  have hm : ({ command := .teardown } : Task) ∈ d.tasks :=
    (Dispatcher.tasks_of_accepted ho).mem_iff.2 List.mem_cons_self
  cases hs : s.executor with
  | none =>
    simp only [runWaiting, hs] at he
    cases he
  | some e₀ =>
    simp only [runWaiting, hs] at he
    obtain rfl := Option.some.inj he
    exact Executor.running_turns hd (Nat.le_refl _) (.inr ⟨_, hm, rfl⟩)

end Stack

namespace Queries

variable {x : Queries L κ}

theorem run_finish (hl : x.lifecycle = .closing) :
    Run Step x [.closed x.shared.dispatcher.tasks, .stopped]
      { x with toStack := x.toStack.finish, lifecycle := .idle } := by
  have hc : ({ x.shared.closeDispatcher with
      pool := x.shared.closeDispatcher.pool.stop.2 } : Shared κ).dispatcher.closed = true :=
    x.shared.closed_closeDispatcher
  refine .cons (.close hl) (run_singleton_iff.2 (.finish rfl ?_))
  exact (Shared.beside_pool ..).trans (Shared.worked_runJobs _ hc).beside

/-- While a stack is being shut down, the task that ends the executor is not rejected. -/
theorem Ordered.offer_of_queueTeardown (h : Ordered x) (hl : x.lifecycle = .stopping)
    {s : Stack L κ} (hq : x.toStack.queueTeardown = some s) :
    ∃ d, x.shared.offer .control { command := .teardown } = .accepted d ∧
      s = { x.toStack with shared := { x.shared with dispatcher := d } } := by
  have hm : ∀ s ∈ stages, s.lifecycle = .stopping → s.closed = false := by decide
  exact Stack.offer_of_queueTeardown (hm _ h.stage hl) h.queues hq

variable [Layers L κ]

/-- Once the task that ends the executor is accepted, the shutdown comes to its end. -/
theorem run_endExecutor {d : Dispatcher Task} (hl : x.lifecycle = .stopping)
    (ht : x.task = none) (ho : x.shared.offer .control { command := .teardown } = .accepted d) :
    ∃ t, .stopped ∈ t ∧ Run Step x t
      { x with
        toStack := { x.toStack with shared := { x.shared with dispatcher := d } }.endExecutor
        lifecycle := .idle } := by
  have h₁ := Step.queueTeardown hl ho
  obtain ⟨t, h₂⟩ := run_runWaiting (x := { x with
    shared := { x.shared with dispatcher := d }, lifecycle := .joining }) ht
  have h₃ := Step.join (x := { x with
    toStack := Stack.runWaiting { x.toStack with shared := { x.shared with dispatcher := d } }
    lifecycle := .joining }) rfl ht fun e he => .inl (Stack.halted_runWaiting ho e he)
  refine ⟨_, ?_, .cons h₁ (h₂.append (.cons h₃ (run_finish rfl)))⟩
  simp

/-- A shutdown is made of steps, whatever the layers do and whatever waits, unless the queue of
lifecycle tasks is full and stays so. -/
theorem run_shutdown (hx : Ordered x) (hl : x.lifecycle = .idle) (ht : x.task = none)
    (hq : x.state = .running → x.toStack.beginShutdown.queueTeardown ≠ none ∨
      x.toStack.beginShutdown.runWaiting.queueTeardown ≠ none) :
    ∃ t, .stopped ∈ t ∧ Run Step x t { x with toStack := x.toStack.shutdown } := by
  unfold Stack.shutdown
  cases hs : x.toStack.state with
  | stopped =>
    have h₁ := Step.stoppedBefore hl hs
    exact ⟨[.stopped], List.mem_singleton_self _, run_singleton_iff.2 h₁⟩
  | uninitialized =>
    have h₁ := Step.shutdownUnused hl hs
    rw [hl]
    refine ⟨_, ?_, .cons h₁ (run_finish rfl)⟩
    simp
  | stopping =>
    have hn : ∀ s ∈ stages, s.lifecycle = .idle → s.state ≠ .stopping := by decide
    exact absurd hs (hn _ hx.stage hl)
  | running =>
    have h₁ := Step.shutdown hl (.inl hs)
    have hx₁ := hx.step h₁
    rw [hl]
    cases hq₁ : x.toStack.beginShutdown.queueTeardown with
    | some s =>
      obtain ⟨d, hd, rfl⟩ := hx₁.offer_of_queueTeardown rfl hq₁
      obtain ⟨t, hst, h₂⟩ := run_endExecutor
        (x := { x with toStack := x.toStack.beginShutdown, lifecycle := .stopping }) rfl ht hd
      simp only [hq₁]
      exact ⟨_, List.mem_cons_of_mem _ hst, .cons h₁ h₂⟩
    | none =>
      obtain ⟨t, h₂⟩ := run_runWaiting
        (x := { x with toStack := x.toStack.beginShutdown, lifecycle := .stopping }) ht
      have hx₂ := h₂.invariant hx₁ fun _ _ _ h hs => h.step hs
      obtain ⟨s, hq₂⟩ := Option.ne_none_iff_exists'.1 ((hq hs).resolve_left (absurd hq₁))
      obtain ⟨d, hd, rfl⟩ := hx₂.offer_of_queueTeardown rfl hq₂
      obtain ⟨t', hst, h₃⟩ := run_endExecutor (x := { x with
        toStack := x.toStack.beginShutdown.runWaiting, lifecycle := .stopping }) rfl ht hd
      simp only [hq₁, hq₂, Option.getD_some]
      exact ⟨_, List.mem_cons_of_mem _ (List.mem_append_right _ hst), .cons h₁ (h₂.append h₃)⟩

end Queries

end LteUe

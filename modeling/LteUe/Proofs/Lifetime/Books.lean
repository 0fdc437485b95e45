import LteUe.Proofs.Dispatcher.Delivery
import LteUe.Proofs.Lifetime.Operations

/-!
# The books of the executor

The life of a stack once more, in which the executor runs the tasks themselves and every step is told with what
it does at the dispatcher (`Execution.Step`). A task that is run is counted once, and once more if it faults
(`Executor.counts_run`). What is posted, taken, run, dropped and counted agrees at any time
(`Execution.books`).
-/

namespace LteUe

variable {L κ : Type}

/-! ## What is counted -/

namespace Work

/-- No task has been counted. -/
structure Uncounted (y y' : Executor L κ × Shared κ) : Prop where
  executed : y'.1.tasksExecuted = y.1.tasksExecuted
  faulted : y'.1.tasksFaulted = y.1.tasksFaulted

theorem Steady.uncounted {y y' : Executor L κ × Shared κ} (h : Steady y y') : Uncounted y y' :=
  ⟨h.executed, h.faulted⟩

theorem uncounted_perform [Layers L κ] (c : Command) :
    Moves Uncounted (perform c : Work L κ Reply) :=
  fun y => ⟨(steady_perform c y).executed, (steady_perform c y).faulted⟩

end Work

theorem Rung.uncounted [Layers L κ] {radio : Radio} {sinks : Sinks} {y z : Executor L κ × Shared κ}
    (r : Rung) (h : r.work radio sinks y = .ok () z) : Work.Uncounted y z := by
  by_cases hr : r = .radio
  · subst hr
    rw [work_radio h]
    exact ⟨rfl, rfl⟩
  · exact ((Rung.steady_work hr).of_ok h).uncounted

namespace Executor

variable {e e' : Executor L κ} {s s' : Shared κ} {u : Task}

theorem uncounted_begin (h : e.begin s = some (u, e', s')) : Work.Uncounted (e, s) (e', s') := by
  obtain ⟨d, -, rfl, rfl⟩ := begin_eq_some_iff.1 h
  exact ⟨rfl, rfl⟩

/-- A task that is run is counted once, and once more if it faults. -/
theorem counts_run [Layers L κ] (u : Task) (e : Executor L κ) (s : Shared κ) :
    (e.run u s).1.tasksExecuted = e.tasksExecuted + 1 ∧
      (e.run u s).1.tasksFaulted =
        e.tasksFaulted + if (outcome (Work.perform u.command) (e, s)).1.isOk then 0 else 1 := by
  have hu := Work.uncounted_perform u.command (e, s)
  unfold run
  generalize outcome (Work.perform u.command) (e, s) = r at hu ⊢
  obtain ⟨r, e₁, s₁⟩ := r
  cases r with
  | ok v => exact ⟨congrArg (· + 1) hu.executed, hu.faulted⟩
  | error f => exact ⟨congrArg (· + 1) hu.executed, congrArg (· + 1) hu.faulted⟩

end Executor

namespace Execution

/-! ## Steps -/

/-- What happens in one step of a stack's life, told with what it does at the dispatcher. -/
abbrev Event := Lifetime.Event × Traffic.Event Task

/-- A task that has come to its end with a fault. -/
def isFault : Lifetime.Event → Bool
  | .ran _ r => !r.isOk
  | _ => false

/-- What happened in the stack's life. -/
def lives (t : List Event) : List Lifetime.Event := t.map (·.1)

/-- What happened at the dispatcher. -/
def deals (t : List Event) : List (Traffic.Event Task) := t.map (·.2)

section Step

variable [Layers L κ]

/-- The steps in a stack's life in which the executor runs the tasks themselves. What a task sees of what all
threads share may be anything, as they go on while it runs. -/
inductive Step : Lifetime L κ → Event → Lifetime L κ → Prop
  | other {x y : Lifetime L κ} {e : Lifetime.Event} {d : Traffic.Event Task} :
      Lifetime.Step x e y → e.run? = none → Traffic.Effect x.shared.dispatcher d y.shared.dispatcher →
        d.accepted? = e.posted? → d.popped? = e.begun? → Step x (e, d) y
  | run {x : Lifetime L κ} {e : Executor L κ} {u : Task} {seen s : Shared κ} :
      x.task = some u → x.executor = some e → x.shared.Keeps s →
        Step x (.ran u (outcome (Work.perform u.command) (e, seen)).1, .missed)
          { x with shared := s, executor := some (e.run u seen).1, task := none }

variable {x y : Lifetime L κ} {w : Event}

theorem Step.life (h : Step x w y) : Lifetime.Step x w.1 y := by
  cases h with
  | other h => exact h
  | @run e u seen s ht he hk =>
    obtain ⟨-, hg, hd⟩ := Executor.keeps_run u e seen
    exact .run ht he hk hg hd

theorem Step.deal (h : Step x w y) : Traffic.Effect x.shared.dispatcher w.2 y.shared.dispatcher := by
  cases h with
  | other _ _ h => exact h
  | run _ _ hk =>
    rw [hk.dispatcher]
    exact .miss

theorem Step.accepted (h : Step x w y) : w.2.accepted? = w.1.posted? := by
  cases h with
  | other _ _ _ h => exact h
  | run => rfl

theorem Step.popped (h : Step x w y) : w.2.popped? = w.1.begun? := by
  cases h with
  | other _ _ _ _ h => exact h
  | run => rfl

end Step

/-! ## What holds at any time -/

/-- How many tasks have faulted. -/
def faults (t : List Lifetime.Event) : Nat := t.countP isFault

theorem faults_le (t : List Lifetime.Event) : faults t ≤ (Lifetime.run t).length := by
  rw [faults, Lifetime.run, List.length_filterMap_eq_countP]
  refine List.countP_mono_left fun e _ he => ?_
  cases e with
  | ran u r => rfl
  | _ => cases he

theorem lives_snoc (t : List Event) (w : Event) : lives (t ++ [w]) = lives t ++ [w.1] := List.map_append

theorem deals_snoc (t : List Event) (w : Event) : deals (t ++ [w]) = deals t ++ [w.2] := List.map_append

theorem faults_snoc (t : List Lifetime.Event) (e : Lifetime.Event) :
    faults (t ++ [e]) = faults t + if isFault e then 1 else 0 := by
  rw [faults, List.countP_append, List.countP_singleton]
  rfl

theorem dropped_of_not_closed {d : Traffic.Event Task} (h : d.isClosed = false) : d.dropped = [] := by
  cases d with
  | closed => cases h
  | _ => rfl

/-- What holds after the events `t`. No task is lost but by the close, and none before it; each queue has
been served in order. Only the last task run may be one that ends the executor, and then no task is in
progress. The executor has counted the tasks run, and one that a start makes ready has none to count. -/
structure Books (t : List Event) (x : Lifetime L κ) : Prop where
  ordered : Lifetime.Ordered (lives t) x
  accepted : Traffic.acceptedIn (deals t) = Lifetime.posted (lives t)
  popped : Traffic.poppedIn (deals t) = Lifetime.begun (lives t)
  conserves : (Traffic.acceptedIn (deals t)).Perm
    (Traffic.poppedIn (deals t) ++ Traffic.droppedIn (deals t) ++ x.shared.dispatcher.tasks)
  undropped : x.shared.dispatcher.closed = false → Traffic.droppedIn (deals t) = []
  queues (i : Nat) : x.shared.dispatcher.closed = false →
    Traffic.acceptedOn i (deals t) = Traffic.poppedFrom i (deals t) ++ x.shared.dispatcher.contents i
  last : Lifetime.teardowns (Lifetime.run (lives t)).dropLast = 0
  task : Lifetime.teardowns (Lifetime.run (lives t)) ≠ 0 → x.task = none
  fresh : Lifetime.ups (lives t) = 0 → x.executor = none → Lifetime.run (lives t) = []
  ready (n : Nat) (ph : Phase L κ) (e : Executor L κ) : x.holder = some (n, ph) → ph.executor? = some e →
    e.tasksExecuted = 0 ∧ e.tasksFaulted = 0
  counts (e : Executor L κ) : x.executor = some e →
    e.tasksExecuted = (Lifetime.run (lives t)).length ∧ e.tasksFaulted = faults (lives t)

theorem books_start (c : StackConfig) : Books [] (Lifetime.start c : Lifetime L κ) where
  ordered := Lifetime.ordered_start c
  accepted := rfl
  popped := rfl
  conserves := .nil
  undropped _ := rfl
  queues i _ := (Dispatcher.tasks_eq_nil_iff.1 rfl i).symm
  last := rfl
  task h := absurd rfl h
  fresh _ _ := rfl
  ready _ _ _ h := by cases h
  counts _ h := by cases h

variable {t : List Event} {x y : Lifetime L κ} {w : Event}

theorem teardowns_eq_zero_iff {l : List Task} :
    Lifetime.teardowns l = 0 ↔ ∀ u ∈ l, u.command ≠ .teardown := by
  simp [Lifetime.teardowns, List.countP_eq_zero]

theorem Books.running_iff (h : Books t x) {e : Executor L κ} (he : x.executor = some e) :
    e.running = true ↔ ∀ u ∈ Lifetime.run (lives t), u.command ≠ .teardown := by
  have hm : ∀ s ∈ Lifetime.stages, ∀ b, s.executor = some b → (b = true ↔ s.run = 0) := by decide
  rw [hm _ h.ordered.stage e.running (by simp [Lifetime.stage, he])]
  exact teardowns_eq_zero_iff

theorem Books.begun_eq_nil (h : Books t x) (hs : x.state = .uninitialized) :
    Lifetime.begun (lives t) = [] := by
  have hm : ∀ s ∈ Lifetime.stages, s.state = .uninitialized → s.ups = 0 ∧ s.executor = none := by decide
  obtain ⟨hu, he⟩ := hm _ h.ordered.stage hs
  have he : x.executor = none := Option.map_eq_none_iff.1 he
  rw [h.ordered.begun, h.fresh hu he, h.ordered.task he]
  rfl

/-- A task that ends the executor is the last one run, and none is in progress then. -/
theorem Books.of_teardown (h : Books t x) {u : Task} (hu : u ∈ Lifetime.run (lives t))
    (hc : u.command = .teardown) : x.task = none ∧
      ∃ l, Lifetime.run (lives t) = l ++ [u] ∧ ∀ v ∈ l, v.command ≠ .teardown := by
  have hne : Lifetime.run (lives t) ≠ [] := List.ne_nil_of_mem hu
  have hrun := List.dropLast_concat_getLast hne
  have hl := teardowns_eq_zero_iff.1 h.last
  refine ⟨h.task fun hz => teardowns_eq_zero_iff.1 hz u hu hc, _, ?_, hl⟩
  rw [← hrun, List.mem_append, List.mem_singleton] at hu
  obtain hu | rfl := hu
  · exact absurd hc (hl u hu)
  · exact hrun.symm

/-- When the dispatcher is closed, no task is in progress any more. -/
theorem Books.begun_eq (h : Books t x) (hc : x.shared.dispatcher.closed = true) :
    Lifetime.begun (lives t) = Lifetime.run (lives t) := by
  have hm : ∀ s ∈ Lifetime.stages, s.closed = true → s.executor = none := by decide
  have he : x.executor = none := Option.map_eq_none_iff.1 (hm _ h.ordered.stage hc)
  rw [h.ordered.begun, h.ordered.task he]
  exact List.append_nil _

variable [Layers L κ]

theorem Step.open_left (h : Step x w y) (hy : y.shared.dispatcher.closed = false) :
    x.shared.dispatcher.closed = false ∧ w.2.isClosed = false := by
  have hc := h.deal.closed_iff
  rw [hy] at hc
  simpa using hc

theorem run_of_other {e : Lifetime.Event} (he : e.run? = none) (d : Traffic.Event Task) :
    Lifetime.run (lives (t ++ [(e, d)])) = Lifetime.run (lives t) := by
  rw [lives_snoc, Lifetime.run_snoc, he]
  exact List.append_nil _

theorem faults_of_other {e : Lifetime.Event} (he : e.run? = none) (d : Traffic.Event Task) :
    faults (lives (t ++ [(e, d)])) = faults (lives t) := by
  have hf : isFault e = false := by
    cases e with
    | ran => cases he
    | _ => rfl
  rw [lives_snoc, faults_snoc, hf]
  rfl

theorem Books.last_step (h : Books t x) (hw : Step x w y) :
    Lifetime.teardowns (Lifetime.run (lives (t ++ [w]))).dropLast = 0 := by
  cases hw with
  | other _ he => rw [run_of_other he, h.last]
  | run ht =>
    rw [lives_snoc, Lifetime.run_snoc]
    show Lifetime.teardowns (_ ++ [_]).dropLast = 0
    rw [List.dropLast_concat]
    by_contra hr
    rw [h.task hr] at ht
    cases ht

theorem Books.task_step (h : Books t x) (hw : Step x w y)
    (hr : Lifetime.teardowns (Lifetime.run (lives (t ++ [w]))) ≠ 0) : y.task = none := by
  cases hw with
  | run => rfl
  | other hl he =>
    rw [run_of_other he] at hr
    have hx := h.task hr
    cases hl with
    | begin _ hf hg =>
      have hm : ∀ s ∈ Lifetime.stages, s.run ≠ 0 → s.executor ≠ some true := by decide
      exact absurd (show x.executor.map (·.running) = some true by rw [hf, Option.map_some, hg])
        (hm _ h.ordered.stage hr)
    | run => rfl
    | _ => exact hx

theorem Books.fresh_step (h : Books t x) (hw : Step x w y) (hu : Lifetime.ups (lives (t ++ [w])) = 0)
    (hy : y.executor = none) : Lifetime.run (lives (t ++ [w])) = [] := by
  rw [lives_snoc, Lifetime.ups_snoc] at hu
  have hz : Lifetime.ups (lives t) = 0 := by omega
  cases hw with
  | run => cases hy
  | other hl he =>
    rw [run_of_other he]
    cases hl with
    | join hh =>
      have hm : ∀ s ∈ Lifetime.stages, s.point = .joining → s.ups ≠ 0 := by decide
      exact absurd hz (hm _ h.ordered.stage (Lifetime.point_eq hh))
    | spawn | begin | run => cases hy
    | _ => exact h.fresh hz hy

theorem Books.ready_step {e : Lifetime.Event} (h : Books t x) (hxy : Lifetime.Step x e y) (n : Nat)
    (ph : Phase L κ) (f : Executor L κ) (hh : y.holder = some (n, ph)) (hf : ph.executor? = some f) :
    f.tasksExecuted = 0 ∧ f.tasksFaulted = 0 := by
  have hr := h.ready
  cases hxy with
  | enterInit =>
    cases hh
    cases hf
    exact ⟨rfl, rfl⟩
  | usimUp hx hu =>
    cases hh
    cases hf
    obtain ⟨he, hf⟩ := ((Work.steady_hook _).of_ok hu).uncounted
    obtain ⟨he', hf'⟩ := hr _ _ _ hx rfl
    exact ⟨he.trans he', hf.trans hf'⟩
  | raise hx hu =>
    cases hh
    cases hf
    obtain ⟨he, hf⟩ := Rung.uncounted _ hu
    obtain ⟨he', hf'⟩ := hr _ _ _ hx rfl
    exact ⟨he.trans he', hf.trans hf'⟩
  | start hx =>
    cases hh
    cases hf
    exact hr _ _ _ hx rfl
  | enterShutdown =>
    cases hh
    rw [Phase.executor?_ofFound] at hf
    cases hf
  | post | work | begin | run => exact hr _ _ _ hh hf
  | returnInit | returnShutdown => cases hh
  | _ =>
    cases hh
    cases hf

theorem Books.counts_step (h : Books t x) (hw : Step x w y) (f : Executor L κ) (hf : y.executor = some f) :
    f.tasksExecuted = (Lifetime.run (lives (t ++ [w]))).length ∧
      f.tasksFaulted = faults (lives (t ++ [w])) := by
  cases hw with
  | @run e u seen s ht he hk =>
    cases hf
    obtain ⟨hc, hc'⟩ := Executor.counts_run u e seen
    obtain ⟨hx, hx'⟩ := h.counts e he
    rw [lives_snoc, Lifetime.run_snoc, faults_snoc, hc, hc', hx, hx', List.length_append]
    refine ⟨rfl, congrArg _ ?_⟩
    unfold isFault
    cases (outcome (Work.perform u.command) (e, seen)).1 <;> rfl
  | other hl he =>
    rw [run_of_other he, faults_of_other he]
    have hx := h.counts
    cases hl with
    | spawn hh =>
      cases hf
      have hm : ∀ s ∈ Lifetime.stages, s.point = .starting → s.ups = 0 ∧ s.executor = none := by decide
      obtain ⟨hu, hn⟩ := hm _ h.ordered.stage (Lifetime.point_eq hh)
      have hr := h.fresh hu (Option.map_eq_none_iff.1 hn)
      have hz := faults_le (lives t)
      obtain ⟨hc, hc'⟩ := h.ready _ _ _ hh rfl
      rw [hr] at hz ⊢
      exact ⟨hc, hc'.trans (Nat.le_zero.1 hz).symm⟩
    | join => cases hf
    | begin _ hxe _ hb =>
      cases hf
      obtain ⟨hc, hc'⟩ := Executor.uncounted_begin hb
      obtain ⟨hx, hx'⟩ := hx _ hxe
      exact ⟨hc.trans hx, hc'.trans hx'⟩
    | run => cases he
    | _ => exact hx f hf

theorem Books.step (h : Books t x) (hw : Step x w y) : Books (t ++ [w]) y where
  ordered := by
    rw [lives_snoc]
    exact h.ordered.step hw.life
  accepted := by
    rw [deals_snoc, lives_snoc, Lifetime.posted_snoc, Traffic.acceptedIn_append, h.accepted,
      Traffic.acceptedIn_cons, hw.accepted, Traffic.acceptedIn_nil, List.append_nil]
  popped := by
    rw [deals_snoc, lives_snoc, Lifetime.begun_snoc, Traffic.poppedIn_append, h.popped,
      Traffic.poppedIn_cons, hw.popped, Traffic.poppedIn_nil, List.append_nil]
  conserves := by
    rw [deals_snoc]
    exact hw.deal.conserves_snoc (b := []) h.conserves
  undropped hy := by
    obtain ⟨hx, hd⟩ := hw.open_left hy
    rw [deals_snoc, Traffic.droppedIn_append, h.undropped hx, Traffic.droppedIn_cons,
      dropped_of_not_closed hd]
    rfl
  queues i hy := by
    obtain ⟨hx, hd⟩ := hw.open_left hy
    rw [deals_snoc]
    exact hw.deal.history_snoc (b := []) hd (h.queues i hx)
  last := h.last_step hw
  task := h.task_step hw
  fresh := h.fresh_step hw
  ready := h.ready_step hw.life
  counts := h.counts_step hw

theorem Books.run {m : List Event} (h : Books t x) (hm : Run Step x m y) : Books (t ++ m) y := by
  induction hm with
  | nil => rwa [List.append_nil]
  | snoc _ hs ih =>
    rw [← List.append_assoc]
    exact ih.step hs

theorem books {c : StackConfig} (h : Run Step (Lifetime.start c) t x) : Books t x := (books_start c).run h

end Execution

end LteUe

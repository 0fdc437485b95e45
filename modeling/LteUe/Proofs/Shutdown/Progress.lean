import LteUe.Layers.Observed
import LteUe.Proofs.Shutdown.Stages
import LteUe.Proofs.Stack.Answers
import Mathlib.Data.Finset.Card
import Mathlib.Data.Finset.Range
import Mathlib.Data.Prod.Lex

/-!
# A shutdown cannot get stuck

Whatever a shutdown waits for, somebody who is not waiting will bring it about. While it waits for
room, the executor takes tasks; while it waits for the executor, the task that ends the executor is
on its way; and while it waits for the workers, the dispatcher is closed, so that no request has to
wait (`Threads.shutdown_goes_on`).
-/

namespace LteUe

open Function

variable {L κ : Type}

/-- How many statements the thread that has the lock has before it, at most. -/
def Hold.rank : Hold L κ → Nat
  | leaving => 8
  | stopping => 7
  | joining => 6
  | closing => 5
  | halting => 4
  | gathering | raising .. => 3
  | settling | starting _ => 2
  | ended | failing => 1

theorem Shared.around_refl (s : Shared κ) : s.Around s := ⟨⟨rfl, rfl, rfl⟩, rfl, rfl, rfl⟩

namespace Threads

variable {x y : Threads L κ} {e : Event} {t : List Event} {w : Nat}

/-! ## What remains to be done -/

def rank (x : Threads L κ) : Nat := x.holder.elim 0 Hold.rank

/-- What the executor has before it: to take each task that waits, and to run it. -/
def load (x : Threads L κ) : Nat := 2 * x.shared.dispatcher.tasks.length + x.task.toList.length

/-- What the workers have before them: to take each job that waits, and to end it and the requests
made in it. -/
def chores (x : Threads L κ) : Nat :=
  2 * x.shared.pool.waiting.length + x.shared.pool.working.length +
    ((Finset.range x.shared.pool.size).filter fun w => x.requests (.worker w) ≠ none).card

/-- What is to be done before every shutdown has returned. What comes first may bring about more of
what comes later. -/
def rest (x : Threads L κ) : Nat ×ₗ Nat ×ₗ Nat ×ₗ Nat :=
  toLex (x.queued, toLex (x.rank, toLex (x.load, x.chores)))

theorem rest_lt_of_queued (h : y.queued < x.queued) : y.rest < x.rest :=
  Prod.Lex.toLex_lt_toLex.2 (.inl h)

theorem rest_lt_of_rank (hq : y.queued = x.queued) (h : y.rank < x.rank) : y.rest < x.rest :=
  Prod.Lex.toLex_lt_toLex.2 (.inr ⟨hq, Prod.Lex.toLex_lt_toLex.2 (.inl h)⟩)

theorem rest_lt_of_load (hq : y.queued = x.queued) (hr : y.rank = x.rank) (h : y.load < x.load) :
    y.rest < x.rest :=
  Prod.Lex.toLex_lt_toLex.2 (.inr ⟨hq, Prod.Lex.toLex_lt_toLex.2
    (.inr ⟨hr, Prod.Lex.toLex_lt_toLex.2 (.inl h)⟩)⟩)

theorem rest_lt_of_chores (hq : y.queued = x.queued) (hr : y.rank = x.rank) (hl : y.load = x.load)
    (h : y.chores < x.chores) : y.rest < x.rest :=
  Prod.Lex.toLex_lt_toLex.2 (.inr ⟨hq, Prod.Lex.toLex_lt_toLex.2
    (.inr ⟨hr, Prod.Lex.toLex_lt_toLex.2 (.inr ⟨hl, h⟩)⟩)⟩)

/-! ## Requests -/

theorem Ordered.tasks_of_parked (h : Ordered t x) {k : QueueKind} {u : Task}
    (ho : x.shared.offer k u = .parked) : x.tasks ≠ [] := by
  obtain ⟨-, queue, hq, hf⟩ := Dispatcher.offer_eq_parked_iff.1 ho
  have hi := (Dispatcher.queue?_eq_some_iff.1 hq).2
  have hn := h.roomy _ (List.mem_map_of_mem (List.mem_of_getElem? hi))
  intro ht
  have hd : x.shared.dispatcher.tasks = [] := (List.append_eq_nil_iff.1 ht).1
  have hc := Dispatcher.tasks_eq_nil_iff.1 hd (x.shared.queueId k).index
  rw [Dispatcher.contents_of_getElem? hi] at hc
  rw [BoundedQueue.IsFull, hc] at hf
  exact hn (Nat.le_zero.1 hf)

theorem Ordered.executor_of_closed (h : Ordered t x) (hc : x.shared.dispatcher.closed = true) :
    x.executor = none := by
  have hm : ∀ s ∈ stages, s.closed = true → s.executor = none := by decide
  simpa [Threads.stage] using hm _ h.stage hc

/-- A closed dispatcher makes no request wait: it rejects what is pushed, and no task is left that is yet to
answer a question. -/
theorem Ordered.not_blocked (h : Ordered t x) (hc : x.shared.dispatcher.closed = true) (q : Request) :
    ¬x.Blocked q := by
  have hp (k : QueueKind) (u : Task) : x.shared.offer k u ≠ .parked := fun hp => by
    rw [(Dispatcher.offer_eq_parked_iff.1 hp).1] at hc
    cases hc
  cases q with
  | pushing k c => exact hp k _
  | asking c => exact fun hb => hp _ _ (Shared.pose_eq_parked_iff.1 hb)
  | waiting i =>
    show x.shared.answer? i ≠ none
    obtain ⟨l, hl⟩ := h.accounts
    have hn : x.questions.tasks = [] :=
      Queries.tasks_eq_nil_iff.2 ⟨h.tasks hc, h.task (h.executor_of_closed hc)⟩
    by_cases hi : i < x.shared.slots.size
    · obtain ⟨f, hf⟩ := hl.exists_fate hn hi
      obtain ⟨r, hr⟩ := Queries.exists_answerOf f
      have ha : x.shared.answer? i = _ := hl.answer?_eq hi
      rw [ha, hf, hr]
      exact nofun
    · rw [Shared.answer?, Array.getElem?_eq_none (Nat.le_of_not_lt hi)]
      exact nofun

/-! ## What a shutdown waits for -/

theorem Ordered.joining (h : Ordered t x) (hh : x.holder = some .joining) :
    ∃ u, u.command = .teardown ∧
      (u ∈ x.shared.dispatcher.tasks ∨ x.task = some u ∨ .ran u ∈ t) := by
  have hm : ∀ s ∈ stages, s.point = .joining → 0 < s.due ∨ s.executor = some false := by decide
  rcases hm _ h.stage (point_eq hh) with hd | he
  · obtain ⟨u, hu, hc⟩ := List.countP_pos_iff.1 hd
    refine ⟨u, of_decide_eq_true hc, ?_⟩
    rcases List.mem_append.1 hu with hu | hu
    · exact .inl hu
    · exact .inr (.inl (Option.mem_toList.1 hu))
  · obtain ⟨f, hf, hr⟩ := Option.map_eq_some_iff.1 he
    obtain ⟨u, hu, hm⟩ := h.ran f hf hr
    exact ⟨u, hu, .inr (.inr hm)⟩

theorem Ordered.closed (h : Ordered t x) (hh : x.holder = some .gathering) :
    x.shared.dispatcher.closed = true := by
  have hm : ∀ s ∈ stages, s.point = .gathering → s.closed = true := by decide
  exact hm _ h.stage (point_eq hh)

/-! ## Progress -/

variable [Layers L κ]

/-- A client goes on with a request that need not wait. Once the dispatcher is closed, the request
ends by that. -/
theorem exists_moved {p : Client} {q : Request} (hq : x.requests p = some q) (hb : ¬x.Blocked q) :
    ∃ y, Step x (.moved p) y ∧ (x.shared.dispatcher.closed = true →
      y = { x with requests := update x.requests p none }) := by
  have open_of_accepted {k : QueueKind} {u : Task} {d : Dispatcher Task}
      (ho : x.shared.offer k u = .accepted d) : ¬x.shared.dispatcher.closed = true := by
    rw [(Dispatcher.offer_eq_accepted_iff.1 ho).1]
    exact Bool.false_ne_true
  cases q with
  | pushing k c =>
    cases ho : x.shared.offer k { command := c } with
    | accepted d => exact ⟨_, .pushed hq ho, fun hc => absurd hc (open_of_accepted ho)⟩
    | rejected f => exact ⟨_, .rejected hq ho, fun _ => rfl⟩
    | parked => exact absurd ho hb
  | asking c =>
    cases hp : x.shared.pose c with
    | asked i s =>
      obtain ⟨-, d, ho, -⟩ := Shared.pose_eq_asked_iff.1 hp
      exact ⟨_, .asked hq hp, fun hc => absurd hc (open_of_accepted ho)⟩
    | refused f => exact ⟨_, .refused hq hp, fun _ => rfl⟩
    | parked => exact absurd hp hb
  | waiting i =>
    obtain ⟨r, ha⟩ := Option.ne_none_iff_exists'.1 hb
    exact ⟨_, .answered hq ha, fun _ => rfl⟩

/-- A client with a request goes on just when the request need not wait. -/
theorem Ordered.exists_moved_iff (h : Ordered t x) {p : Client} {q : Request}
    (hq : x.requests p = some q) : (∃ y, Step x (.moved p) y) ↔ ¬x.Blocked q := by
  constructor
  · rintro ⟨y, hs⟩ hb
    cases hs with
    | receive hj =>
      obtain ⟨⟨-, hi⟩, -⟩ := WorkerPool.receive_eq_some_iff.1 hj
      exact hi (h.busy _ (by simp [hq]))
    | complete hf | push _ _ hf | ask _ hf => simp [hf.1] at hq
    | pushed hq' ho | rejected hq' ho =>
      cases hq.symm.trans hq'
      cases ho.symm.trans hb
    | asked hq' hp | refused hq' hp =>
      cases hq.symm.trans hq'
      cases hp.symm.trans hb
    | answered hq' ha =>
      cases hq.symm.trans hq'
      cases ha.symm.trans hb
  · intro hb
    obtain ⟨y, hs, -⟩ := exists_moved hq hb
    exact ⟨y, hs⟩

/-- Some thread that starts the stack or shuts it down, the executor or a worker can make a step, after
which less remains to be done. -/
def GoesOn (x : Threads L κ) : Prop := ∃ e y, e.isInside = true ∧ Step x e y ∧ y.rest < x.rest

/-! ### The executor and the workers -/

theorem goesOn_of_task {f : Executor L κ} {u : Task} (he : x.executor = some f) (hu : x.task = some u) :
    x.GoesOn := by
  have hd := Executor.refilled_conclude u (outcome (Work.perform u.command) (f, x.shared)).1 f x.shared
  refine ⟨_, _, rfl, .run x.shared hu he x.shared.around_refl, rest_lt_of_load rfl rfl ?_⟩
  simp [load, hu, hd.dispatcher]

theorem goesOn_of_waiting {f : Executor L κ} (he : x.executor = some f) (hr : f.running = true)
    (hu : x.task = none) (hc : x.shared.dispatcher.closed = false) (hn : x.shared.dispatcher.tasks ≠ []) :
    x.GoesOn := by
  obtain ⟨u, d, hp, hd, -⟩ := Dispatcher.exists_tryPop hc hn
  obtain ⟨f', s, hb⟩ := Executor.begin_of_tryPop (e := f) hp
  obtain ⟨d', hp', hs, -⟩ := Executor.begin_spec hb
  obtain rfl : d = d' := (Prod.mk.inj (Option.some.inj (hp.symm.trans hp'))).2
  refine ⟨_, _, rfl, .begin hu he hr hb, rest_lt_of_load rfl rfl ?_⟩
  have hl := hd.length_eq
  rw [List.length_cons] at hl
  simp only [load, hu, hs.dispatcher, Option.toList, List.length_cons, List.length_nil]
  omega

/-- While the executor goes on, it has something to do if a task waits or is being run. -/
theorem goesOn_of_tasks {f : Executor L κ} (he : x.executor = some f) (hr : f.running = true)
    (hc : x.shared.dispatcher.closed = false) (hn : x.tasks ≠ []) : x.GoesOn := by
  cases hu : x.task with
  | some u => exact goesOn_of_task he hu
  | none =>
    rw [tasks, hu] at hn
    exact goesOn_of_waiting he hr hu hc (by simpa using hn)

theorem Ordered.goesOn_of_request (h : Ordered t x) (hc : x.shared.dispatcher.closed = true)
    {q : Request} (hw : w < x.shared.pool.size) (hq : x.requests (.worker w) = some q) : x.GoesOn := by
  obtain ⟨y, hs, hy⟩ := exists_moved hq (h.not_blocked hc q)
  obtain rfl := hy hc
  refine ⟨_, _, rfl, hs, rest_lt_of_chores rfl rfl rfl (Nat.add_lt_add_left ?_ _)⟩
  have hm : w ∈ (Finset.range x.shared.pool.size).filter fun v => x.requests (.worker v) ≠ none :=
    Finset.mem_filter.2 ⟨Finset.mem_range.2 hw, by simp [hq]⟩
  refine lt_of_eq_of_lt (congrArg Finset.card ?_) (Finset.card_erase_lt_of_mem hm)
  ext v
  by_cases hv : v = w
  · simp [hv]
  · simp [hv, update_of_ne]

theorem goesOn_of_job (hj : w ∈ x.shared.pool.working.map Prod.fst) (hq : x.requests (.worker w) = none) :
    x.GoesOn := by
  obtain ⟨⟨w, j⟩, hm, rfl⟩ := List.mem_map.1 hj
  refine ⟨_, _, rfl, .complete ⟨hq, ?_⟩, rest_lt_of_chores rfl rfl rfl ?_⟩
  · rintro _ ⟨⟩
    exact hj
  · have hlt : (x.shared.pool.working.filter (·.1 ≠ w)).length < x.shared.pool.working.length :=
      List.length_filter_lt_length_iff_exists.2 ⟨_, hm, by simp⟩
    exact Nat.add_lt_add_right (Nat.add_lt_add_left hlt _) _

theorem goesOn_of_idle (hw : w < x.shared.pool.size) (hj : w ∉ x.shared.pool.working.map Prod.fst)
    (hn : x.shared.pool.waiting ≠ []) : x.GoesOn := by
  obtain ⟨j, rest, hn⟩ := List.exists_cons_of_ne_nil hn
  refine ⟨_, _, rfl, .receive (WorkerPool.receive_eq_some_iff.2 ⟨⟨hw, hj⟩, rest, hn, rfl⟩),
    rest_lt_of_chores rfl rfl rfl ?_⟩
  simp only [chores, hn, List.length_cons]
  omega

/-! ### The thread that has the lock -/

theorem goesOn_of_holder {h : Hold L κ} (hs : Step x .advanced y) (hx : x.holder = some h)
    (hr : y.holder.elim 0 Hold.rank < h.rank := by simp [Hold.rank])
    (hq : y.queued = x.queued := by rfl) : x.GoesOn := by
  refine ⟨_, y, rfl, hs, rest_lt_of_rank hq ?_⟩
  rw [rank, rank, hx]
  exact hr

theorem goesOn_of_raising {layers : L} {radio : Radio} {sinks : Sinks}
    (hh : x.holder = some (.raising layers radio sinks)) : x.GoesOn := by
  let r := outcome (Stack.bringUp radio sinks)
    ((.ofLayers layers x.shared.config : Executor L κ), x.shared)
  by_cases hr : r.1 = .ok (.ok ())
  · have ho : r = (.ok (.ok ()), r.2.1, r.2.2) := Prod.ext hr rfl
    exact goesOn_of_holder (.raise _ hh ho x.shared.around_refl) hh
  · exact goesOn_of_holder (.raiseFails _ hh hr x.shared.around_refl) hh

/-- A shutdown enqueues its task, or the executor makes room for it. -/
theorem Ordered.goesOn_of_stopping (h : Ordered t x) (hh : x.holder = some .stopping) : x.GoesOn := by
  have hm : ∀ s ∈ stages, s.point = .stopping → s.executor = some true ∧ s.closed = false := by decide
  cases ho : x.shared.offer .control { command := .teardown } with
  | accepted d => exact goesOn_of_holder (.queueTeardown hh ho) hh
  | rejected f => exact goesOn_of_holder (.teardownRejected hh ho) hh
  | parked =>
    obtain ⟨he, hc⟩ := hm _ h.stage (point_eq hh)
    obtain ⟨f, hf, hr⟩ := Option.map_eq_some_iff.1 he
    exact goesOn_of_tasks hf hr hc (h.tasks_of_parked ho)

/-- A shutdown has joined the executor, or the executor is on its way to the task that ends it. -/
theorem Ordered.goesOn_of_joining (h : Ordered t x) (hh : x.holder = some .joining) : x.GoesOn := by
  have hm : ∀ s ∈ stages, s.point = .joining →
      s.executor = some true ∧ s.closed = false ∧ s.due ≠ 0 ∨ s.executor = some false := by decide
  rcases hm _ h.stage (point_eq hh) with ⟨he, hc, hd⟩ | he
  · obtain ⟨f, hf, hr⟩ := Option.map_eq_some_iff.1 he
    refine goesOn_of_tasks hf hr hc fun hn => hd ?_
    rw [Threads.stage, due, hn]
    rfl
  · obtain ⟨f, hf, hr⟩ := Option.map_eq_some_iff.1 he
    cases hu : x.task with
    | some u => exact goesOn_of_task hf hu
    | none =>
      refine goesOn_of_holder (.join hh hu fun g hg => .inl ?_) hh
      cases hf.symm.trans hg
      exact hr

/-- A shutdown has joined the workers, or one of them has something to do. -/
theorem Ordered.goesOn_of_gathering (h : Ordered t x) (hh : x.holder = some .gathering) : x.GoesOn := by
  by_cases hl : ∀ w < x.shared.pool.size, x.shared.pool.HasLeft w
  · exact goesOn_of_holder (.gather hh hl) hh
  · push Not at hl
    obtain ⟨w, hw, hl⟩ := hl
    by_cases hj : w ∈ x.shared.pool.working.map Prod.fst
    · cases hq : x.requests (.worker w) with
      | some q => exact h.goesOn_of_request (h.closed hh) hw hq
      | none => exact goesOn_of_job hj hq
    · exact goesOn_of_idle hw hj fun hn => hl ⟨h.halted (point_eq hh), hn, hj⟩

theorem Ordered.goesOn (h : Ordered t x) (hx : x.ShuttingDown) : x.GoesOn := by
  cases hh : x.holder with
  | none =>
    obtain ⟨n, hn⟩ : ∃ n, x.queued = n + 1 := by
      rcases hx with hq | ⟨_, hs, -⟩
      · exact Nat.exists_eq_succ_of_ne_zero hq
      · cases hh.symm.trans hs
    exact ⟨_, _, rfl, .enter hh hn, rest_lt_of_queued (by simp [hn])⟩
  | some hold =>
    cases hold with
    | raising => exact goesOn_of_raising hh
    | starting => exact goesOn_of_holder (.spawn hh) hh
    | failing => exact goesOn_of_holder (.closeFailed hh) hh
    | leaving => exact goesOn_of_holder (.stop hh) hh
    | stopping => exact h.goesOn_of_stopping hh
    | joining => exact h.goesOn_of_joining hh
    | closing => exact goesOn_of_holder (.close hh) hh
    | halting =>
      refine goesOn_of_holder (.halt hh) hh ?_
      cases x.shared.pool.stop.1 <;> simp [Hold.rank]
    | gathering => exact h.goesOn_of_gathering hh
    | settling => exact goesOn_of_holder (.settle hh) hh
    | ended => exact goesOn_of_holder (.leave hh) hh

/-! ### The end of every shutdown -/

theorem Ordered.exists_returned (h : Ordered t x) :
    ∃ l y, Run Step x l y ∧ (∀ e ∈ l, e.isInside = true) ∧ ¬y.ShuttingDown := by
  induction hr : x.rest using WellFoundedLT.induction generalizing t x with
  | ind r ih =>
    by_cases hx : x.ShuttingDown
    · obtain ⟨e, y, he, hs, hlt⟩ := h.goesOn hx
      obtain ⟨l, z, hrun, hl, hz⟩ := ih _ (hr ▸ hlt) (h.step hs) rfl
      refine ⟨e :: l, z, .cons hs hrun, ?_, hz⟩
      rintro e' (_ | ⟨_, hm⟩)
      · exact he
      · exact hl e' hm
    · exact ⟨[], x, .nil, nofun, hx⟩

/-! ## The theorem -/

/-- What the events `t` of a run that ends in `x` say of the shutdowns that have begun, and what may
come next. -/
structure Live (t : List Event) (x : Threads L κ) : Prop where
  /-- While a shutdown has begun and not returned, a thread that starts the stack or shuts it down, the
  executor or a worker can make a step. -/
  goesOn : x.ShuttingDown → ∃ e y, e.isInside = true ∧ Step x e y
  /-- Their steps alone can bring every shutdown to its end. -/
  returns : ∃ l y, Run Step x l y ∧ (∀ e ∈ l, e.isInside = true) ∧ ¬y.ShuttingDown
  /-- A producer or a worker with a request goes on unless the request has to wait. -/
  moves {p : Client} {q : Request} : x.requests p = some q →
    ((∃ y, Step x (.moved p) y) ↔ ¬x.Blocked q)
  /-- While a shutdown waits for the executor, the task that ends the executor waits, is being run, or
  has been run. -/
  joining : x.holder = some .joining → ∃ u, u.command = .teardown ∧
    (u ∈ x.shared.dispatcher.tasks ∨ x.task = some u ∨ .ran u ∈ t)
  /-- While a shutdown waits for the workers, the dispatcher is closed, and neither then nor later has a
  request to wait. -/
  gathering : x.holder = some .gathering → x.shared.dispatcher.closed = true ∧
    ∀ l y, Run Step x l y → ∀ q, ¬y.Blocked q

/-- A shutdown cannot get stuck, whoever else starts the stack, shuts it down, pushes tasks, puts
questions and runs jobs. -/
theorem shutdown_goes_on {c : StackConfig} (h : Run Step (start c) t x) : Live t x := by
  have hx := ordered h
  refine ⟨fun hd => ?_, hx.exists_returned, hx.exists_moved_iff, hx.joining, fun hh => ?_⟩
  · obtain ⟨e, y, he, hs, -⟩ := hx.goesOn hd
    exact ⟨e, y, he, hs⟩
  · have hc := hx.closed hh
    refine ⟨hc, fun l y hl q => ?_⟩
    have hcy : y.shared.dispatcher.closed = true :=
      hl.invariant hc fun _ _ _ hc hs => have ⟨_, hd⟩ := hs.effect; hd.touched.isClosed hc
    exact (ordered (h.append hl)).not_blocked hcy q

/-- A stack with one worker, and with room for one task in most of its queues. -/
def narrow : StackConfig := { queueCapacity := 1, backgroundWorkers := 1 }

/-- What its threads share once it runs and has been handed a job. -/
def handed : Shared Callback :=
  { Shared.ofConfig narrow with state := .running, pool := { size := 1, waiting := [.search] } }

/-- A shutdown waits for the executor, and another one for the lock, while a worker waits for room and a
producer for an answer. When the first one comes to wait for the worker, neither has to wait any
longer. -/
theorem shutdown_goes_on_under_load :
    let push : Request := .pushing .background .idle
    let t : List Event := [.outside, .advanced, .advanced, .outside, .moved (.worker 0), .outside,
      .moved (.worker 0), .moved (.producer 0), .moved (.producer 0), .outside, .outside, .entered,
      .advanced, .advanced]
    let l : List Event :=
      [.began ⟨.teardown, none⟩, .ran ⟨.teardown, none⟩, .advanced, .advanced, .advanced]
    let Met (h : Hold ObservedLayers Callback) (x : Threads ObservedLayers Callback) : Prop :=
      x.holder = some h ∧ x.queued = 1 ∧ x.requests (.worker 0) = some push ∧
        x.requests (.producer 0) = some (.waiting 0)
    ∃ x, Run Step (start narrow) t x ∧ Live t x ∧
      Met .joining x ∧ x.Blocked push ∧ x.Blocked (.waiting 0) ∧
      ∃ y, Run Step x l y ∧ Live (t ++ l) y ∧ Met .gathering y := by
  intro push t l Met
  have h : ∃ x, Run Step (start narrow) t x ∧
      (Met .joining x ∧ x.Blocked push ∧ x.Blocked (.waiting 0)) ∧
      ∃ y, Run Step x l y ∧ Met .gathering y := by
    -- The stack is started.
    refine exists_run_cons_and (.callInit { plan := {} } { found := ⟨1, 100⟩, selectable := ⟨1, 100⟩ } {}
        rfl rfl) <|
      exists_run_cons_and (.raise (.ofConfig narrow) rfl rfl (Shared.around_refl _)) <|
      exists_run_cons_and (.spawn rfl) ?_
    -- A worker and a producer come to wait.
    refine exists_run_cons_and (.work (s := handed) ⟨⟨rfl, rfl, rfl⟩, rfl, rfl, rfl⟩) <|
      exists_run_cons_and (.receive rfl) <|
      exists_run_cons_and (.post (k := .background) (c := .idle) nofun rfl) <|
      exists_run_cons_and (.push .background .idle
        ⟨rfl, fun _ hw => Client.worker.inj hw ▸ List.mem_cons_self⟩ nofun) <|
      exists_run_cons_and (.ask (.ask 7 none) ⟨rfl, nofun⟩ nofun rfl) <|
      exists_run_cons_and (.asked rfl rfl) ?_
    -- Two shutdowns come.
    refine exists_run_cons_and .callShutdown <| exists_run_cons_and .callShutdown <|
      exists_run_cons_and (.enter rfl rfl) <| exists_run_cons_and (.stop rfl) <|
      exists_run_cons_and (.queueTeardown rfl rfl) ⟨_, .nil, ⟨⟨rfl, rfl, rfl, rfl⟩, rfl, rfl⟩, ?_⟩
    -- The first one comes to wait for the worker.
    refine exists_run_cons_and (.begin rfl rfl rfl rfl) <|
      exists_run_cons_and (.run handed rfl rfl (Shared.around_refl _)) <|
      exists_run_cons_and (.join rfl rfl fun _ h => .inl (Option.some.inj h ▸ rfl)) <|
      exists_run_cons_and (.close rfl) <|
      exists_run_cons_and (.halt rfl) ⟨_, .nil, rfl, rfl, rfl, rfl⟩
  obtain ⟨x, ht, ⟨hx, hp, hw⟩, y, hl, hy⟩ := h
  exact ⟨x, ht, shutdown_goes_on ht, hx, hp, hw, y, hl, shutdown_goes_on (ht.append hl), hy⟩

end Threads

end LteUe

import LteUe.Proofs.Stack.Queries
import Mathlib.Data.List.Nodup

/-!
# Accounts of the tasks of a stack

In every run, each task accepted waits, is being run, or has met its fate (`Accounts.conserved`). Every
ticket was given to one task, so a slot has been settled at most once, and it has been settled when
that task is neither waiting nor being run (`Accounts.count`). The stages of a stack's life are few
(`stages`), and once the dispatcher is closed no task waits or is being run (`Ordered`).
-/

namespace LteUe.Queries

variable {L κ : Type} {x y : Queries L κ} {e : Event} {t : List Event} {i p q : Nat}

/-! ## Histories that grow -/

theorem accepted_snoc (t : List Event) (e : Event) :
    accepted (t ++ [e]) = accepted t ++ e.accepted?.toList := filterMap_snoc ..

theorem begun_snoc (t : List Event) (e : Event) :
    begun (t ++ [e]) = begun t ++ e.begun?.toList := filterMap_snoc ..

theorem run_snoc (t : List Event) (e : Event) : run (t ++ [e]) = run t ++ e.run?.toList :=
  filterMap_snoc ..

theorem acceptedBy_snoc (p : Nat) (t : List Event) (e : Event) :
    acceptedBy p (t ++ [e]) = acceptedBy p t ++ (e.acceptedBy? p).toList := filterMap_snoc ..

theorem returnedTo_snoc (p : Nat) (t : List Event) (e : Event) :
    returnedTo p (t ++ [e]) = returnedTo p t ++ (e.returned? p).toList := filterMap_snoc ..

theorem ended_snoc (t : List Event) (e : Event) : ended (t ++ [e]) = ended t ++ e.ended := by
  simp [ended]

/-! ## The accounts -/

/-- The accounts after the events `t`. -/
structure Accounts (t : List Event) (x : Queries L κ) : Prop where
  conserved : (x.tasks ++ (ended t).map (·.1)).Perm (accepted t)
  tickets : (accepted t).filterMap (·.ticket) = List.range x.shared.slots.size
  slot (i : Nat) : i < x.shared.slots.size →
    x.shared.slots[i]? =
      some (settleAll (fatesUnder i (ended t)) ResultSlot.empty.addWriter)
  begun : begun t = run t ++ x.task.toList

theorem accounts_start (c : StackConfig) : Accounts [] (start c : Queries L κ) where
  conserved := .refl _
  tickets := rfl
  slot i hi := absurd hi (Nat.not_lt_zero i)
  begun := rfl

theorem Accounts.mem_accepted (h : Accounts t x) {u : Task} {f : Fate} (hu : (u, f) ∈ ended t) :
    u ∈ accepted t :=
  h.conserved.mem_iff.1 (List.mem_append_right _ (List.mem_map_of_mem hu))

theorem Accounts.lt_size (h : Accounts t x) {u : Task} (hu : u ∈ accepted t)
    (hi : u.ticket = some i) : i < x.shared.slots.size := by
  rw [← List.mem_range, ← h.tickets]
  exact List.mem_filterMap.2 ⟨u, hu, hi⟩

theorem Accounts.fatesUnder_eq_nil (h : Accounts t x) (hi : x.shared.slots.size ≤ i) :
    fatesUnder i (ended t) = [] := by
  refine List.filterMap_eq_nil_iff.2 fun ⟨u, f⟩ hu => if_neg fun hui => ?_
  exact Nat.not_lt_of_le hi (h.lt_size (h.mem_accepted hu) hui)

theorem Accounts.snoc (h : Accounts t x) (he : Effect x e y) : Accounts (t ++ [e]) y := by
  refine ⟨?_, ?_, ?_, ?_⟩
  · rw [accepted_snoc, ended_snoc, List.map_append]
    have h₁ : (y.tasks ++ ((ended t).map (·.1) ++ e.ended.map (·.1))).Perm
        (e.ended.map (·.1) ++ y.tasks ++ (ended t).map (·.1)) := by
      rw [← List.append_assoc]
      exact List.perm_append_comm.trans (by rw [List.append_assoc])
    have h₂ : (x.tasks ++ e.accepted?.toList ++ (ended t).map (·.1)).Perm
        (x.tasks ++ (ended t).map (·.1) ++ e.accepted?.toList) := by
      rw [List.append_assoc, List.append_assoc]
      exact List.perm_append_comm.append_left _
    have h₃ := he.conserves.symm.append_right ((ended t).map (·.1))
    exact h₁.trans (h₃.trans (h₂.trans (h.conserved.append_right _)))
  · rw [accepted_snoc, List.filterMap_append, h.tickets, he.tickets]
  · intro i hi
    rw [ended_snoc, fatesUnder_append, settleAll_append]
    by_cases hx : i < x.shared.slots.size
    · rw [he.slot i hx, h.slot i hx]
      rfl
    · obtain ⟨hn, hy⟩ := he.fresh i (Nat.le_of_not_lt hx) hi
      rw [hy, hn, h.fatesUnder_eq_nil (Nat.le_of_not_lt hx)]
      rfl
  · rw [begun_snoc, run_snoc, h.begun, List.append_assoc, he.task, List.append_assoc]

theorem Accounts.step (h : Accounts t x) (hs : Step x e y) : Accounts (t ++ [e]) y := h.snoc hs.effect

theorem accounts {c : StackConfig} (h : Run Step (start c) t x) : Accounts t x := by
  induction h with
  | nil => exact accounts_start c
  | snoc _ hs ih => exact ih.step hs

/-- A ticket that has been given out is with one task, which waits or is being run, or has met its
fate. -/
theorem Accounts.count (h : Accounts t x) (i : Nat) :
    x.tasks.countP (fun u => u.ticket = some i) + (fatesUnder i (ended t)).length =
      if i < x.shared.slots.size then 1 else 0 := by
  have hc : (accepted t).countP (fun u => u.ticket = some i) =
      (List.range x.shared.slots.size).count i := by
    rw [← h.tickets, List.count_filterMap]
    congr 1
    funext u
    exact (beq_eq_decide ..).symm
  rw [length_fatesUnder, ← List.countP_append, h.conserved.countP_eq, hc]
  split
  · rename_i hi
    exact List.count_eq_one_of_mem List.nodup_range (List.mem_range.2 hi)
  · rename_i hi
    exact List.count_eq_zero.2 fun hm => hi (List.mem_range.1 hm)

theorem eq_of_countP_le_one {α : Type} {f : α → Bool} {l : List α} (h : l.countP f ≤ 1) {a b : α}
    (ha : a ∈ l) (hb : b ∈ l) (hfa : f a = true) (hfb : f b = true) : a = b := by
  rw [List.countP_eq_length_filter] at h
  have ha := List.mem_filter.2 ⟨ha, hfa⟩
  have hb := List.mem_filter.2 ⟨hb, hfb⟩
  match hl : l.filter f with
  | [] => simp [hl] at ha
  | [c] =>
    rw [hl, List.mem_singleton] at ha hb
    rw [ha, hb]
  | _ :: _ :: _ => simp [hl] at h

theorem Accounts.eq_of_ticket (h : Accounts t x) {u v : Task} (hu : u ∈ accepted t)
    (hv : v ∈ accepted t) (hui : u.ticket = some i) (hvi : v.ticket = some i) : u = v := by
  have hc := h.count i
  rw [length_fatesUnder, ← List.countP_append, h.conserved.countP_eq] at hc
  refine eq_of_countP_le_one (f := fun u => u.ticket = some i) ?_ hu hv (by simpa) (by simpa)
  split at hc
  · omega
  · omega

/-! ## The life of a stack -/

/-- What a stage of a stack's life is told by: its state, where the thread is that starts or shuts it
down, whether there is an executor, and whether the dispatcher is closed. -/
structure Stage where
  state : LifecycleState
  lifecycle : Lifecycle
  executor : Bool
  closed : Bool
deriving DecidableEq

/-- The stages of a stack's life. -/
def stages : List Stage := [
  ⟨.uninitialized, .idle, false, false⟩,
  ⟨.running, .starting, false, false⟩,
  ⟨.running, .idle, true, false⟩,
  ⟨.stopped, .failing, false, false⟩,
  ⟨.stopping, .stopping, true, false⟩,
  ⟨.stopping, .joining, true, false⟩,
  ⟨.stopping, .closing, false, false⟩,
  ⟨.uninitialized, .closing, false, false⟩,
  ⟨.stopping, .ending, false, true⟩,
  ⟨.uninitialized, .ending, false, true⟩,
  ⟨.stopped, .idle, false, true⟩]

/-- The stage in which a stack is. -/
def stage (x : Queries L κ) : Stage :=
  ⟨x.state, x.lifecycle, x.executor.isSome, x.shared.dispatcher.closed⟩

/-- What holds in every stage: only an executor runs a task, a closed dispatcher holds none, and the
queues are there. -/
structure Ordered (x : Queries L κ) : Prop where
  stage : x.stage ∈ stages
  task : x.executor = none → x.task = none
  tasks : x.shared.dispatcher.closed = true → x.shared.dispatcher.tasks = []
  queues : x.shared.dispatcher.queues.length = QueueKind.all.length

theorem ordered_start (c : StackConfig) : Ordered (start c : Queries L κ) where
  stage := List.mem_cons_self
  task _ := rfl
  tasks h := by cases h
  queues := rfl

theorem Ordered.executor_of_closed (h : Ordered x) (hc : x.shared.dispatcher.closed = true) :
    x.executor = none := by
  have hs : ∀ s ∈ stages, s.closed = true → s.executor = false := by decide
  simpa [Queries.stage] using hs _ h.stage hc

theorem Ordered.tasks_of_closed (h : Ordered x) (hc : x.shared.dispatcher.closed = true) :
    x.tasks = [] :=
  tasks_eq_nil_iff.2 ⟨h.tasks hc, h.task (h.executor_of_closed hc)⟩

theorem Ordered.enter (h : Ordered x) (hxy : Step x e y) {s : Stage} (hm : s ∈ stages)
    (hs : y.stage = s) (ht : y.executor = none → y.task = none) : Ordered y where
  stage := hs ▸ hm
  task := ht
  tasks := hxy.effect.touched.tasks_eq_nil h.tasks
  queues := hxy.effect.touched.length_eq.trans h.queues

theorem stage_eq {s : Stage} (h₁ : x.state = s.state) (h₂ : x.lifecycle = s.lifecycle)
    (h₃ : x.executor.isSome = s.executor) (h₄ : x.shared.dispatcher.closed = s.closed) :
    x.stage = s := by
  rw [stage, h₁, h₂, h₃, h₄]

theorem joining_mem_stages : ∀ s ∈ stages, s.lifecycle = .stopping →
    { s with lifecycle := .joining } ∈ stages := by
  decide

theorem Ordered.step (h : Ordered x) (hxy : Step x e y) : Ordered y := by
  -- a copy is split, since the step as a whole is what `Ordered.enter` asks for
  cases id hxy with
  | enter | deny | refuse | park | answer => exact h.enter hxy h.stage rfl h.task
  | accept _ hp =>
    obtain ⟨-, d, ho, rfl⟩ := Shared.pose_eq_asked_iff.1 hp
    exact h.enter hxy h.stage
      (stage_eq rfl rfl rfl (Dispatcher.closed_of_accepted ho)) h.task
  | post ho =>
    exact h.enter hxy h.stage
      (stage_eq rfl rfl rfl (Dispatcher.closed_of_accepted ho)) h.task
  | work hb =>
    exact h.enter hxy h.stage
      (stage_eq hb.state rfl rfl hb.closed) h.task
  | @begin e e' t s _ he _ hb =>
    obtain ⟨d, hp, hs, -⟩ := Executor.begin_spec hb
    obtain ⟨-, hp⟩ := Dispatcher.tryPop_eq_some_iff.1 hp
    obtain ⟨i, -, -, rfl⟩ := Dispatcher.popInTurn_eq_some_iff.1 hp
    have hc : s.dispatcher.closed = x.shared.dispatcher.closed := by
      rw [hs.dispatcher]
      rfl
    refine h.enter hxy h.stage (stage_eq hs.state rfl ?_ hc) fun hn => ?_
    · simp [Queries.stage, he]
    · cases hn
  | @run e₀ e t r s _ he hb =>
    have hc := hb.refilled.trans (Executor.refilled_conclude t r e s)
    have hd := congrArg Dispatcher.closed hc.dispatcher
    refine h.enter hxy h.stage (stage_eq hc.state rfl ?_ hd) fun hn => ?_
    · simp [Queries.stage, he]
    · cases hn
  | start hl hs hb =>
    have hm : ∀ s ∈ stages, s.lifecycle = .idle → s.state = .uninitialized →
        { s with state := .running, lifecycle := .starting } ∈ stages := by decide
    exact h.enter hxy (hm _ h.stage hl hs)
      (stage_eq rfl rfl rfl hb.closed) h.task
  | spawn e hl =>
    have hm : ∀ s ∈ stages, s.lifecycle = .starting →
        { s with lifecycle := .idle, executor := true } ∈ stages := by decide
    exact h.enter hxy (hm _ h.stage hl) rfl fun hn => by cases hn
  | fail hl =>
    have hm : ∀ s ∈ stages, s.lifecycle = .starting →
        { s with state := .stopped, lifecycle := .failing } ∈ stages := by decide
    exact h.enter hxy (hm _ h.stage hl) rfl h.task
  | closeFailed hl =>
    have hm : ∀ s ∈ stages, s.lifecycle = .failing →
        { s with lifecycle := .idle, closed := true } ∈ stages := by decide
    exact h.enter hxy (hm _ h.stage hl) (stage_eq x.shared.refilled_closeDispatcher.state rfl rfl
      x.shared.closed_closeDispatcher) h.task
  | shutdownUnused hl hs =>
    have hm : ∀ s ∈ stages, s.lifecycle = .idle → s.state = .uninitialized →
        { s with lifecycle := .closing } ∈ stages := by decide
    exact h.enter hxy (hm _ h.stage hl hs) rfl h.task
  | shutdown hl hs =>
    have hm : ∀ s ∈ stages, s.lifecycle = .idle → s.state = .running ∨ s.state = .stopping →
        { s with state := .stopping, lifecycle := .stopping } ∈ stages := by decide
    exact h.enter hxy (hm _ h.stage hl hs) rfl h.task
  | queueTeardown hl ho =>
    exact h.enter hxy (joining_mem_stages _ h.stage hl)
      (stage_eq rfl rfl rfl (Dispatcher.closed_of_accepted ho)) h.task
  | teardownRejected hl _ =>
    exact h.enter hxy (joining_mem_stages _ h.stage hl) rfl h.task
  | join hl ht _ =>
    have hm : ∀ s ∈ stages, s.lifecycle = .joining →
        { s with lifecycle := .closing, executor := false } ∈ stages := by decide
    exact h.enter hxy (hm _ h.stage hl) rfl fun _ => ht
  | close hl =>
    have hm : ∀ s ∈ stages, s.lifecycle = .closing →
        { s with lifecycle := .ending, closed := true } ∈ stages := by decide
    exact h.enter hxy (hm _ h.stage hl) (stage_eq x.shared.refilled_closeDispatcher.state rfl rfl
      x.shared.closed_closeDispatcher) h.task
  | finish hl hb =>
    have hm : ∀ s ∈ stages, s.lifecycle = .ending →
        { s with state := .stopped, lifecycle := .idle } ∈ stages := by decide
    exact h.enter hxy (hm _ h.stage hl)
      (stage_eq rfl rfl rfl hb.closed) h.task
  | stoppedBefore => exact h

theorem ordered {c : StackConfig} (h : Run Step (start c) t x) : Ordered x :=
  h.invariant (ordered_start c) fun _ _ _ h hs => h.step hs

theorem closed_of_stopped {c : StackConfig} (h : Run Step (start c) t x) (ht : .stopped ∈ t) :
    x.shared.dispatcher.closed = true := by
  induction h with
  | nil => cases ht
  | @snoc l y z e hl hs ih =>
    rcases List.mem_append.1 ht with hm | hm
    · exact hs.effect.touched.isClosed (ih hm)
    · obtain rfl := List.mem_singleton.1 hm
      have hd : ∀ s ∈ stages, s.lifecycle = .ending → s.closed = true := by decide
      have hi : ∀ s ∈ stages, s.lifecycle = .idle → s.state = .stopped → s.closed = true := by decide
      have hy := (ordered hl).stage
      cases hs with
      | finish hl hb =>
        rw [← hd _ hy hl]
        exact hb.closed
      | stoppedBefore hl hs => exact hi _ hy hl hs

end LteUe.Queries

import LteUe.Proofs.Executor.Counting
import LteUe.Proofs.Stack.Transcripts
import LteUe.Proofs.Uplink.Accounts

/-!
# Snapshots

The questions to a stack, with whatever goes on around them, the calls that its layers get, and the steps of
its timers (`Snapshots.Step`). Tasks may be of any kind and may fault, but reports of the clock alone tick, and
their batches work. Then the figures of the executor add up to what has happened (`Snapshots.Tallies`). A
snapshot tells what they are when its own task is run, which is between two other tasks, and the figures of a
later one are no smaller (`Snapshots.snapshots_consistent`).
-/

namespace LteUe

variable {L κ : Type}

/-- A task with work of somebody else's. -/
def Command.isForeign : Command → Bool
  | ask .. | note .. => true
  | _ => false

namespace Call

/-- A call that reports alone may make: a tick of medium access control, or a hook of a batch. -/
def isClocked : Call κ → Bool
  | macTick _ | rrcBatch | nasBatch => true
  | _ => false

theorem Of.not_isClocked {c : Command} {a : Call κ} (h : Of c a) (hc : c.report? = none) :
    a.isClocked = false := by
  cases h with
  | tick | rrcBatch | nasBatch => cases hc
  | _ => rfl

theorem of_not_isClocked {a : Call κ} (h : a.isClocked = false) :
    a.macTick? = none ∧ a.isRrcBatch = false ∧ a.isNasBatch = false := by
  cases a with
  | macTick | rrcBatch | nasBatch => cases h
  | _ => exact ⟨rfl, rfl, rfl⟩

end Call

namespace Snapshots

/-! ## Reports and calls -/

/-- The reports make these calls, and step the timers so often. -/
structure Called (rs : List (UInt32 × UInt32)) (calls : List (Call κ)) (steps : Nat) : Prop where
  ticked : ticked calls = rs.flatMap fun r => Tti.subTicks r.1 r.2
  rrcBatches : calls.countP (·.isRrcBatch) = rs.length
  nasBatches : calls.countP (·.isNasBatch) = rs.length
  steps : steps = Tti.total (rs.map (·.2))

section Called

variable {rs rs' : List (UInt32 × UInt32)} {cs cs' : List (Call κ)} {n n' : Nat}

theorem called_nil : Called [] ([] : List (Call κ)) 0 := ⟨rfl, rfl, rfl, rfl⟩

theorem Called.append (h : Called rs cs n) (h' : Called rs' cs' n') :
    Called (rs ++ rs') (cs ++ cs') (n + n') where
  ticked := by rw [ticked_append, h.ticked, h'.ticked, List.flatMap_append]
  rrcBatches := by rw [List.countP_append, h.rrcBatches, h'.rrcBatches, List.length_append]
  nasBatches := by rw [List.countP_append, h.nasBatches, h'.nasBatches, List.length_append]
  steps := by rw [h.steps, h'.steps, List.map_append, Tti.total_append]

/-- The ids with which medium access control is called are as many as the steps of the timers. -/
theorem Called.length_ticked (h : Called rs cs n) : (LteUe.ticked cs).length = n := by
  rw [h.ticked, h.steps, List.length_flatMap]
  simp only [Tti.length_subTicks, Tti.total, List.map_map]
  rfl

theorem called_of_not_isClocked (h : ∀ a ∈ cs, a.isClocked = false) : Called [] cs 0 where
  ticked := ticked_eq_nil fun a ha => (Call.of_not_isClocked (h a ha)).1
  rrcBatches := List.countP_eq_zero.2 fun a ha => by simp [Call.of_not_isClocked (h a ha)]
  nasBatches := List.countP_eq_zero.2 fun a ha => by simp [Call.of_not_isClocked (h a ha)]
  steps := rfl

end Called

variable [Layers L κ]

theorem called_perform {c : Command} {y : Executor L κ × Shared κ} (h : Work.BatchWorks c y) :
    Called c.report?.toList (Work.callsOf c y) (Work.stepsOf c y) := by
  cases hc : c.report? with
  | none =>
    have hcalls := called_of_not_isClocked fun a ha => (Work.of_mem_callsOf (c := c) (y := y) ha).not_isClocked hc
    rw [Work.stepsOf_eq h, hc]
    exact hcalls
  | some r =>
    have hsteps := Work.stepsOf_eq h
    rw [hc] at hsteps
    cases c with
    | tick tti jump =>
      cases hc
      obtain ⟨z, hz⟩ := h tti jump rfl
      obtain ⟨ticks, hcalls, hticks, hids⟩ := Work.callsOf_tick_of_ok hz
      have hnone : ∀ p : Call κ → Bool, (∀ a : Call κ, a.isTick = true → p a = false) →
          ticks.countP p = 0 := fun p hp => List.countP_eq_zero.2 fun a ha => by simp [hp a (hticks a ha)]
      refine ⟨?_, ?_, ?_, hsteps⟩
      · rw [hcalls, ticked_append, hids]
        simp [ticked, Call.macTick?]
      · rw [hcalls, List.countP_append, hnone _ fun a ha => (Call.not_isBatch ha).1]
        rfl
      · rw [hcalls, List.countP_append, hnone _ fun a ha => (Call.not_isBatch ha).2]
        rfl
    | _ => cases hc

/-! ## Steps -/

/-- What happens in one step, the calls that the layers get, and how often the timers are stepped. -/
structure Event (κ : Type) where
  query : Queries.Event
  calls : List (Call κ) := []
  steps : Nat := 0

/-- The executor runs a task: what it comes to, the executor that it leaves, its calls, and how often it steps
the timers. Foreign work does not tick, and does not reach the figures of the executor. -/
inductive Ran (u : Task) :
    Executor L κ × Shared κ → Except Fault Reply → Executor L κ → List (Call κ) → Nat → Prop
  | own {y : Executor L κ × Shared κ} :
      Work.BatchWorks u.command y →
        Ran u y (outcome (Work.perform u.command) y).1 (outcome (Work.perform u.command) y).2.1
          (Work.callsOf u.command y) (Work.stepsOf u.command y)
  | foreign {e e' : Executor L κ} {s : Shared κ} {r : Except Fault Reply} {calls : List (Call κ)} :
      u.command.isForeign = true → Work.Still (e, s) (e', s) → (∀ a ∈ calls, a.isClocked = false) →
        Ran u (e, s) r e' calls 0

/-- An executor that has been brought up, and has not run a task. -/
def BroughtUp (e : Executor L κ) : Prop :=
  ∃ (c : StackConfig) (layers : L) (radio : Radio) (sinks : Sinks) (s s' : Shared κ),
    Stack.bringUp radio sinks (.ofLayers layers c, s) = .ok (.ok ()) (e, s')

/-- The steps. While a task is run, others may change what all threads share. Nobody but those whose packet has
found its queue full touches the count of such packets. -/
inductive Step : Queries L κ → Event κ → Queries L κ → Prop
  | spawn {x : Queries L κ} {e : Executor L κ} :
      x.lifecycle = .starting → BroughtUp e →
        Step x { query := .worked } { x with executor := some e, lifecycle := .idle }
  | run {x : Queries L κ} {e e' : Executor L κ} {u : Task} {seen s : Shared κ} {r : Except Fault Reply}
      {calls : List (Call κ)} {n : Nat} :
      x.task = some u → x.executor = some e → Ran u (e, seen) r e' calls n →
        seen.uplinkDropped = x.shared.uplinkDropped → x.shared.Beside s →
          s.uplinkDropped = x.shared.uplinkDropped →
            Step x { query := .ran u r, calls := calls, steps := n }
              { x with
                shared := (Executor.conclude u r e' s).2
                executor := some (Executor.conclude u r e' s).1
                task := none }
  | discard {x : Queries L κ} (lcid : Lcid) :
      Step x { query := .worked }
        { x with
          shared := { x.shared with uplinkDropped := x.shared.uplinkDropped + 1 }.report
            (Shared.uplinkDiscarded lcid) }
  | other {x y : Queries L κ} {w : Queries.Event} :
      Queries.Step x w y → w.run? = none →
        (∀ e', y.executor = some e' → ∃ e, x.executor = some e ∧ Work.Still (e, x.shared) (e', y.shared)) →
          y.shared.uplinkDropped = x.shared.uplinkDropped → Step x { query := w } y

variable {x y : Queries L κ} {w : Event κ} {t m : List (Event κ)} {e e' : Executor L κ} {u : Task}

/-- Apart from the calls and the timers, the steps are those of the questions. -/
theorem Step.query (h : Step x w y) : Queries.Step x w.query y := by
  cases h with
  | spawn hl _ => exact .spawn _ hl
  | run ht he _ _ hb _ => exact .run ht he hb
  | discard lcid => exact .work ⟨rfl, rfl, rfl⟩
  | other h _ _ _ => exact h

/-! ## Histories -/

/-- What has happened, apart from the calls and the timers. -/
def queries (t : List (Event κ)) : List Queries.Event := t.map (·.query)

/-- The calls that the layers have got, oldest first. -/
def calls (t : List (Event κ)) : List (Call κ) := t.flatMap (·.calls)

/-- How often the timers have been stepped. -/
def steps (t : List (Event κ)) : Nat := (t.map (·.steps)).sum

/-- The tasks that have been run. -/
def tasks (t : List (Event κ)) : List Task := Queries.run (queries t)

/-- The reports that have been run. -/
def reports (t : List (Event κ)) : List (UInt32 × UInt32) := (tasks t).filterMap (·.command.report?)

section Histories

omit [Layers L κ]

theorem steps_append (t m : List (Event κ)) : steps (t ++ m) = steps t + steps m := by
  rw [steps, List.map_append, List.sum_append]
  rfl

theorem tasks_append (t m : List (Event κ)) : tasks (t ++ m) = tasks t ++ tasks m := by
  rw [tasks, queries, List.map_append]
  exact List.filterMap_append

theorem reports_append (t m : List (Event κ)) : reports (t ++ m) = reports t ++ reports m := by
  rw [reports, tasks_append]
  exact List.filterMap_append

theorem tasks_singleton (w : Event κ) : tasks [w] = w.query.run?.toList := by
  unfold tasks queries Queries.run
  rw [List.map_singleton, List.filterMap_cons]
  cases w.query.run? <;> rfl

theorem reports_ran {r : Except Fault Reply} (h : w.query = .ran u r) :
    reports [w] = u.command.report?.toList := by
  rw [reports, tasks_singleton, h]
  show [u].filterMap _ = _
  rw [List.filterMap_cons]
  cases u.command.report? <;> rfl

theorem reports_eq_nil (h : tasks t = []) : reports t = [] := by
  rw [reports, h]
  rfl

end Histories

theorem run_queries (h : Run Step x t y) : Run Queries.Step x (queries t) y :=
  h.map (g := id) fun _ => Step.query

/-! ## Figures -/

theorem Ran.called {z : Executor L κ × Shared κ} {r : Except Fault Reply} {cs : List (Call κ)} {n : Nat}
    (h : Ran u z r e' cs n) : Called u.command.report?.toList cs n := by
  cases h with
  | own hb => exact called_perform hb
  | foreign hf _ hc =>
    cases u with | mk c i =>
    cases c with
    | ask | note => exact called_of_not_isClocked hc
    | _ => cases hf

theorem called_step (h : Step x w y) : Called (reports [w]) w.calls w.steps := by
  cases h with
  | run _ _ hr _ _ _ =>
    rw [reports_ran rfl]
    exact hr.called
  | spawn | discard => exact called_nil
  | other _ hw _ _ =>
    rw [reports_eq_nil]
    · exact called_nil
    · rw [tasks_singleton, hw]
      rfl

/-- The calls and the steps of the timers are those of the reports. -/
theorem called (h : Run Step x t y) : Called (reports t) (calls t) (steps t) := by
  induction h with
  | nil => exact called_nil
  | @snoc t y z w _ hs ih =>
    have hw := ih.append (called_step hs)
    rw [reports_append, steps_append, calls, List.flatMap_append]
    simpa [calls, steps] using hw

/-- What an executor has counted in the course of these events. -/
structure Tallies (m : List (Event κ)) (e e' : Executor L κ) : Prop extends Work.Counts (reports m) e e' where
  executed : e'.tasksExecuted = e.tasksExecuted + (tasks m).length
  faulted : e.tasksFaulted ≤ e'.tasksFaulted

omit [Layers L κ] in
theorem Tallies.trans {e'' : Executor L κ} (h : Tallies t e e') (h' : Tallies m e' e'') :
    Tallies (t ++ m) e e'' where
  toCounts := by
    rw [reports_append]
    exact h.toCounts.trans h'.toCounts
  executed := by
    rw [h'.executed, h.executed, tasks_append, List.length_append]
    omega
  faulted := h.faulted.trans h'.faulted

omit [Layers L κ] in
theorem tallies_of_still {s s' : Shared κ} (hm : tasks m = []) (h : Work.Still (e, s) (e', s')) :
    Tallies m e e' where
  toCounts := by
    rw [reports_eq_nil hm]
    exact h.counts
  executed := by
    rw [hm]
    exact h.executed
  faulted := Nat.le_of_eq h.faulted.symm

theorem Ran.counts {s : Shared κ} {r : Except Fault Reply} {cs : List (Call κ)} {n : Nat}
    (h : Ran u (e, s) r e' cs n) : Work.Counts u.command.report?.toList e e' ∧
      e'.tasksExecuted = e.tasksExecuted ∧ e'.tasksFaulted = e.tasksFaulted := by
  cases h with
  | own hb =>
    have hs := Work.steady_perform u.command (e, s)
    exact ⟨Work.counts_perform hb, hs.executed, hs.faulted⟩
  | foreign hf hs _ =>
    refine ⟨?_, hs.executed, hs.faulted⟩
    cases u with | mk c i =>
    cases c with
    | ask | note => exact hs.counts
    | _ => cases hf

/-- A task that has come to its end is counted, with what it has counted itself. -/
theorem Ran.tallies {s s' : Shared κ} {r : Except Fault Reply} {cs : List (Call κ)} {n : Nat}
    (h : Ran u (e, s) r e' cs n) (hw : w.query = .ran u r) :
    Tallies [w] e (Executor.conclude u r e' s').1 := by
  obtain ⟨hc, he, hf⟩ := h.counts
  rw [← reports_ran hw] at hc
  have hone : (tasks [w]).length = 1 := by
    rw [tasks_singleton, hw]
    rfl
  have hexecuted : e'.tasksExecuted + 1 = e.tasksExecuted + (tasks [w]).length := by rw [he, hone]
  have hfaulted : e.tasksFaulted ≤ e'.tasksFaulted := Nat.le_of_eq hf.symm
  cases r with
  | ok v => exact ⟨⟨hc.ticks, hc.currentTti, hc.late, hc.backlog⟩, hexecuted, hfaulted⟩
  | error f =>
    exact ⟨⟨hc.ticks, hc.currentTti, hc.late, hc.backlog⟩, hexecuted, hfaulted.trans (Nat.le_succ _)⟩

/-- An executor that is there after a step has tallied the step, or has just been brought up. -/
theorem Step.tallies (h : Step x w y) (he' : y.executor = some e') :
    (∃ e, x.executor = some e ∧ Tallies [w] e e') ∨
      x.lifecycle = .starting ∧ tasks [w] = [] ∧ BroughtUp e' := by
  cases h with
  | spawn hl hb =>
    cases he'
    exact .inr ⟨hl, rfl, hb⟩
  | run _ he hr _ _ _ =>
    cases he'
    exact .inl ⟨_, he, hr.tallies rfl⟩
  | discard => exact .inl ⟨e', he', tallies_of_still rfl (Work.composes_still.refl (e', x.shared))⟩
  | other _ hw hs _ =>
    obtain ⟨e, he, hs⟩ := hs e' he'
    refine .inl ⟨e, he, tallies_of_still ?_ hs⟩
    rw [tasks_singleton, hw]
    rfl

open Transcript (Spent spent_of_executor)

theorem spent_of_run (h : Run Step x t y) (hx : Spent x) : Spent y :=
  h.invariant hx fun _ _ _ hs h => hs.step h.query

theorem spent_of_tasks {c : StackConfig} (h : Run Step (Queries.start c) t x) (ht : tasks t ≠ []) :
    Spent x := by
  induction h with
  | nil => exact absurd rfl ht
  | @snoc t y z w hr hs ih =>
    by_cases hn : tasks t = []
    · cases id hs with
      | run _ he _ _ _ _ => exact (spent_of_executor (Queries.ordered (run_queries hr)) he).step hs.query
      | spawn | discard =>
        rw [tasks_append, hn] at ht
        exact absurd rfl ht
      | other _ hw _ _ =>
        rw [tasks_append, hn, tasks_singleton, hw] at ht
        exact absurd rfl ht
    · exact (ih hn).step hs.query

/-- The executor that is there has tallied whatever has happened since there was one. -/
theorem tallies_of_spent (h : Run Step x t y) (hx : Spent x) (he' : y.executor = some e') :
    ∃ e, x.executor = some e ∧ Tallies t e e' := by
  induction h generalizing e' with
  | nil => exact ⟨e', he', tallies_of_still rfl (Work.composes_still.refl (e', x.shared))⟩
  | @snoc t y z w hr hs ih =>
    obtain ⟨e₁, he₁, h₁⟩ | ⟨hl, -, -⟩ := hs.tallies he'
    · obtain ⟨e, he, h⟩ := ih he₁
      exact ⟨e, he, h.trans h₁⟩
    · exact absurd hl (spent_of_run hr hx).2

/-- And it has tallied whatever has happened since the stack was made. -/
theorem exists_broughtUp {c : StackConfig} (h : Run Step (Queries.start c) t x) (he : x.executor = some e) :
    ∃ e₀, BroughtUp e₀ ∧ Tallies t e₀ e := by
  induction h generalizing e with
  | nil => cases he
  | @snoc t y z w hr hs ih =>
    obtain ⟨e₁, he₁, h₁⟩ | ⟨hl, hw, hb⟩ := hs.tallies he
    · obtain ⟨e₀, hb, h⟩ := ih he₁
      exact ⟨e₀, hb, h.trans h₁⟩
    · have ht : tasks t = [] := by_contra fun hn => (spent_of_tasks hr hn).2 hl
      refine ⟨e, hb, tallies_of_still ?_ (Work.composes_still.refl (e, y.shared))⟩
      rw [tasks_append, ht, hw]
      rfl

theorem uplinkDropped_le (h : Run Step x t y) : x.shared.uplinkDropped ≤ y.shared.uplinkDropped := by
  refine h.invariant (P := fun z => x.shared.uplinkDropped ≤ z.shared.uplinkDropped) (Nat.le_refl _) ?_
  intro z w z' hz hs
  cases hs with
  | spawn => exact hz
  | run _ _ _ _ _ hs =>
    dsimp only
    rw [Uplink.uplinkDropped_conclude, hs]
    exact hz
  | discard => exact hz.trans (Nat.le_succ _)
  | other _ _ _ hs =>
    rw [hs]
    exact hz

/-! ## Snapshots -/

/-- Task `u` asks for a snapshot, and is run after the events `t₁` of `t`. -/
def TakenAfter (t₁ t : List (Event κ)) (u : Task) (m : StackMetrics) : Prop :=
  u.command = .metrics ∧ ∃ w t₂, t = t₁ ++ w :: t₂ ∧ w.query = .ran u (.ok (.snapshot m))

/-- A snapshot tells the figures of the moment at which it is taken. -/
theorem Step.snapshot {r : Except Fault Reply} (h : Step x w y) (hw : w.query = .ran u r)
    (hu : u.command = .metrics) : x.task = some u ∧ ∃ e s, x.executor = some e ∧
      s.uplinkDropped = x.shared.uplinkDropped ∧ r = .ok (.snapshot (Work.snapshot e s)) := by
  cases h with
  | @run e _ _ seen _ _ _ _ ht he hr hd _ _ =>
    cases hw
    refine ⟨ht, e, seen, he, hd, ?_⟩
    obtain ⟨c, i⟩ := u
    obtain rfl : c = .metrics := hu
    cases hr with
    | own => rfl
    | foreign hf => cases hf
  | spawn | discard => cases hw
  | other _ hn _ _ =>
    obtain rfl : _ = Queries.Event.ran u r := hw
    cases hn

/-- The snapshot `m`, taken by the task `u`, tells what has happened up to the moment after the events `t`, at
which no other task is being run. -/
structure Describes (L : Type) [Layers L κ] (c : StackConfig) (t : List (Event κ)) (u : Task)
    (m : StackMetrics) : Prop where
  /-- The moment. -/
  moment : ∃ (x : Queries L κ) (e : Executor L κ) (s : Shared κ), Run Step (Queries.start c) t x ∧
    x.task = some u ∧ x.executor = some e ∧ s.uplinkDropped = x.shared.uplinkDropped ∧ m = Work.snapshot e s
  executed : m.executor.tasksExecuted = (tasks t).length
  /-- The ticks are those that the reports cover. -/
  ticks : m.executor.ticksProcessed = Tti.total ((reports t).map (·.2))
  /-- Medium access control has been called once for each, in the order of the ids. -/
  macTicks : m.executor.ticksProcessed = (ticked (calls t)).length ∧
    ticked (calls t) = (reports t).flatMap fun r => Tti.subTicks r.1 r.2
  /-- And the timers have been stepped as often. -/
  timers : m.executor.ticksProcessed = steps t
  rrcBatches : (calls t).countP (·.isRrcBatch) = (reports t).length
  nasBatches : (calls t).countP (·.isNasBatch) = (reports t).length
  currentTti : m.executor.currentTti = (reports t).getLast?.map fun r => r.1 % Tti.wrap
  late : m.executor.longTickWarnings = m.executor.tickStats.lateBatches

/-- The figures of the second snapshot are those of a later moment. -/
structure Later (m m' : StackMetrics) : Prop where
  executed : m.executor.tasksExecuted < m'.executor.tasksExecuted
  ticks : m.executor.ticksProcessed ≤ m'.executor.ticksProcessed
  faulted : m.executor.tasksFaulted ≤ m'.executor.tasksFaulted
  long : m.executor.longTickWarnings ≤ m'.executor.longTickWarnings
  backlog : m.executor.backlogWarnings ≤ m'.executor.backlogWarnings
  dropped : m.executor.uplinkDropped ≤ m'.executor.uplinkDropped
  late : m.executor.tickStats.lateBatches ≤ m'.executor.tickStats.lateBatches

/-- What holds of the snapshots taken in the course of the events `t`, which have led to `x`. -/
structure Consistent (c : StackConfig) (t : List (Event κ)) (x : Queries L κ) : Prop where
  /-- Whoever asks for the metrics, and is answered, is given the snapshot that its own task has taken. -/
  answered (p i : Nat) (v : Reply) : .pushed p .metrics (.accepted i) ∈ queries t →
    .answered p (.ok v) ∈ queries t → ∃ t₁ m, v = .snapshot m ∧ TakenAfter t₁ t ⟨.metrics, some i⟩ m
  describes (t₁ : List (Event κ)) (u : Task) (m : StackMetrics) : TakenAfter t₁ t u m → Describes L c t₁ u m
  later (t₁ t₁' : List (Event κ)) (u u' : Task) (m m' : StackMetrics) : TakenAfter t₁ t u m →
    TakenAfter t₁' t u' m' → t₁.length < t₁'.length → Later m m'
  /-- A turn of the executor is made of such steps, if no hook and no callback of a report faults. -/
  turn (e e' : Executor L κ) (s : Shared κ) : x.task = none → x.executor = some e →
    e.turn x.shared = some (e', s) → (∃ m, Run Step x m { x with shared := s, executor := some e' }) ∨
      ∃ u y tti jump f z, e.begin x.shared = some (u, y) ∧ u.command = .tick tti jump ∧
        Work.batch tti jump y = .error f z ∧ Work.Raises (κ := κ) L tti jump f
  /-- Handing over a packet is one such step. -/
  handOver (p : Packet) (b : Bool) (s : Shared κ) : x.shared.uplink p.lcid p.sdu p.blocking = some (b, s) →
    ∃ w, Step x w { x with shared := s }

variable {c : StackConfig} {t₁ t₁' : List (Event κ)} {u' : Task} {s s' : Shared κ} {a a' : StackMetrics}

theorem exists_moment (h : Run Step (Queries.start c) t x) (ha : TakenAfter t₁ t u a) :
    ∃ (y : Queries L κ) (e : Executor L κ) (s : Shared κ), Run Step (Queries.start c) t₁ y ∧
      y.task = some u ∧ y.executor = some e ∧ s.uplinkDropped = y.shared.uplinkDropped ∧
        a = Work.snapshot e s := by
  obtain ⟨hu, w, t₂, rfl, hw⟩ := ha
  obtain ⟨y, h₁, h₂⟩ := run_append_iff.1 h
  obtain ⟨z, hs, -⟩ := run_cons_iff.1 h₂
  obtain ⟨ht, e, s, he, hd, hr⟩ := hs.snapshot hw hu
  cases hr
  exact ⟨y, e, s, h₁, ht, he, hd, rfl⟩

/-- The figures of an executor are those of all that has happened since the stack was made. -/
theorem figures (h : Run Step (Queries.start c) t x) (he : x.executor = some e) :
    e.tasksExecuted = (tasks t).length ∧ e.ticksProcessed = steps t ∧
      e.currentTti = ((reports t).getLast?.map fun r => r.1 % Tti.wrap) ∧
        e.longTickWarnings = e.profiler.late := by
  obtain ⟨e₀, ⟨c₀, l, radio, sinks, s, s', hb⟩, hm⟩ := exists_broughtUp h he
  obtain ⟨l', hl⟩ : ∃ l', e₀ = { Executor.ofLayers l c₀ with layers := l' } :=
    (Work.onlyLayers_bringUp radio sinks).of_ok hb
  subst hl
  obtain ⟨n, hlong, hlate⟩ := hm.late
  refine ⟨hm.executed.trans (Nat.zero_add _), ?_, hm.currentTti.trans (Option.or_none ..), ?_⟩
  · rw [(called h).steps]
    exact hm.ticks.trans (Nat.zero_add _)
  · rw [hlong, hlate]
    rfl

theorem describes (h : Run Step (Queries.start c) t x) (ha : TakenAfter t₁ t u a) : Describes L c t₁ u a := by
  obtain ⟨y, e, s, h₁, ht, he, hd, rfl⟩ := exists_moment h ha
  obtain ⟨hexecuted, hticks, htti, hlate⟩ := figures h₁ he
  have hcalled := called h₁
  exact {
    moment := ⟨y, e, s, h₁, ht, he, hd, rfl⟩
    executed := hexecuted
    ticks := hticks.trans hcalled.steps
    macTicks := ⟨hticks.trans hcalled.length_ticked.symm, hcalled.ticked⟩
    timers := hticks
    rrcBatches := hcalled.rrcBatches
    nasBatches := hcalled.nasBatches
    currentTti := htti
    late := hlate }

theorem Tallies.later (h : Tallies m e e') (hm : tasks m ≠ []) (hd : s.uplinkDropped ≤ s'.uplinkDropped) :
    Later (Work.snapshot e s) (Work.snapshot e' s') := by
  obtain ⟨n, hlong, hlate⟩ := h.late
  have hpos := List.length_pos_iff.2 hm
  refine ⟨?_, ?_, h.faulted, ?_, h.backlog, hd, ?_⟩
  · show e.tasksExecuted < e'.tasksExecuted
    rw [h.executed]
    omega
  · exact Nat.le.intro h.ticks.symm
  · exact Nat.le.intro hlong.symm
  · exact Nat.le.intro hlate.symm

theorem later (h : Run Step (Queries.start c) t x) (ha : TakenAfter t₁ t u a) (ha' : TakenAfter t₁' t u' a')
    (hlt : t₁.length < t₁'.length) : Later a a' := by
  obtain ⟨y', e', s', h', -, he', hd', rfl⟩ := exists_moment h ha'
  obtain ⟨-, w', t₂', ht', -⟩ := ha'
  obtain ⟨hu, w, t₂, ht, hw⟩ := ha
  -- The first task and what happens up to the second one.
  obtain ⟨m, rfl⟩ : ∃ m, t₁' = t₁ ++ w :: m := by
    rw [ht] at ht'
    obtain ⟨m, hm, hm'⟩ | ⟨m, rfl, -⟩ := List.append_eq_append_iff.1 ht'
    · cases m with
      | nil =>
        rw [hm, List.append_nil] at hlt
        exact absurd hlt (Nat.lt_irrefl _)
      | cons v m =>
        cases hm'
        exact ⟨m, hm⟩
    · rw [List.length_append] at hlt
      omega
  obtain ⟨y, h₁, h₂⟩ := run_append_iff.1 h'
  obtain ⟨z, hs, -⟩ := run_cons_iff.1 h₂
  obtain ⟨-, e, s, he, hd, hr⟩ := hs.snapshot hw hu
  cases hr
  obtain ⟨e₁, he₁, hm⟩ := tallies_of_spent h₂ (spent_of_executor (Queries.ordered (run_queries h₁)) he) he'
  obtain rfl : e = e₁ := Option.some.inj (he.symm.trans he₁)
  refine hm.later ?_ ?_
  · have hne : tasks [w] ≠ [] := by
      rw [tasks_singleton, hw]
      exact List.cons_ne_nil _ _
    intro hn
    rw [← List.singleton_append, tasks_append] at hn
    exact hne (List.append_eq_nil_iff.1 hn).1
  · rw [hd, hd']
    exact uplinkDropped_le h₂

/-! ## The program goes by these steps -/

theorem step_aside {v : Queries.Event} (h : Queries.Step x v y) (hv : v.run? = none)
    (he : y.executor = x.executor) (hd : y.shared.uplinkDropped = x.shared.uplinkDropped) :
    Step x { query := v } y :=
  .other h hv (fun e' he' => ⟨e', he ▸ he', rfl, rfl, rfl, rfl⟩) hd

theorem step_began (ht : x.task = none) (he : x.executor = some e) (hr : e.running = true)
    (hb : e.begin x.shared = some (u, e', s)) :
    Step x { query := .began u } { x with shared := s, executor := some e', task := some u } := by
  have hs : Queries.Step x (.began u) { x with shared := s, executor := some e', task := some u } :=
    .begin ht he hr hb
  obtain ⟨d, -, rfl, rfl⟩ := Executor.begin_eq_some_iff.1 hb
  refine .other hs rfl (fun e₁ he₁ => ?_) rfl
  cases he₁
  exact ⟨e, he, rfl, rfl, rfl, rfl⟩

theorem step_run (ht : x.task = some u) (he : x.executor = some e)
    (hb : Work.BatchWorks u.command (e, x.shared)) :
    Step x
      { query := .ran u (outcome (Work.perform u.command) (e, x.shared)).1
        calls := Work.callsOf u.command (e, x.shared)
        steps := Work.stepsOf u.command (e, x.shared) }
      { x with shared := (e.run u x.shared).2, executor := some (e.run u x.shared).1, task := none } := by
  have hs := (Work.steady_perform (L := L) u.command (e, x.shared)).aside
  exact .run ht he (.own hb) rfl hs (Uplink.uplinkDropped_perform u.command (e, x.shared))

theorem run_turn (ht : x.task = none) (he : x.executor = some e) (h : e.turn x.shared = some (e', s)) :
    (∃ m, Run Step x m { x with shared := s, executor := some e' }) ∨
      ∃ u y tti jump f z, e.begin x.shared = some (u, y) ∧ u.command = .tick tti jump ∧
        Work.batch tti jump y = .error f z ∧ Work.Raises (κ := κ) L tti jump f := by
  obtain ⟨hr, u, e₁, s₁, hb, hrun⟩ := Executor.turn_eq_some_iff.1 h
  obtain hw | ⟨tti, jump, f, z, hu, hz, hf⟩ := Work.batchWorks_or_raises u.command (e₁, s₁)
  · have h₁ := step_began ht he hr hb
    have h₂ := step_run (x := { x with shared := s₁, executor := some e₁, task := some u }) rfl rfl hw
    rw [hrun] at h₂
    rw [ht]
    exact .inl ⟨_, .cons h₁ (run_singleton_iff.2 h₂)⟩
  · exact .inr ⟨u, _, tti, jump, f, z, hb, hu, hz, hf⟩

/-- A packet that is handed over is enqueued or turned away, or it finds its queue full. -/
theorem exists_step_uplink {p : Packet} {b : Bool} (h : x.shared.uplink p.lcid p.sdu p.blocking = some (b, s)) :
    ∃ w, Step x w { x with shared := s } := by
  obtain ⟨d, ho, -, rfl⟩ | ⟨e, -, -, rfl⟩ | ⟨-, -, -, rfl⟩ := Uplink.uplink_cases h
  · exact ⟨_, step_aside (.post ho) rfl rfl rfl⟩
  · exact ⟨_, step_aside (.work ⟨rfl, rfl, rfl⟩) rfl rfl rfl⟩
  · exact ⟨_, .discard p.lcid⟩

/-- However reports, questions and other tasks come, every snapshot is of one moment between two tasks. -/
theorem snapshots_consistent (h : Run Step (Queries.start c) t x) : Consistent c t x where
  answered p i v hp hv := by
    obtain ⟨w, hw, hran⟩ := List.mem_map.1
      (Queries.ran_of_answered (t := []) (m := queries t) (run_queries h) hp hv)
    obtain ⟨t₁, t₂, rfl⟩ := List.append_of_mem hw
    obtain ⟨y, -, h₂⟩ := run_append_iff.1 h
    obtain ⟨z, hs, -⟩ := run_cons_iff.1 h₂
    obtain ⟨-, e, s, -, -, hr⟩ := hs.snapshot hran rfl
    cases hr
    exact ⟨t₁, _, rfl, rfl, w, t₂, rfl, hran⟩
  describes _ _ _ ha := describes h ha
  later _ _ _ _ _ _ ha ha' := later h ha ha'
  turn _ _ _ := run_turn
  handOver _ _ _ := exists_step_uplink

/-! ## Two snapshots -/

open Queries (waiting)

/-- What a task finds that nobody interferes with. -/
def undisturbed : Shared Callback := .ofConfig {}

/-- An executor that has run these tasks. -/
def executorAfter (us : List Task) : Executor ObservedLayers Callback :=
  us.foldl (fun e u => (e.run u undisturbed).1)
    (.ofLayers { plan := {}, nasHandle := true, rrcHandle := true } {})

/-- What the threads of a running stack share. -/
def sharing (w : World) (d : Dispatcher Task) (slots : Array (ResultSlot Reply)) : Shared Callback where
  state := .running
  world := w
  config := {}
  dispatcher := d
  slots := slots
  pool := .ofSize 2

/-- A stack whose executor has run these tasks, and has no other. -/
def resting (us : List Task) (s : Shared Callback) (callers : Nat → Caller) :
    Queries ObservedLayers Callback where
  shared := s
  executor := some (executorAfter us)
  callers := callers

theorem begin_sharing {e : Executor ObservedLayers Callback} {w : World} {d d' : Dispatcher Task}
    {slots : Array (ResultSlot Reply)} {u : Task} (hd : d.tryPop = some (u, d')) :
    e.begin (sharing w d slots) = some (u, e, sharing w d' slots) :=
  Executor.begin_eq_some_iff.2 ⟨d', hd, rfl, rfl⟩

theorem exists_run_taken {us : List Task} {w : World} {d d' : Dispatcher Task}
    {slots : Array (ResultSlot Reply)} {callers : Nat → Caller} {u : Task} {r : Except Fault Reply}
    {cs : List (Call Callback)} {n : Nat} {t : List (Event Callback)}
    (hr : (executorAfter us).running = true) (hd : d.tryPop = some (u, d'))
    (hb : Work.BatchWorks u.command (executorAfter us, undisturbed))
    (hv : (outcome (Work.perform u.command) (executorAfter us, undisturbed)).1 = r)
    (hc : Work.callsOf u.command (executorAfter us, undisturbed) = cs)
    (hn : Work.stepsOf u.command (executorAfter us, undisturbed) = n)
    (h : ∃ x, Run Step (resting (us ++ [u])
      (Executor.conclude u r (executorAfter us) (sharing w d' slots)).2 callers) t x) :
    ∃ x, Run Step (resting us (sharing w d slots) callers)
      ({ query := .began u } :: { query := .ran u r, calls := cs, steps := n } :: t) x := by
  have hs : Step (resting us (sharing w d slots) callers) _ _ := step_began rfl rfl hr (begin_sharing hd)
  refine exists_run_cons hs ?_
  subst hv hc hn
  refine exists_run_cons (.run (s := sharing w d' slots) rfl rfl (.own hb) rfl ⟨rfl, rfl, rfl⟩ rfl) ?_
  rw [Transcript.conclude_snd u _ _ (executorAfter us), Transcript.conclude_fst u _ _ _
    (outcome (Work.perform u.command) (executorAfter us, undisturbed)).2.2]
  unfold resting executorAfter at h
  rw [List.foldl_append] at h
  exact h

def report : Task := ⟨.tick 10241 1, none⟩

def faulty : Task := ⟨.note "late" true, none⟩

def first : Task := ⟨.metrics, some 0⟩

def noTicks : Task := ⟨.tick 3 0, none⟩

def second : Task := ⟨.metrics, some 1⟩

/-- The snapshot that is taken when these tasks have been run. -/
def snapshotAfter (us : List Task) : StackMetrics := Work.snapshot (executorAfter us) undisturbed

/-- A report of one tick, and a task that faults. -/
def starting : List (Event Callback) :=
  [{ query := .worked }, { query := .worked }, { query := .posted report.command }, { query := .began report },
    { query := .ran report (.ok .done), calls := [.macTick 1, .rrcBatch, .nasBatch], steps := 1 },
    { query := .posted faulty.command }, { query := .began faulty },
    { query := .ran faulty (.error (.raised "task late")) }]

/-- A snapshot, a report of no tick, and another snapshot. -/
def asking : List (Event Callback) :=
  let m := snapshotAfter [report, faulty]
  let m' := snapshotAfter [report, faulty, first, noTicks]
  [{ query := .entered 0 .metrics .running }, { query := .pushed 0 .metrics (.accepted 0) },
    { query := .began first }, { query := .ran first (.ok (.snapshot m)) },
    { query := .answered 0 (.ok (.snapshot m)) }, { query := .posted noTicks.command }, { query := .began noTicks },
    { query := .ran noTicks (.ok .done), calls := [.rrcBatch, .nasBatch] },
    { query := .entered 1 .metrics .running }, { query := .pushed 1 .metrics (.accepted 1) },
    { query := .began second }, { query := .ran second (.ok (.snapshot m')) },
    { query := .answered 1 (.ok (.snapshot m')) }]

theorem broughtUp_executorAfter : BroughtUp (executorAfter []) :=
  ⟨{}, { plan := {} }, Execution.oneCell, {}, .ofConfig {}, _, rfl⟩

theorem batchWorks_of_isOk {tti jump : UInt32} {y : Executor ObservedLayers Callback × Shared Callback}
    (h : (outcome (Work.batch tti jump : Work ObservedLayers Callback Unit) y).1.isOk = true) :
    Work.BatchWorks (.tick tti jump) y := by
  intro _ _ h'
  cases h'
  exact Work.exists_ok h

theorem exists_run_asking (w : World) : ∃ x, Run Step
    (resting [report, faulty] (sharing w (waiting [] [] 4) #[]) fun _ => .idle) asking x := by
  let m := snapshotAfter [report, faulty]
  refine exists_run_cons (step_aside (.enter 0 _ rfl rfl) rfl rfl rfl) <|
    exists_run_cons (step_aside (.accept rfl rfl) rfl rfl rfl) ?_
  show ∃ x, Run Step (resting [report, faulty] (sharing w (waiting [] [first] 4) #[⟨none, 1, true⟩]) _) _ x
  refine exists_run_taken (by decide +kernel) rfl nofun rfl rfl rfl ?_
  refine exists_run_cons (step_aside (.answer (i := 0) rfl rfl) rfl rfl rfl) ?_
  show ∃ x, Run Step (resting [report, faulty, first]
    (sharing w (waiting [] [] 2) #[⟨some (.snapshot m), 0, true⟩]) _) _ x
  refine exists_run_cons (step_aside (.post (k := .sync) rfl) rfl rfl rfl) <|
    exists_run_taken (by decide +kernel) rfl (batchWorks_of_isOk (by decide +kernel)) rfl rfl rfl ?_
  refine exists_run_cons (step_aside (.enter 1 _ rfl rfl) rfl rfl rfl) <|
    exists_run_cons (step_aside (.accept rfl rfl) rfl rfl rfl) ?_
  show ∃ x, Run Step (resting [report, faulty, first, noTicks]
    (sharing w (waiting [] [second] 3) #[⟨some (.snapshot m), 0, true⟩, ⟨none, 1, true⟩]) _) _ x
  refine exists_run_taken (by decide +kernel) rfl nofun rfl rfl rfl ?_
  exact exists_run_cons (step_aside (.answer (i := 1) rfl rfl) rfl rfl rfl) ⟨_, .nil⟩

theorem exists_run_starting :
    ∃ x : Queries ObservedLayers Callback, Run Step (Queries.start {}) (starting ++ asking) x := by
  have hup : Queries.Step (Queries.start {}) .worked
      { (Queries.start {} : Queries ObservedLayers Callback) with
        shared := { (Queries.start {} : Queries ObservedLayers Callback).shared with state := .running }
        lifecycle := .starting } := .start rfl rfl ⟨rfl, rfl, rfl⟩
  refine exists_run_cons (step_aside hup rfl rfl rfl) <|
    exists_run_cons (.spawn rfl broughtUp_executorAfter) <|
    exists_run_cons (step_aside (.post (k := .sync) rfl) rfl rfl rfl) ?_
  show ∃ x, Run Step (resting [] (sharing {} _ #[]) fun _ => .idle) _ x
  refine exists_run_taken rfl rfl (batchWorks_of_isOk (by decide +kernel)) rfl rfl rfl ?_
  show ∃ x, Run Step (resting [report] (sharing {} (waiting [] [] 3) #[]) fun _ => .idle) _ x
  refine exists_run_cons (step_aside (.post (k := .gateway) rfl) rfl rfl rfl) <|
    exists_run_taken (by decide +kernel) rfl nofun rfl rfl rfl ?_
  exact exists_run_asking _

/-- The first snapshot finds one task of two faulted. The second one is taken two tasks later, after a report of
no tick. -/
theorem snapshots_consistent_of_two :
    let m := (snapshotAfter [report, faulty]).executor
    let m' := (snapshotAfter [report, faulty, first, noTicks]).executor
    (∃ x : Queries ObservedLayers Callback, Run Step (Queries.start {}) (starting ++ asking) x ∧
      Consistent {} (starting ++ asking) x) ∧
    (m.tasksExecuted = 2 ∧ m.tasksFaulted = 1 ∧ m.ticksProcessed = 1 ∧ m.currentTti = some 1) ∧
    (m'.tasksExecuted = 4 ∧ m'.tasksFaulted = 1 ∧ m'.ticksProcessed = 1 ∧ m'.currentTti = some 3) := by
  intro m m'
  obtain ⟨x, h⟩ := exists_run_starting
  exact ⟨⟨x, h, snapshots_consistent h⟩, by decide +kernel, by decide +kernel⟩

end Snapshots

end LteUe

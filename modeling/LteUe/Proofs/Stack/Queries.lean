import LteUe.Proofs.Runs
import LteUe.Proofs.Stack.Handles
import LteUe.Stack.Basic
import Mathlib.Logic.Function.Basic

/-!
# Questions to a stack

Any number of callers, told apart by numbers, put one question each. Around them other producers
enqueue tasks, the executor runs what it takes, and the stack is brought up and shut down once. Every
look at the state, every attempt to push, the taking of a task, its end, the closing of the dispatcher
and every look for an answer is one atomic step (`Queries.Step`); they come in any order that the
program of each thread allows.

The events of a run tell what became of each task (`ended`) and what each caller was told
(`returnedTo`).
-/

namespace LteUe

open Function

variable {L κ : Type}

/-- Where a caller is in its question. -/
inductive Caller where
  | idle
  /-- It has found the stack running, and is to push its task. -/
  | asking (c : Command)
  /-- Its task was accepted, and it waits for the answer under a ticket. -/
  | waiting (i : Nat)
  | done

/-- Where the one thread is that starts or shuts the stack down at a time. -/
inductive Lifecycle where
  | idle
  /-- The stack is said to run, and its executor is about to be there. -/
  | starting
  /-- There will be no executor, and the dispatcher is to be closed. -/
  | failing
  /-- The stack is said to stop, and the task that ends the executor is to be enqueued. -/
  | stopping
  /-- It waits for the end of the executor. -/
  | joining
  /-- There is no executor any more, and the dispatcher is to be closed. -/
  | closing
  /-- It waits for the workers. -/
  | ending
deriving DecidableEq

/-- A stack, and the threads that use it. -/
structure Queries (L κ : Type) extends Stack L κ where
  task : Option Task := none
  lifecycle : Lifecycle := .idle
  callers : Nat → Caller := fun _ => .idle

namespace Queries

/-- A new stack that nobody uses yet. -/
def start (c : StackConfig) : Queries L κ where
  shared := .ofConfig c

/-- All tasks that wait or are being run. -/
def tasks (x : Queries L κ) : List Task := x.shared.dispatcher.tasks ++ x.task.toList

/-- How an attempt to push a question ended. -/
inductive Verdict where
  | accepted (i : Nat)
  | refused (e : StackError)
  | parked

/-- What happens in one step. -/
inductive Event where
  /-- Caller `p` puts a question, and finds the stack in this state. -/
  | entered (p : Nat) (c : Command) (state : LifecycleState)
  /-- Caller `p` makes an attempt to push its task. -/
  | pushed (p : Nat) (c : Command) (v : Verdict)
  | answered (p : Nat) (r : Except StackError Reply)
  /-- A task that nobody waits for is enqueued. -/
  | posted (c : Command)
  | began (t : Task)
  | ran (t : Task) (r : Except Fault Reply)
  | closed (dropped : List Task)
  /-- Anything that concerns no task. -/
  | worked
  | stopped

/-- The steps. A task does anything to the executor, and to the surroundings anything that goes on
beside the questions; its result is whatever it is. -/
inductive Step : Queries L κ → Event → Queries L κ → Prop
  | enter {x : Queries L κ} (p : Nat) (c : Command) :
      x.callers p = .idle → x.state = .running →
        Step x (.entered p c x.state) { x with callers := update x.callers p (.asking c) }
  | deny {x : Queries L κ} (p : Nat) (c : Command) :
      x.callers p = .idle → x.state ≠ .running →
        Step x (.entered p c x.state) { x with callers := update x.callers p .done }
  | accept {x : Queries L κ} {p i : Nat} {c : Command} {s : Shared κ} :
      x.callers p = .asking c → x.shared.pose c = .asked i s →
        Step x (.pushed p c (.accepted i))
          { x with shared := s, callers := update x.callers p (.waiting i) }
  | refuse {x : Queries L κ} {p : Nat} {c : Command} {e : StackError} :
      x.callers p = .asking c → x.shared.pose c = .refused e →
        Step x (.pushed p c (.refused e)) { x with callers := update x.callers p .done }
  | park {x : Queries L κ} {p : Nat} {c : Command} :
      x.callers p = .asking c → x.shared.pose c = .parked → Step x (.pushed p c .parked) x
  | answer {x : Queries L κ} {p i : Nat} {r : Except StackError Reply} :
      x.callers p = .waiting i → x.shared.answer? i = some r →
        Step x (.answered p r) { x with callers := update x.callers p .done }
  | post {x : Queries L κ} {k : QueueKind} {c : Command} {d : Dispatcher Task} :
      x.shared.offer k { command := c } = .accepted d →
        Step x (.posted c) { x with shared := { x.shared with dispatcher := d } }
  | work {x : Queries L κ} {s : Shared κ} :
      x.shared.Beside s → Step x .worked { x with shared := s }
  | begin {x : Queries L κ} {e e' : Executor L κ} {t : Task} {s : Shared κ} :
      x.task = none → x.executor = some e → e.running = true → e.begin x.shared = some (t, e', s) →
        Step x (.began t) { x with shared := s, executor := some e', task := some t }
  | run {x : Queries L κ} {e₀ e : Executor L κ} {t : Task} {r : Except Fault Reply} {s : Shared κ} :
      x.task = some t → x.executor = some e₀ → x.shared.Beside s →
        Step x (.ran t r)
          { x with
            shared := (Executor.conclude t r e s).2
            executor := some (Executor.conclude t r e s).1
            task := none }
  | start {x : Queries L κ} {s : Shared κ} :
      x.lifecycle = .idle → x.state = .uninitialized → x.shared.Beside s →
        Step x .worked { x with shared := { s with state := .running }, lifecycle := .starting }
  | spawn {x : Queries L κ} (e : Executor L κ) :
      x.lifecycle = .starting → Step x .worked { x with executor := some e, lifecycle := .idle }
  | fail {x : Queries L κ} :
      x.lifecycle = .starting →
        Step x .worked { x with shared := { x.shared with state := .stopped }, lifecycle := .failing }
  | closeFailed {x : Queries L κ} :
      x.lifecycle = .failing →
        Step x (.closed x.shared.dispatcher.tasks)
          { x with shared := x.shared.closeDispatcher, lifecycle := .idle }
  | shutdownUnused {x : Queries L κ} :
      x.lifecycle = .idle → x.state = .uninitialized → Step x .worked { x with lifecycle := .closing }
  | shutdown {x : Queries L κ} :
      x.lifecycle = .idle → x.state = .running ∨ x.state = .stopping →
        Step x .worked { x with toStack := x.toStack.beginShutdown, lifecycle := .stopping }
  | queueTeardown {x : Queries L κ} {d : Dispatcher Task} :
      x.lifecycle = .stopping → x.shared.offer .control { command := .teardown } = .accepted d →
        Step x (.posted .teardown)
          { x with shared := { x.shared with dispatcher := d }, lifecycle := .joining }
  | teardownRejected {x : Queries L κ} {e : PushError Task} :
      x.lifecycle = .stopping → x.shared.offer .control { command := .teardown } = .rejected e →
        Step x .worked
          { x with
            shared := x.shared.report (Stack.cannotQueueShutdown e)
            lifecycle := .joining }
  | join {x : Queries L κ} :
      x.lifecycle = .joining → x.task = none →
        (∀ e, x.executor = some e → e.running = false ∨ x.shared.dispatcher.closed = true) →
          Step x .worked { x with executor := none, lifecycle := .closing }
  | close {x : Queries L κ} :
      x.lifecycle = .closing →
        Step x (.closed x.shared.dispatcher.tasks)
          { x with shared := x.shared.closeDispatcher, lifecycle := .ending }
  | finish {x : Queries L κ} {s : Shared κ} :
      x.lifecycle = .ending → x.shared.Beside s →
        Step x .stopped { x with shared := { s with state := .stopped }, lifecycle := .idle }
  | stoppedBefore {x : Queries L κ} :
      x.lifecycle = .idle → x.state = .stopped → Step x .stopped x

/-! ## Histories -/

namespace Event

/-- The task that an event adds to a queue. -/
def accepted? : Event → Option Task
  | pushed _ c (.accepted i) => some { command := c, ticket := some i }
  | posted c => some { command := c }
  | _ => none

/-- The tasks that an event ends, each with its fate. -/
def ended : Event → List (Task × Fate)
  | ran t r => [(t, .ran r)]
  | closed l => l.map fun t => (t, .dropped)
  | _ => []

/-- The task that the executor takes. -/
def begun? : Event → Option Task
  | began t => some t
  | _ => none

/-- The task that the executor has run. -/
def run? : Event → Option Task
  | ran t _ => some t
  | _ => none

/-- The task of caller `p`, if the event accepts it. -/
def acceptedBy? (p : Nat) : Event → Option Task
  | pushed q c (.accepted i) => if q = p then some { command := c, ticket := some i } else none
  | _ => none

/-- What caller `p` is told, if the event ends its question. -/
def returned? (p : Nat) : Event → Option (Except StackError Reply)
  | entered q _ state => if q = p ∧ state ≠ .running then some (.error .notRunning) else none
  | pushed q _ (.refused e) => if q = p then some (.error e) else none
  | answered q r => if q = p then some r else none
  | _ => none

end Event

/-- The tasks accepted. -/
def accepted (t : List Event) : List Task := t.filterMap (·.accepted?)

/-- The tasks that have come to an end, each with its fate. -/
def ended (t : List Event) : List (Task × Fate) := t.flatMap (·.ended)

/-- The tasks that the executor has taken. -/
def begun (t : List Event) : List Task := t.filterMap (·.begun?)

/-- The tasks that the executor has run to their ends. -/
def run (t : List Event) : List Task := t.filterMap (·.run?)

/-- The tasks accepted from caller `p`. -/
def acceptedBy (p : Nat) (t : List Event) : List Task := t.filterMap (·.acceptedBy? p)

/-- What caller `p` has been told. -/
def returnedTo (p : Nat) (t : List Event) : List (Except StackError Reply) :=
  t.filterMap (·.returned? p)

/-- The fates of the tasks accepted from caller `p`. -/
def fatesOf (p : Nat) (t : List Event) : List Fate :=
  (ended t).filterMap fun e => if e.1 ∈ acceptedBy p t then some e.2 else none

variable {x y : Queries L κ} {e : Event}

theorem tasks_eq_nil_iff : x.tasks = [] ↔ x.shared.dispatcher.tasks = [] ∧ x.task = none := by
  rw [tasks, List.append_eq_nil_iff, Option.toList_eq_nil_iff]

/-! ## What a step does to the dispatcher -/

/-- What a step does to the dispatcher. -/
inductive Touched (d : Dispatcher Task) : Dispatcher Task → Prop
  | same : Touched d d
  | pushed {q : QueueId} {u : Task} {d' : Dispatcher Task} : d.offer q u = .accepted d' → Touched d d'
  | popped {u : Task} {d' : Dispatcher Task} : d.tryPop = some (u, d') → Touched d d'
  | closed : Touched d d.close.2

namespace Touched

variable {d d' : Dispatcher Task}

theorem capacities (h : Touched d d') :
    d'.queues.map (·.capacity) = d.queues.map (·.capacity) := by
  cases h with
  | same => rfl
  | pushed h =>
    obtain ⟨-, -, rfl⟩ := Dispatcher.offer_eq_accepted_iff.1 h
    exact d.map_modifyQueue _ fun _ => rfl
  | popped h =>
    obtain ⟨i, -, -, rfl⟩ :=
      Dispatcher.popInTurn_eq_some_iff.1 (Dispatcher.tryPop_eq_some_iff.1 h).2
    exact d.map_modifyQueue _ fun _ => rfl
  | closed => exact List.map_map ..

theorem length_eq (h : Touched d d') : d'.queues.length = d.queues.length := by
  simpa using congrArg List.length h.capacities

theorem isClosed (h : Touched d d') (hc : d.closed = true) : d'.closed = true := by
  cases h with
  | same => exact hc
  | pushed h => rw [Dispatcher.closed_of_accepted h, hc]
  | popped h =>
    rw [(Dispatcher.tryPop_eq_some_iff.1 h).1] at hc
    cases hc
  | closed => rfl

theorem tasks_eq_nil (h : Touched d d') (hd : d.closed = true → d.tasks = [])
    (hc : d'.closed = true) : d'.tasks = [] := by
  cases h with
  | same => exact hd hc
  | pushed h =>
    obtain ⟨ho, -, -⟩ := Dispatcher.offer_eq_accepted_iff.1 h
    rw [Dispatcher.closed_of_accepted h, ho] at hc
    cases hc
  | popped h =>
    obtain ⟨ho, h⟩ := Dispatcher.tryPop_eq_some_iff.1 h
    obtain ⟨i, -, -, rfl⟩ := Dispatcher.popInTurn_eq_some_iff.1 h
    rw [show (d.serve i).closed = d.closed from rfl, ho] at hc
    cases hc
  | closed => exact Dispatcher.tasks_eq_nil_iff.2 d.contents_close

end Touched

/-! ## What a step does to tasks and answers -/

/-- The effect of an event on the tasks and the answers. No task is lost or doubled, a ticket is used
once, and a slot changes by the end of a task that holds its ticket. -/
structure Effect (x : Queries L κ) (e : Event) (y : Queries L κ) : Prop where
  touched : Touched x.shared.dispatcher y.shared.dispatcher
  conserves : (x.tasks ++ e.accepted?.toList).Perm (e.ended.map (·.1) ++ y.tasks)
  tickets : List.range y.shared.slots.size =
    List.range x.shared.slots.size ++ e.accepted?.toList.filterMap (·.ticket)
  slot (i : Nat) : i < x.shared.slots.size →
    y.shared.slots[i]? = x.shared.slots[i]?.map (settleAll (fatesUnder i e.ended))
  fresh (i : Nat) : x.shared.slots.size ≤ i → i < y.shared.slots.size →
    e.ended = [] ∧ y.shared.slots[i]? = some ResultSlot.empty.addWriter
  task : x.task.toList ++ e.begun?.toList = e.run?.toList ++ y.task.toList

theorem Effect.of_slots (hd : Touched x.shared.dispatcher y.shared.dispatcher) (he : e.ended = [])
    (ht : e.accepted?.toList.filterMap (·.ticket) = []) (hs : y.shared.slots = x.shared.slots)
    (h : (x.tasks ++ e.accepted?.toList).Perm y.tasks)
    (hb : x.task.toList ++ e.begun?.toList = e.run?.toList ++ y.task.toList) : Effect x e y where
  touched := hd
  conserves := by rwa [he]
  tickets := by rw [hs, ht, List.append_nil]
  slot i _ := by
    rw [hs, he]
    cases x.shared.slots[i]? <;> rfl
  fresh i hi hi' := by
    rw [hs] at hi'
    omega
  task := hb

theorem Effect.of_beside (he : e.ended = []) (ha : e.accepted? = none) (hb : e.begun? = none)
    (hr : e.run? = none) (hd : y.shared.dispatcher = x.shared.dispatcher)
    (hs : y.shared.slots = x.shared.slots) (ht : y.task = x.task) : Effect x e y := by
  refine .of_slots (hd ▸ .same) he (by rw [ha]; rfl) hs ?_ ?_
  · rw [ha, tasks, tasks, hd, ht]
    simp
  · rw [hb, hr, ht]
    simp

theorem Effect.of_posted {k : QueueKind} {c : Command} {d : Dispatcher Task}
    (h : x.shared.offer k { command := c } = .accepted d)
    (hy : y.shared = { x.shared with dispatcher := d }) (ht : y.task = x.task) :
    Effect x (.posted c) y := by
  have hd : y.shared.dispatcher = d := by rw [hy]
  refine .of_slots (hd ▸ .pushed h) rfl rfl (by rw [hy]) ?_ ?_
  · rw [tasks, tasks, hd, ht]
    have hp := (Dispatcher.tasks_of_accepted h).symm.append_right x.task.toList
    exact (List.perm_append_singleton ..).trans hp
  · rw [ht]
    exact List.append_nil _

theorem Effect.of_closed (hd : y.shared.dispatcher = x.shared.dispatcher.close.2)
    (hz : y.shared.slots.size = x.shared.slots.size)
    (hs : ∀ i, y.shared.slots[i]? = x.shared.slots[i]?.map
      (settleAll (fatesUnder i (x.shared.dispatcher.tasks.map fun t => (t, .dropped)))))
    (ht : y.task = x.task) : Effect x (.closed x.shared.dispatcher.tasks) y where
  touched := hd ▸ .closed
  conserves := by
    have hn : x.shared.dispatcher.close.2.tasks = [] :=
      Dispatcher.tasks_eq_nil_iff.2 x.shared.dispatcher.contents_close
    rw [tasks, tasks, hd, ht, hn]
    simp [Event.accepted?, Event.ended, Function.comp_def]
  tickets := by
    rw [hz]
    exact (List.append_nil _).symm
  slot i _ := hs i
  fresh i hi hi' := by omega
  task := by
    rw [ht]
    exact List.append_nil _

theorem Effect.of_accepted {p i : Nat} {c : Command} {s : Shared κ}
    (h : x.shared.pose c = .asked i s) (hy : y.shared = s) (ht : y.task = x.task) :
    Effect x (.pushed p c (.accepted i)) y := by
  obtain ⟨rfl, d, ho, rfl⟩ := Shared.pose_eq_asked_iff.1 h
  have hd : y.shared.dispatcher = d := by rw [hy]
  have hs : y.shared.slots = x.shared.slots.push ResultSlot.empty.addWriter := by rw [hy]
  refine ⟨hd ▸ .pushed ho, ?_, ?_, ?_, ?_, ?_⟩
  · rw [tasks, tasks, hd, ht]
    have hp := (Dispatcher.tasks_of_accepted ho).symm.append_right x.task.toList
    exact (List.perm_append_singleton ..).trans hp
  · rw [hs, Array.size_push, List.range_succ]
    rfl
  · intro i hi
    rw [hs, Array.getElem?_push, if_neg (by omega)]
    cases x.shared.slots[i]? <;> rfl
  · intro i hi hi'
    rw [hs, Array.size_push] at hi'
    exact ⟨rfl, by rw [hs, Array.getElem?_push, if_pos (by omega)]⟩
  · rw [ht]
    exact List.append_nil _

theorem Effect.of_begun {e e' : Executor L κ} {t : Task} {s : Shared κ}
    (h : e.begin x.shared = some (t, e', s)) (hx : x.task = none) (hy : y.shared = s)
    (ht : y.task = some t) : Effect x (.began t) y := by
  obtain ⟨d, hp, hs, -⟩ := Executor.begin_spec h
  have hd : y.shared.dispatcher = d := by rw [hy, hs.dispatcher]
  refine .of_slots (hd ▸ .popped hp) rfl rfl (by rw [hy, hs.slots]) ?_ ?_
  · obtain ⟨-, hp⟩ := Dispatcher.tryPop_eq_some_iff.1 hp
    obtain ⟨i, -, hi, rfl⟩ := Dispatcher.popInTurn_eq_some_iff.1 hp
    rw [tasks, tasks, hd, hx, ht]
    have hp := Dispatcher.tasks_serve hi
    simpa [Event.accepted?] using hp.trans (List.perm_append_singleton ..).symm
  · rw [hx, ht]
    rfl

theorem Effect.of_ran {e : Executor L κ} {t : Task} {r : Except Fault Reply} {s : Shared κ}
    (h : x.shared.Beside s) (hx : x.task = some t) (hy : y.shared = (Executor.conclude t r e s).2)
    (ht : y.task = none) : Effect x (.ran t r) y := by
  have hc := h.refilled.trans (Executor.refilled_conclude t r e s)
  have hd : y.shared.dispatcher = x.shared.dispatcher := by rw [hy, hc.dispatcher]
  have hz : y.shared.slots.size = x.shared.slots.size := by rw [hy, hc.size]
  refine ⟨hd ▸ .same, ?_, ?_, fun i _ => ?_, fun i hi hi' => ?_, ?_⟩
  · rw [tasks, tasks, hd, hx, ht]
    simp [Event.accepted?, Event.ended]
  · rw [hz]
    exact (List.append_nil _).symm
  · rw [hy, (Executor.beside_conclude ..).slots, Shared.getElem?_settle, h.slots]
    rfl
  · omega
  · rw [hx, ht]
    rfl

theorem Step.effect (h : Step x e y) : Effect x e y := by
  cases h with
  | enter | deny => exact .of_beside rfl rfl rfl rfl rfl rfl rfl
  | accept _ h => exact .of_accepted h rfl rfl
  | refuse | park | answer => exact .of_beside rfl rfl rfl rfl rfl rfl rfl
  | post h => exact .of_posted h rfl rfl
  | work h => exact .of_beside rfl rfl rfl rfl h.dispatcher h.slots rfl
  | begin ht _ _ h => exact .of_begun h ht rfl rfl
  | run ht _ h => exact .of_ran h ht rfl rfl
  | start _ _ h => exact .of_beside rfl rfl rfl rfl h.dispatcher h.slots rfl
  | spawn | fail => exact .of_beside rfl rfl rfl rfl rfl rfl rfl
  | closeFailed | close =>
    have hr := x.shared.refilled_closeDispatcher
    exact .of_closed hr.dispatcher hr.size x.shared.getElem?_closeDispatcher rfl
  | shutdownUnused | shutdown => exact .of_beside rfl rfl rfl rfl rfl rfl rfl
  | queueTeardown _ h => exact .of_posted h rfl rfl
  | teardownRejected | join => exact .of_beside rfl rfl rfl rfl rfl rfl rfl
  | finish _ h => exact .of_beside rfl rfl rfl rfl h.dispatcher h.slots rfl
  | stoppedBefore => exact .of_beside rfl rfl rfl rfl rfl rfl rfl

end Queries

end LteUe

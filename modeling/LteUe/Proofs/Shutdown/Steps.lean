import LteUe.Proofs.Runs
import LteUe.Proofs.Stack.Handles
import LteUe.Stack.Basic
import Mathlib.Logic.Function.Basic

/-!
# The threads around a shutdown

Any number of threads start a stack and shut it down, taking turns by the lock of its life. Meanwhile
any number of producers push tasks and put questions, the executor runs what it takes, and the workers
run jobs, which push tasks and put questions as well. `Threads.Step` says what each thread does in one
atomic step. A thread that has to wait has no step: a shutdown without the lock, a push while its queue
is full, a question without its answer, and a join of a thread that goes on. How those who wait at the
dispatcher are woken is told in `Signals`.

The layers leave the queues and the work of the workers alone, as their hooks only hand in jobs. A task
always comes to its end and waits for nothing. A job does anything between its calls.
-/

namespace LteUe

open Function

variable {L κ : Type}

/-- What has changed from `s` to `s'` concerns neither tasks nor answers nor the state of the stack, and
of the workers only the jobs that wait. -/
structure Shared.Around (s s' : Shared κ) : Prop extends Shared.Beside s s' where
  accepting : s'.pool.accepting = s.pool.accepting
  size : s'.pool.size = s.pool.size
  working : s'.pool.working = s.pool.working

/-- Who makes requests that may have to wait. -/
inductive Client where
  /-- A thread from outside. -/
  | producer (p : Nat)
  /-- A worker of the pool, while it runs a job. -/
  | worker (w : Nat)
deriving DecidableEq

/-- A request that may have to wait. -/
inductive Request where
  /-- A push, which may wait for room. -/
  | pushing (k : QueueKind) (c : Command)
  /-- A question that has found the stack running, and is to be pushed. -/
  | asking (c : Command)
  /-- A question whose task was accepted, and which waits for the answer under a ticket. -/
  | waiting (i : Nat)
deriving DecidableEq

/-- What a request is to push. -/
def Request.command? : Request → Option Command
  | pushing _ c | asking c => some c
  | waiting _ => none

/-- Where the thread is that has the lock. -/
inductive Hold (L : Type) (κ : Type) where
  /-- A start that has found a new stack, and is to bring it up. -/
  | raising (layers : L) (radio : Radio) (sinks : Sinks)
  /-- A start that has said that the stack runs, and is to spawn the thread of the executor. -/
  | starting (e : Executor L κ)
  /-- A start that was refused the thread, and is to close the dispatcher. -/
  | failing
  /-- A shutdown that has found the stack running. -/
  | leaving
  /-- It has said that the stack stops, and is to enqueue the task that ends the executor. -/
  | stopping
  /-- It waits for the executor. -/
  | joining
  /-- There is no executor any more, and the dispatcher is to be closed. -/
  | closing
  /-- The channel of jobs is to be ended. -/
  | halting
  /-- It waits for the workers. -/
  | gathering
  /-- The stack is to be said to be over. -/
  | settling
  | ended

namespace Hold

/-- Where a shutdown goes on that has found the stack in this state. -/
def ofFound : LifecycleState → Hold L κ
  | .stopped => ended
  | .uninitialized => closing
  | .running | .stopping => leaving

/-- Whether it is a shutdown that has the lock. -/
def isShutdown : Hold L κ → Bool
  | raising .. | starting _ | failing => false
  | _ => true

end Hold

/-- A stack, and the threads that use it. -/
structure Threads (L κ : Type) extends Stack L κ where
  task : Option Task := none
  /-- Where the thread is that has the lock. -/
  holder : Option (Hold L κ) := none
  /-- How many shutdowns wait for the lock. -/
  queued : Nat := 0
  /-- The requests that have been made and not yet been answered. -/
  requests : Client → Option Request := fun _ => none

namespace Threads

/-- A new stack that nobody uses yet. -/
def start (c : StackConfig) : Threads L κ where
  shared := .ofConfig c

/-- All tasks that wait or are being run. -/
def tasks (x : Threads L κ) : List Task := x.shared.dispatcher.tasks ++ x.task.toList

/-- A client that may make a request: it has made no other, and a worker runs a job. -/
def IsFree (x : Threads L κ) (p : Client) : Prop :=
  x.requests p = none ∧ ∀ w, p = .worker w → w ∈ x.shared.pool.working.map Prod.fst

/-- A request that has to wait. -/
def Blocked (x : Threads L κ) : Request → Prop
  | .pushing k c => x.shared.offer k { command := c } = .parked
  | .asking c => x.shared.pose c = .parked
  | .waiting i => x.shared.answer? i = none

/-- A call of shutdown has begun and not yet returned. -/
def ShuttingDown (x : Threads L κ) : Prop :=
  x.queued ≠ 0 ∨ ∃ h, x.holder = some h ∧ h.isShutdown = true

/-- What happens in one step. -/
inductive Event where
  /-- A call comes, or something is done that never waits. -/
  | outside
  /-- A shutdown that waits for the lock gets it. -/
  | entered
  /-- The thread that has the lock goes on. -/
  | advanced
  | began (u : Task)
  | ran (u : Task)
  | moved (p : Client)

/-- Whether a step is made by a thread that starts the stack or shuts it down, by the executor, or by
a worker. -/
def Event.isInside : Event → Bool
  | outside | moved (.producer _) => false
  | entered | advanced | began _ | ran _ | moved (.worker _) => true

variable [Layers L κ]

/-- The steps. What a hook or a task sees of what all threads share may be anything, as they go on
meanwhile. Only a shutdown enqueues the task that ends the executor. A call that changes nothing has no
step: a start of a stack that is not new, and a question that does not find the stack running. -/
inductive Step : Threads L κ → Event → Threads L κ → Prop
  -- Whatever comes from outside.
  | callShutdown {x : Threads L κ} : Step x .outside { x with queued := x.queued + 1 }
  | callInit {x : Threads L κ} (layers : L) (radio : Radio) (sinks : Sinks) :
      x.holder = none → x.state = .uninitialized →
        Step x .outside { x with holder := some (.raising layers radio sinks) }
  | post {x : Threads L κ} {k : QueueKind} {c : Command} {d : Dispatcher Task} :
      c ≠ .teardown → x.shared.offer k { command := c } = .accepted d →
        Step x .outside { x with shared := { x.shared with dispatcher := d } }
  | work {x : Threads L κ} {s : Shared κ} :
      x.shared.Around s → Step x .outside { x with shared := s }
  -- A start.
  | raise {x : Threads L κ} {layers : L} {radio : Radio} {sinks : Sinks} {seen' s : Shared κ}
      {e : Executor L κ} (seen : Shared κ) :
      x.holder = some (.raising layers radio sinks) →
        outcome (Stack.bringUp radio sinks) (.ofLayers layers x.shared.config, seen) =
          (.ok (.ok ()), e, seen') → x.shared.Around s →
          Step x .advanced
            { x with shared := { s with state := .running }, holder := some (.starting e) }
  | raiseFails {x : Threads L κ} {layers : L} {radio : Radio} {sinks : Sinks} {s : Shared κ}
      (seen : Shared κ) :
      x.holder = some (.raising layers radio sinks) →
        (outcome (Stack.bringUp radio sinks)
          ((.ofLayers layers x.shared.config : Executor L κ), seen)).1 ≠ .ok (.ok ()) →
          x.shared.Around s → Step x .advanced { x with shared := s, holder := none }
  | spawn {x : Threads L κ} {e : Executor L κ} :
      x.holder = some (.starting e) → Step x .advanced { x with executor := some e, holder := none }
  | spawnFails {x : Threads L κ} {e : Executor L κ} :
      x.holder = some (.starting e) →
        Step x .advanced
          { x with shared := { x.shared with state := .stopped }, holder := some .failing }
  | closeFailed {x : Threads L κ} :
      x.holder = some .failing →
        Step x .advanced { x with shared := x.shared.closeDispatcher, holder := none }
  -- A shutdown.
  | enter {x : Threads L κ} {n : Nat} :
      x.holder = none → x.queued = n + 1 →
        Step x .entered { x with queued := n, holder := some (.ofFound x.state) }
  | stop {x : Threads L κ} :
      x.holder = some .leaving →
        Step x .advanced { x with toStack := x.toStack.beginShutdown, holder := some .stopping }
  | queueTeardown {x : Threads L κ} {d : Dispatcher Task} :
      x.holder = some .stopping → x.shared.offer .control { command := .teardown } = .accepted d →
        Step x .advanced
          { x with shared := { x.shared with dispatcher := d }, holder := some .joining }
  | teardownRejected {x : Threads L κ} {e : PushError Task} :
      x.holder = some .stopping → x.shared.offer .control { command := .teardown } = .rejected e →
        Step x .advanced
          { x with shared := x.shared.report (Stack.cannotQueueShutdown e), holder := some .joining }
  | join {x : Threads L κ} :
      x.holder = some .joining → x.task = none →
        (∀ e, x.executor = some e → e.running = false ∨ x.shared.dispatcher.closed = true) →
          Step x .advanced { x with executor := none, holder := some .closing }
  | close {x : Threads L κ} :
      x.holder = some .closing →
        Step x .advanced { x with shared := x.shared.closeDispatcher, holder := some .halting }
  | halt {x : Threads L κ} :
      x.holder = some .halting →
        Step x .advanced
          { x with
            shared := { x.shared with pool := x.shared.pool.stop.2 }
            holder := some (if x.shared.pool.stop.1 then .gathering else .settling) }
  | gather {x : Threads L κ} :
      x.holder = some .gathering → (∀ w < x.shared.pool.size, x.shared.pool.HasLeft w) →
        Step x .advanced { x with holder := some .settling }
  | settle {x : Threads L κ} :
      x.holder = some .settling →
        Step x .advanced { x with shared := { x.shared with state := .stopped }, holder := some .ended }
  | leave {x : Threads L κ} : x.holder = some .ended → Step x .advanced { x with holder := none }
  -- The executor.
  | begin {x : Threads L κ} {e e' : Executor L κ} {u : Task} {s : Shared κ} :
      x.task = none → x.executor = some e → e.running = true → e.begin x.shared = some (u, e', s) →
        Step x (.began u) { x with shared := s, executor := some e', task := some u }
  | run {x : Threads L κ} {e : Executor L κ} {u : Task} {s : Shared κ} (seen : Shared κ) :
      x.task = some u → x.executor = some e → x.shared.Around s →
        Step x (.ran u)
          { x with
            shared := (e.conclude u (outcome (Work.perform u.command) (e, seen)).1 s).2
            executor := some (e.run u seen).1
            task := none }
  -- The workers.
  | receive {x : Threads L κ} {w : Nat} {j : Job} {p : WorkerPool Job} :
      x.shared.pool.receive w = some (j, p) →
        Step x (.moved (.worker w)) { x with shared := { x.shared with pool := p } }
  | complete {x : Threads L κ} {w : Nat} :
      x.IsFree (.worker w) →
        Step x (.moved (.worker w)) { x with shared := { x.shared with pool := x.shared.pool.complete w } }
  -- Requests.
  | push {x : Threads L κ} {p : Client} (k : QueueKind) (c : Command) :
      x.IsFree p → c ≠ .teardown →
        Step x (.moved p) { x with requests := update x.requests p (some (.pushing k c)) }
  | ask {x : Threads L κ} {p : Client} (c : Command) :
      x.IsFree p → c ≠ .teardown → x.state = .running →
        Step x (.moved p) { x with requests := update x.requests p (some (.asking c)) }
  | pushed {x : Threads L κ} {p : Client} {k : QueueKind} {c : Command} {d : Dispatcher Task} :
      x.requests p = some (.pushing k c) → x.shared.offer k { command := c } = .accepted d →
        Step x (.moved p)
          { x with
            shared := { x.shared with dispatcher := d }
            requests := update x.requests p none }
  | rejected {x : Threads L κ} {p : Client} {k : QueueKind} {c : Command} {e : PushError Task} :
      x.requests p = some (.pushing k c) → x.shared.offer k { command := c } = .rejected e →
        Step x (.moved p) { x with requests := update x.requests p none }
  | asked {x : Threads L κ} {p : Client} {c : Command} {i : Nat} {s : Shared κ} :
      x.requests p = some (.asking c) → x.shared.pose c = .asked i s →
        Step x (.moved p)
          { x with shared := s, requests := update x.requests p (some (.waiting i)) }
  | refused {x : Threads L κ} {p : Client} {c : Command} {e : StackError} :
      x.requests p = some (.asking c) → x.shared.pose c = .refused e →
        Step x (.moved p) { x with requests := update x.requests p none }
  | answered {x : Threads L κ} {p : Client} {i : Nat} {r : Except StackError Reply} :
      x.requests p = some (.waiting i) → x.shared.answer? i = some r →
        Step x (.moved p) { x with requests := update x.requests p none }

end Threads

end LteUe

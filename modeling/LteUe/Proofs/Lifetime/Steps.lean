import LteUe.Proofs.Runs
import LteUe.Proofs.Stack.Handles
import LteUe.Stack.Basic

/-!
# The life of a stack

Any number of threads start a stack and shut it down, and whoever drops it shuts it down once more. Their
calls take turns: a call goes on once it has got the lock of the stack's life, and keeps the lock until it
returns. Calls are numbered in the order in which they get the lock. What a call does in one atomic step,
and what the executor, the producers of tasks and the workers do meanwhile, are the steps of
`Lifetime.Step`. The layers come up without faults, and the system grants the thread of the executor; what
comes of a thread that is not granted is among the steps of `Queries.Step` and `Threads.Step`.
-/

namespace LteUe

variable {L κ : Type}

/-- What bringing a stack up does once the subscriber module is up, one thing after the other. -/
inductive Rung where
  | mac
  | rlc
  | pdcp
  | nas
  | rrc
  | radio
  | capture (layer : CapturedLayer)
deriving DecidableEq

namespace Rung

/-- The order in which a stack is brought up. -/
def all : List Rung := [mac, rlc, pdcp, nas, rrc, radio, capture .mac, capture .nas]

/-- What is done on a rung. -/
def work [Layers L κ] (radio : Radio) (sinks : Sinks) : Rung → Work L κ Unit
  | .mac => Work.hook Layers.macInit
  | .rlc => Work.hook Layers.rlcInit
  | .pdcp => Work.hook Layers.pdcpInit
  | .nas => Work.hook Layers.nasInit
  | .rrc => Work.hook Layers.rrcInit
  | .radio => Work.modifyShared (Stack.attachRadio radio)
  | .capture .mac => do
    let c := (← get).2.config.captures
    Work.startCapture sinks c.macEnabled c.macFile .mac
  | .capture .nas => do
    let c := (← get).2.config.captures
    Work.startCapture sinks c.nasEnabled c.nasFile .nas

end Rung

/-- Where the call is that has the lock. What it holds of the executor becomes the stack's own when the
thread is spawned. -/
inductive Phase (L κ : Type) where
  /-- A start that has found the stack in a state other than that of a new one. -/
  | refused (found : LifecycleState)
  /-- A start that is to bring the subscriber module up. -/
  | probing (e : Executor L κ) (radio : Radio) (sinks : Sinks)
  /-- A start with these rungs before it. -/
  | raising (e : Executor L κ) (radio : Radio) (sinks : Sinks) (todo : List Rung)
  /-- A start whose subscriber module did not come up. -/
  | denied (causes : Causes)
  /-- A start that has said that the stack runs, and is to spawn the thread of the executor. -/
  | starting (e : Executor L κ) (radio : Radio)
  | started (radio : Radio)
  /-- A shutdown that has found the stack running. -/
  | leaving
  /-- It has said that the stack stops, and is to enqueue the task that ends the executor. -/
  | stopping
  /-- It waits for the end of the executor. -/
  | joining
  /-- There is no executor any more, and the dispatcher is to be closed. -/
  | closing
  /-- The workers are to be stopped. -/
  | halting
  /-- The stack is to be said to be over. -/
  | settling
  | ended

namespace Phase

/-- Where a shutdown goes on that has found the stack in this state. -/
def ofFound : LifecycleState → Phase L κ
  | .stopped => ended
  | .uninitialized => closing
  | .running | .stopping => leaving

/-- What a start answers, if it is done. -/
def result? : Phase L κ → Option (Except InitError Unit)
  | refused found => some (.error (.invalidState found))
  | denied causes => some (.error (.usim causes))
  | started _ => some (.ok ())
  | _ => none

end Phase

/-- What has changed from `s` to `s'` concerns neither the queues nor the radio nor the state of the
stack. -/
structure Shared.Keeps {κ : Type} (s s' : Shared κ) : Prop where
  dispatcher : s'.dispatcher = s.dispatcher
  radio : s'.radio = s.radio
  state : s'.state = s.state

/-- A stack with its executor, and the calls that start it and shut it down. -/
structure Lifetime (L κ : Type) extends Stack L κ where
  task : Option Task := none
  /-- How many calls have got the lock. -/
  calls : Nat := 0
  /-- The call that has the lock. -/
  holder : Option (Nat × Phase L κ) := none

namespace Lifetime

/-- A new stack. -/
def start (c : StackConfig) : Lifetime L κ where
  shared := .ofConfig c

/-- All tasks that wait or are being run. -/
def tasks (x : Lifetime L κ) : List Task := x.shared.dispatcher.tasks ++ x.task.toList

/-- What happens in one step. -/
inductive Event where
  /-- Call `n` is to start the stack with this radio, and finds it in this state. -/
  | initEntered (n : Nat) (radio : Radio) (found : LifecycleState)
  | usim (n : Nat) (r : Except Causes Unit)
  /-- Call `n` takes a rung. -/
  | raised (n : Nat) (r : Rung)
  | initReturned (n : Nat) (r : Except InitError Unit)
  | shutdownEntered (n : Nat)
  | shutdownReturned (n : Nat)
  | posted (u : Task)
  | began (u : Task)
  | ran (u : Task) (r : Except Fault Reply)
  | worked

section Step

variable [Layers L κ]

/-- The steps. A task does anything to the layers and to the surroundings, and only the task of a shutdown
ends the executor; nobody else enqueues that task.

There is no step for a hook that faults while the layers are brought up or while one is told of its capture, and
none for a system that denies the thread of the executor. Neither start leaves a stack that runs, and the sinks
that it has opened are never asked to close. -/
inductive Step : Lifetime L κ → Event → Lifetime L κ → Prop
  | enterInit {x : Lifetime L κ} (layers : L) (radio : Radio) (sinks : Sinks) :
      x.holder = none → x.state = .uninitialized →
        Step x (.initEntered x.calls radio x.state)
          { x with
            calls := x.calls + 1
            holder := some (x.calls, .probing (.ofLayers layers x.shared.config) radio sinks) }
  | refuseInit {x : Lifetime L κ} (radio : Radio) :
      x.holder = none → x.state ≠ .uninitialized →
        Step x (.initEntered x.calls radio x.state)
          { x with calls := x.calls + 1, holder := some (x.calls, .refused x.state) }
  | usimUp {x : Lifetime L κ} {n : Nat} {e e' : Executor L κ} {radio : Radio} {sinks : Sinks}
      {s : Shared κ} :
      x.holder = some (n, .probing e radio sinks) →
        Work.hook Layers.usimInit (e, x.shared) = .ok (.ok ()) (e', s) →
          Step x (.usim n (.ok ()))
            { x with shared := s, holder := some (n, .raising e' radio sinks Rung.all) }
  | usimFails {x : Lifetime L κ} {n : Nat} {e e' : Executor L κ} {radio : Radio} {sinks : Sinks}
      {s : Shared κ} {causes : Causes} :
      x.holder = some (n, .probing e radio sinks) →
        Work.hook Layers.usimInit (e, x.shared) = .ok (.error causes) (e', s) →
          Step x (.usim n (.error causes))
            { x with
              shared := s.report (Stack.usimFailed causes)
              holder := some (n, .denied causes) }
  | raise {x : Lifetime L κ} {n : Nat} {e e' : Executor L κ} {radio : Radio} {sinks : Sinks} {r : Rung}
      {todo : List Rung} {s : Shared κ} :
      x.holder = some (n, .raising e radio sinks (r :: todo)) →
        r.work radio sinks (e, x.shared) = .ok () (e', s) →
          Step x (.raised n r) { x with shared := s, holder := some (n, .raising e' radio sinks todo) }
  | start {x : Lifetime L κ} {n : Nat} {e : Executor L κ} {radio : Radio} {sinks : Sinks} :
      x.holder = some (n, .raising e radio sinks []) →
        Step x .worked
          { x with
            shared := { x.shared with state := .running }
            holder := some (n, .starting e radio) }
  | spawn {x : Lifetime L κ} {n : Nat} {e : Executor L κ} {radio : Radio} :
      x.holder = some (n, .starting e radio) →
        Step x .worked { x with executor := some e, holder := some (n, .started radio) }
  | returnInit {x : Lifetime L κ} {n : Nat} {ph : Phase L κ} {r : Except InitError Unit} :
      x.holder = some (n, ph) → ph.result? = some r →
        Step x (.initReturned n r) { x with holder := none }
  | enterShutdown {x : Lifetime L κ} :
      x.holder = none →
        Step x (.shutdownEntered x.calls)
          { x with calls := x.calls + 1, holder := some (x.calls, .ofFound x.state) }
  | stop {x : Lifetime L κ} {n : Nat} :
      x.holder = some (n, .leaving) →
        Step x .worked { x with toStack := x.toStack.beginShutdown, holder := some (n, .stopping) }
  | queueTeardown {x : Lifetime L κ} {n : Nat} {d : Dispatcher Task} :
      x.holder = some (n, .stopping) → x.shared.offer .control { command := .teardown } = .accepted d →
        Step x (.posted { command := .teardown })
          { x with shared := { x.shared with dispatcher := d }, holder := some (n, .joining) }
  | teardownRejected {x : Lifetime L κ} {n : Nat} {e : PushError Task} :
      x.holder = some (n, .stopping) → x.shared.offer .control { command := .teardown } = .rejected e →
        Step x .worked
          { x with
            shared := x.shared.report (Stack.cannotQueueShutdown e)
            holder := some (n, .joining) }
  | join {x : Lifetime L κ} {n : Nat} :
      x.holder = some (n, .joining) → x.task = none →
        (∀ e, x.executor = some e → e.running = false ∨ x.shared.dispatcher.closed = true) →
          Step x .worked { x with executor := none, holder := some (n, .closing) }
  | close {x : Lifetime L κ} {n : Nat} :
      x.holder = some (n, .closing) →
        Step x .worked { x with shared := x.shared.closeDispatcher, holder := some (n, .halting) }
  | halt {x : Lifetime L κ} {n : Nat} :
      x.holder = some (n, .halting) →
        Step x .worked
          { x with
            shared := { x.shared with pool := x.shared.pool.stop.2 }
            holder := some (n, .settling) }
  | settle {x : Lifetime L κ} {n : Nat} :
      x.holder = some (n, .settling) →
        Step x .worked
          { x with shared := { x.shared with state := .stopped }, holder := some (n, .ended) }
  | returnShutdown {x : Lifetime L κ} {n : Nat} :
      x.holder = some (n, .ended) → Step x (.shutdownReturned n) { x with holder := none }
  | post {x : Lifetime L κ} {k : QueueKind} {u : Task} {d : Dispatcher Task} :
      u.command ≠ .teardown → x.shared.offer k u = .accepted d →
        Step x (.posted u) { x with shared := { x.shared with dispatcher := d } }
  | work {x : Lifetime L κ} {s : Shared κ} :
      x.shared.Keeps s → s.pool.accepting = x.shared.pool.accepting →
        Step x .worked { x with shared := s }
  | begin {x : Lifetime L κ} {e e' : Executor L κ} {u : Task} {s : Shared κ} :
      x.task = none → x.executor = some e → e.running = true → e.begin x.shared = some (u, e', s) →
        Step x (.began u) { x with shared := s, executor := some e', task := some u }
  | run {x : Lifetime L κ} {e f : Executor L κ} {u : Task} {r : Except Fault Reply} {s : Shared κ} :
      x.task = some u → x.executor = some e → x.shared.Keeps s →
        (u.command ≠ .teardown → f.running = e.running) → (u.command = .teardown → f.running = false) →
          Step x (.ran u r) { x with shared := s, executor := some f, task := none }

end Step

/-! ## Histories -/

namespace Event

/-- The call that an event belongs to. -/
def call? : Event → Option Nat
  | initEntered n _ _ | usim n _ | raised n _ | initReturned n _ => some n
  | shutdownEntered n | shutdownReturned n => some n
  | posted _ | began _ | ran _ _ | worked => none

/-- The task that is enqueued. -/
def posted? : Event → Option Task
  | posted u => some u
  | _ => none

/-- The task that the executor takes. -/
def begun? : Event → Option Task
  | began u => some u
  | _ => none

/-- The task that the executor has run. -/
def run? : Event → Option Task
  | ran u _ => some u
  | _ => none

/-- Whether a start succeeds. -/
def isUp : Event → Bool
  | initReturned _ (.ok ()) => true
  | _ => false

end Event

/-- The events of call `n`. -/
def own (n : Nat) (t : List Event) : List Event := t.filter (·.call? = some n)

/-- The tasks enqueued. -/
def posted (t : List Event) : List Task := t.filterMap (·.posted?)

/-- The tasks that the executor has taken. -/
def begun (t : List Event) : List Task := t.filterMap (·.begun?)

/-- The tasks that the executor has run to their ends. -/
def run (t : List Event) : List Task := t.filterMap (·.run?)

/-- How many starts have succeeded. -/
def ups (t : List Event) : Nat := t.countP (·.isUp)

/-- How many tasks of a list end the executor. -/
def teardowns (l : List Task) : Nat := l.countP (·.command = .teardown)

end Lifetime

end LteUe

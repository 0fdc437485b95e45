import LteUe.Executor.Basic
import LteUe.Stack.Work

/-!
# The stack

A stack is made with queues and workers, is brought up with layers, a radio and sinks for captures, and
is shut down once. Its executor is there while it runs. `Stack.init` brings the subscriber module up
first, and a failure there leaves a stack that can still be started. `Stack.shutdown` ends the
executor, then the dispatcher, then the workers, in whichever state the stack is.
-/

namespace LteUe

variable {L κ : Type}

/-- A stack. -/
structure Stack (L κ : Type) where
  shared : Shared κ
  /-- The executor, while there is one. -/
  executor : Option (Executor L κ) := none

namespace Stack

def ofConfig (c : StackConfig) : Except InitError (Stack L κ) :=
  match c.check with
  | .ok () => .ok { shared := .ofConfig c }
  | .error e => .error (.config [e.message])

def state (s : Stack L κ) : LifecycleState := s.shared.state

def isRunning (s : Stack L κ) : Bool := s.state = .running

def kind (_ : Stack L κ) : String := "lte"

def text (s : Stack L κ) : String :=
  s!"UeStack \x7b handle: StackHandle \x7b state: {s.state.label}, " ++
    s!"dispatcher: {s.shared.dispatcher.text}, pool: {s.shared.pool.text}, .. \x7d, .. \x7d"

def onShared (s : Stack L κ) (f : Shared κ → Shared κ) : Stack L κ := { s with shared := f s.shared }

def report (s : Stack L κ) (e : Log.Event) : Stack L κ := s.onShared (·.report e)

/-! ### Bringing up -/

def usimFailed (causes : Causes) : Log.Event where
  level := .error
  target := .usim
  message := s!"failed to initialise USIM: {causes.message}"

def radioKept : Log.Event where
  level := .warn
  target := .stack
  message := "radio driver already attached; keeping the first one"

/-- Attaches a radio; the first one stays. -/
def attachRadio (radio : Radio) (s : Shared κ) : Shared κ :=
  match s.radio with
  | some _ => s.report radioKept
  | none => { s with radio := some radio }

variable [Layers L κ]

/-- Brings the layers up, attaches the radio and opens the captures. If the subscriber module fails,
nothing else is touched. -/
def bringUp (radio : Radio) (sinks : Sinks) : Work L κ (Except Causes Unit) := do
  match ← Work.hook Layers.usimInit with
  | .error causes => return .error causes
  | .ok () =>
    Work.hook Layers.macInit
    Work.hook Layers.rlcInit
    Work.hook Layers.pdcpInit
    Work.hook Layers.nasInit
    Work.hook Layers.rrcInit
    Work.modifyShared (attachRadio radio)
    Work.startCaptures sinks
    return .ok ()

/-- Starts a stack. A fault on the way up ends the start where it stands. The executor is given its thread. -/
def init (layers : L) (radio : Radio) (sinks : Sinks) :
    EStateM Fault (Stack L κ) (Except InitError Unit) := fun s =>
  if s.state ≠ .uninitialized then .ok (.error (.invalidState s.state)) s
  else match bringUp radio sinks (.ofLayers layers s.shared.config, s.shared) with
    | .error f (_, shared) => .error f { s with shared := shared }
    -- the state is left alone, so that the stack can be started again
    | .ok (.error causes) (_, shared) =>
      .ok (.error (.usim causes)) { s with shared := shared.report (usimFailed causes) }
    | .ok (.ok ()) (e, shared) =>
      .ok (.ok ()) { shared := { shared with state := .running }, executor := some e }

/-! ### Running -/

def within {α : Type} (s : Stack L κ) (w : Work L κ α) : Option (Except Fault α × Stack L κ) :=
  s.executor.map fun e =>
    let (r, e, shared) := outcome w (e, s.shared)
    (r, { shared := shared, executor := some e })

/-- The executor runs the tasks that wait, up to the one that ends it. -/
def runWaiting (s : Stack L κ) : Stack L κ :=
  match s.executor with
  | some e =>
    let (e, shared) := e.turns s.shared.dispatcher.size s.shared
    { shared := shared, executor := some e }
  | none => s

/-! ### Shutting down -/

def cannotQueueShutdown (e : PushError Task) : Log.Event where
  level := .error
  target := .stack
  message := s!"cannot queue shutdown task: {e.message}"

/-- The first step of a shutdown that has an executor to end. -/
def beginShutdown (s : Stack L κ) : Stack L κ := s.onShared ({ · with state := .stopping })

/-- Enqueues the task that ends the executor. There is no answer yet while the queue is full. -/
def queueTeardown (s : Stack L κ) : Option (Stack L κ) :=
  (s.shared.enqueue .control .teardown).map fun
    | (.ok (), shared) => { s with shared := shared }
    | (.error e, shared) => { s with shared := shared.report (cannotQueueShutdown e) }

/-- The last part of a shutdown: the dispatcher is closed, the workers finish what they have been
handed, and the stack is over. -/
def finish (s : Stack L κ) : Stack L κ :=
  s.onShared fun shared =>
    let shared := shared.closeDispatcher
    let shared := { shared with pool := shared.pool.stop.2 }
    { shared.runJobs shared.pool.waiting.length with state := .stopped }

/-- The rest of a shutdown once the task that ends the executor is queued. -/
def endExecutor (s : Stack L κ) : Stack L κ := { s.runWaiting with executor := none }.finish

/-- Shuts the stack down. If there is no room for the task that ends the executor, the executor makes
some first. -/
def shutdown (s : Stack L κ) : Stack L κ :=
  match s.state with
  | .stopped => s
  | .uninitialized => s.finish
  | .running | .stopping =>
    let s := s.beginShutdown
    match s.queueTeardown with
    | some s => s.endExecutor
    | none => (s.runWaiting.queueTeardown.getD s).endExecutor

end Stack

end LteUe

import LteUe.Stack.Basic
import LteUe.Stack.Detach
import LteUe.Stack.Requests

/-!
# Sessions

A session drives a stack one step at a time. While nobody holds the executor, a step ends when every
queue is empty, the workers are idle, and the executor has then run one more task of the session that
does nothing. A task that holds the executor can be enqueued; until it is released, tasks only pile up.
A step that would wait for ever is refused instead.
-/

namespace LteUe

inductive Refusal where
  /-- It would wait for ever. -/
  | wouldBlock
  | noStack
  | faulted (f : Fault)
deriving DecidableEq, Repr

/-- A stack that is driven step by step. -/
structure Session (L κ : Type) where
  stack : Stack L κ
  /-- The task that holds the executor. -/
  held : Option Task := none
  /-- How many tasks of the session's own have been run. -/
  idles : Nat := 0
  /-- The tickets of the questions that wait for the release of the executor. -/
  pending : List Nat := []
  /-- Whether the stack is gone; handles to it may still be used. -/
  dropped : Bool := false

namespace Session

variable {L κ α : Type}

def shared (s : Session L κ) : Shared κ := s.stack.shared

def onStack (s : Session L κ) (f : Stack L κ → Stack L κ) : Session L κ :=
  { s with stack := f s.stack }

def onShared (s : Session L κ) (f : Shared κ → Shared κ) : Session L κ := s.onStack (·.onShared f)

def onWorld (s : Session L κ) (f : World → World) : Session L κ :=
  s.onShared fun shared => { shared with world := f shared.world }

def isFree (s : Session L κ) : Bool := s.stack.executor.isSome && s.held.isNone

variable [Layers L κ]

/-! ### Coming to rest -/

/-- The executor, if it is free, and a worker take turns, for at most `n` jobs. -/
def work : Nat → Session L κ → Session L κ
  | 0, s => s
  | n + 1, s =>
    let s := if s.isFree then s.onStack (·.runWaiting) else s
    match s.shared.runJob with
    | some (_, shared) => work n (s.onShared fun _ => shared)
    | none => s

/-- All tasks and jobs are done, with what follows from them: a task leads to a search at most, and a
search to a selection. -/
def quiesce (s : Session L κ) : Session L κ :=
  s.work (3 * (s.shared.dispatcher.size + s.shared.pool.waiting.length + 1))

def idle (s : Session L κ) : Session L κ :=
  match s.shared.enqueue .ue .idle with
  | some (_, shared) =>
    { s with stack := { s.stack with shared := shared }.runWaiting, idles := s.idles + 1 }
  | none => s

def settle (s : Session L κ) : Session L κ :=
  let s := s.quiesce
  if s.isFree then s.idle else s

/-! ### Steps -/

abbrev Step (L κ α : Type) := EStateM Refusal (Session L κ) α

/-- Makes a step to its end. -/
def perform (x : Step L κ α) (s : Session L κ) : Except Refusal α × Session L κ :=
  match x s with
  | .ok a s => (.ok a, s.settle)
  | .error e s => (.error e, s.settle)

def refuseIf (p : Session L κ → Bool) : Step L κ Unit := do
  if p (← get) then throw .wouldBlock

def needStack : Step L κ Unit := do
  if (← get).dropped then throw .noStack

def stack? (s : Session L κ) : Option (Stack L κ) := if s.dropped then none else some s.stack

def theStack : Step L κ (Stack L κ) := do
  needStack
  return (← get).stack

def needExecutor : Step L κ Unit := refuseIf (·.held.isSome)

def needRoom (k : QueueKind) : Step L κ Unit := refuseIf (·.shared.isFull k)

def withShared (f : Shared κ → α × Shared κ) : Step L κ α :=
  modifyGet fun s => let (a, shared) := f s.shared; (a, s.onShared fun _ => shared)

def withShared? (f : Shared κ → Option (α × Shared κ)) : Step L κ α := do
  match f (← get).shared with
  | some (a, shared) =>
    modify (·.onShared fun _ => shared)
    return a
  | none => throw .wouldBlock

/-- Makes the same step several times, each after the session has come to rest. -/
def times (x : Step L κ α) : Nat → Step L κ (List (Except Refusal α))
  | 0 => return []
  | n + 1 => do
    let (a, s) := outcome x (← get).quiesce
    set s
    return a :: (← times x n)

/-! ### Lifecycle -/

def init (layers : L) (radio : Radio) (sinks : Sinks) : Step L κ (Except InitError Unit) := do
  needStack
  let s ← get
  match outcome (Stack.init layers radio sinks) s.stack with
  | (.ok r, stack) =>
    set { s with stack := stack }
    return r
  | (.error f, stack) =>
    set { s with stack := stack }
    throw (.faulted f)

/-- Shuts the stack down, by so many callers at a time. The first does it, and the others wait until
it is done. -/
def shutdown (callers : Nat) : Step L κ Unit := do
  needStack
  needExecutor
  if callers ≠ 0 then modify (·.onStack Stack.shutdown)

/-- Gives the stack up, which shuts it down. A stack that is gone stays so. -/
def drop : Step L κ Unit := do
  needExecutor
  if !(← get).dropped then
    modify fun s => { s.onStack Stack.shutdown with dropped := true }

/-! ### Questions -/

def question (c : Command) (s : Session L κ) : Except StackError Reply × Session L κ :=
  match s.shared.ask c with
  | .refused e => (.error e, s)
  | .parked => (.error .queryAborted, s)
  | .asked ticket shared =>
    let s := (s.onShared fun _ => shared).quiesce
    ((s.shared.answer? ticket).getD (.error .queryAborted), s)

def ask (c : Command) : Step L κ (Except StackError Reply) := do
  needExecutor
  modifyGet (question c)

/-- Asks for the metrics. The session's own tasks do not count. -/
def metrics : Step L κ (Except StackError StackMetrics) := do
  needStack
  let r ← ask .metrics
  let own := (← get).idles
  return match r with
    | .ok (.snapshot m) =>
      .ok { m with executor := { m.executor with tasksExecuted := m.executor.tasksExecuted - own } }
    | .ok _ => .error .queryAborted
    | .error e => .error e

def flagOf : Except StackError Reply → Except StackError Bool
  | .ok (.flag b) => .ok b
  | .ok _ => .error .queryAborted
  | .error e => .error e

def detacher : Detacher (Session L κ) where
  request switchOff s := let (r, s) := s.question (.detach switchOff); (flagOf r, s)
  poll s := let (r, s) := s.question (.hasData Lcid.srb1); (flagOf r, s)
  readClock s := let (now, world) := s.shared.world.readClock; (now, s.onWorld fun _ => world)
  sleep d s := s.onWorld (·.sleep d)
  report e s := s.onShared (·.report e)

def detach (gracefully : Bool) : Step L κ Bool := do
  needStack
  needExecutor
  modifyGet fun s => detacher.detach s.shared.config.detach gracefully s

/-! ### Requests and background work -/

def attach : Step L κ Bool := do
  needStack
  withShared Shared.requestAttach

def uplink (lcid : Lcid) (sdu : Bytes) (blocking : Bool) (n : Nat) :
    Step L κ (List (Except Refusal Bool)) := do
  needStack
  times (withShared? (·.uplink lcid sdu blocking)) n

def notifySync (inSync : Bool) : Step L κ Unit := do
  needStack
  withShared? fun s => (s.notifySync inSync).map ((), ·)

def advanceClock (tti jump : UInt32) : Step L κ Unit := do
  needStack
  withShared? fun s => (s.advanceClock tti jump).map ((), ·)

def enqueue (k : QueueKind) (c : Command) (blocking : Bool) (n : Nat) :
    Step L κ (List (Except Refusal (Except (PushError Task) Unit))) :=
  times (withShared? fun s => if blocking then s.enqueue k c else some (s.tryEnqueue k c)) n

def postResult (c : Command) : Step L κ Bool := do
  needStack
  withShared? (·.postResult c)

/-- Hands a job to the workers, and waits for it. The second answer says whether its result was
posted. -/
def background (j : Job) : Step L κ (Bool × Option Bool) := do
  needStack
  needRoom .background
  if ← withShared (·.asLayer (·.submit j)) then
    return (true, ← withShared fun s => (s.runJob).getD (none, s))
  else return (false, none)

/-- Makes a step that may hand a job to the workers, and waits for them. -/
def awaitWorkers (x : Step L κ α) : Step L κ α := do
  needRoom .background
  let a ← x
  modify (·.onShared fun s => s.runJobs s.pool.waiting.length)
  return a

def search : Step L κ Bool := awaitWorkers (withShared (·.asLayer (·.startSearch)))

def select (cell : Cell) : Step L κ Bool := awaitWorkers (withShared (·.asLayer (·.startSelect cell)))

def defer (ticks : Nat) (callback : κ) : Step L κ Bool :=
  withShared (·.asLayer (·.defer ticks callback))

/-! ### Holding the executor -/

/-- Enqueues a task that holds the executor. -/
def park (k : QueueKind) : Step L κ Unit := do
  refuseIf (!·.isFree)
  let _ ← withShared? (·.enqueue k .idle)
  let s ← get
  if let some (t, e, shared) := s.stack.executor.bind (·.begin s.shared) then
    set { s with stack := ⟨shared, some e⟩, held := some t }

def letGo (s : Session L κ) : Session L κ :=
  match s.held, s.stack.executor with
  | some t, some e =>
    let (e, shared) := e.conclude t (.ok .done) s.shared
    { s with stack := ⟨shared, some e⟩, held := none }
  | _, _ => s

def takeAnswers : Step L κ (List (Except StackError Reply)) :=
  modifyGet fun s =>
    (s.pending.map fun t => (s.shared.answer? t).getD (.error .queryAborted), { s with pending := [] })

/-- Releases the executor, and collects the answers to the questions that wait. -/
def release : Step L κ (List (Except StackError Reply)) := do
  modify fun s => s.letGo.quiesce
  takeAnswers

def askLater (c : Command) : Step L κ Unit := do
  refuseIf (·.held.isNone)
  match (← get).shared.ask c with
  | .asked ticket shared =>
    modify fun s => { s.onShared (fun _ => shared) with pending := s.pending ++ [ticket] }
  | .refused _ | .parked => throw .wouldBlock

/-- Shuts the stack down while the executor is held, and then releases it. Before that the state is
looked at and an attach is asked for. -/
def shutdownHeld : Step L κ (LifecycleState × Bool × List (Except StackError Reply)) := do
  needStack
  refuseIf (·.held.isNone)
  needRoom .control
  modify (·.onStack fun s => s.beginShutdown.queueTeardown.getD s)
  let state := (← get).stack.state
  let attaching ← withShared Shared.requestAttach
  modify fun s => s.letGo.onStack Stack.endExecutor
  return (state, attaching, ← takeAnswers)

def within (w : Work L κ α) : Step L κ (Except Fault α) := do
  let s ← get
  match s.stack.within w with
  | some (r, stack) =>
    set { s with stack := stack }
    return r
  | none => throw .wouldBlock

end Session

end LteUe

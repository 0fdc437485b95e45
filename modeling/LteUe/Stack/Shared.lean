import LteUe.Bridge.ResultSlot
import LteUe.Config.Basic
import LteUe.Dispatcher.Basic
import LteUe.Stack.QueueKind
import LteUe.Stack.Surroundings

/-!
# What all threads of a stack share

The surroundings of the layers, the dispatcher, and the answers that somebody waits for. Each operation
here is one atomic step of a thread that holds a handle to the stack.
-/

namespace LteUe

/-- What all threads of a stack share. `κ` is the type of timer callbacks. -/
structure Shared (κ : Type) extends Surroundings κ where
  config : StackConfig
  dispatcher : Dispatcher Task
  /-- Uplink packets refused because their queue was full. -/
  uplinkDropped : Nat := 0
  /-- The answers that somebody waits for, by their tickets. -/
  slots : Array (ResultSlot Reply) := #[]

namespace Shared

variable {κ α : Type}

def queueCapacity (c : StackConfig) : QueueKind → Nat
  | .control => QueueKind.controlCapacity
  | _ => c.queueCapacity

def ofConfig (c : StackConfig) : Shared κ where
  config := c
  -- registered in order, so that the index of a kind is the place of its queue
  dispatcher := QueueKind.all.foldl (fun d k => (d.register k.name (queueCapacity c k)).2) (.empty 0)
  pool := .ofSize c.backgroundWorkers

def queueId (s : Shared κ) (k : QueueKind) : QueueId := ⟨s.dispatcher.id, k.index⟩

def depth (s : Shared κ) (k : QueueKind) : Nat := s.dispatcher.depth (s.queueId k)

def depths (s : Shared κ) : List Nat := s.dispatcher.snapshot.map (·.depth)

def isFull (s : Shared κ) (k : QueueKind) : Bool :=
  (s.dispatcher.queue? (s.queueId k)).any (decide ·.IsFull)

def onSurroundings (s : Shared κ) (f : Surroundings κ → Surroundings κ) : Shared κ :=
  { s with toSurroundings := f s.toSurroundings }

def asLayer (s : Shared κ) (f : Surroundings κ → α × Surroundings κ) : α × Shared κ :=
  let (a, surroundings) := f s.toSurroundings
  (a, { s with toSurroundings := surroundings })

def report (s : Shared κ) (e : Log.Event) : Shared κ := s.onSurroundings (·.report e)

/-! ### Tasks -/

def offer (s : Shared κ) (k : QueueKind) (t : Task) : Dispatcher.Offer Task :=
  s.dispatcher.offer (s.queueId k) t

def tryEnqueue (s : Shared κ) (k : QueueKind) (c : Command) :
    Except (PushError Task) Unit × Shared κ :=
  match s.dispatcher.tryPush (s.queueId k) { command := c } with
  | .ok d => (.ok (), { s with dispatcher := d })
  | .error e => (.error e, s)

/-- Enqueues a task. There is no answer yet while the queue is full. -/
def enqueue (s : Shared κ) (k : QueueKind) (c : Command) :
    Option (Except (PushError Task) Unit × Shared κ) :=
  match s.offer k { command := c } with
  | .accepted d => some (.ok (), { s with dispatcher := d })
  | .rejected e => some (.error e, s)
  | .parked => none

def abandon (s : Shared κ) (ticket : Option Nat) : Shared κ :=
  ticket.elim s fun i => { s with slots := s.slots.modify i (·.dropWriter) }

def deliver (s : Shared κ) (ticket : Option Nat) (r : Reply) : Shared κ :=
  ticket.elim s fun i => { s with slots := s.slots.modify i fun x => (x.put r).2 }

def undelivered (n : Nat) : Log.Event where
  level := .warn
  target := .dispatcher
  message := "dispatcher closed with undelivered tasks"
  fields := [("dropped", .num n)]

/-- Closes the dispatcher. Whoever waits for a task that is dropped learns that no answer comes. -/
def closeDispatcher (s : Shared κ) : Shared κ :=
  let (dropped, d) := s.dispatcher.close
  let s := dropped.foldl (fun s t => s.abandon t.ticket) { s with dispatcher := d }
  if dropped.isEmpty then s else s.report (undelivered dropped.length)

/-! ### Questions -/

/-- What became of a question when it was put. -/
inductive Question (κ : Type) where
  | refused (e : StackError)
  /-- It waits for room in the queue. -/
  | parked
  | asked (ticket : Nat) (s : Shared κ)

def pose (s : Shared κ) (c : Command) : Question κ :=
  let ticket := s.slots.size
  match s.offer .ue { command := c, ticket := some ticket } with
  | .accepted d =>
    .asked ticket { s with dispatcher := d, slots := s.slots.push ResultSlot.empty.addWriter }
  -- the queue is registered, so the dispatcher is closed
  | .rejected _ => .refused .notRunning
  | .parked => .parked

/-- Puts a question to a stack. Only a running stack takes one. -/
def ask (s : Shared κ) (c : Command) : Question κ :=
  if s.state ≠ .running then .refused .notRunning else s.pose c

/-- The answer to a question, if it is there, or if it is sure that none comes. -/
def answer? (s : Shared κ) (ticket : Nat) : Option (Except StackError Reply) :=
  match (s.slots[ticket]?.getD .empty).wait with
  | .over (.ok r) => some (.ok r)
  | .over (.error _) => some (.error .queryAborted)
  | .parked => none

/-! ### Results of background work -/

/-- Posts the task that follows from background work. There is no answer yet while the queue is
full. -/
def postResult (s : Shared κ) (c : Command) : Option (Bool × Shared κ) :=
  (s.enqueue .background c).map fun (r, s) => (r.isOk, s)

end Shared

end LteUe

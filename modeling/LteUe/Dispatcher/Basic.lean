import LteUe.Text.Quoted

/-!
# The dispatcher

A dispatcher holds named, bounded queues. Producers add tasks to the queue they name; one consumer
takes tasks from all queues in turn. Within a queue tasks leave in the order in which they came;
across queues the scan for the next task starts just after the queue served last.

Every operation here is one atomic step. A push that may wait is decided by `Dispatcher.offer`, whose
answer `.parked` says that the producer waits for room; `Dispatcher.next` says in the same way that
the consumer waits for a task.
-/

namespace LteUe

variable {α : Type}

/-- Names a queue: the dispatcher that issued the id and the queue's place in it. -/
structure QueueId where
  dispatcher : Nat
  index : Nat
deriving DecidableEq, Repr

namespace QueueId

def text (q : QueueId) : String := s!"queue#{q.index}"

end QueueId

/-- Why a push added nothing. The task goes back to the producer. -/
inductive PushError (α : Type) where
  | full (task : α)
  | closed (task : α)
  | unknownQueue (task : α)
deriving DecidableEq, Repr

namespace PushError

def task : PushError α → α
  | full a | closed a | unknownQueue a => a

def isFull : PushError α → Bool
  | full _ => true
  | _ => false

def isClosed : PushError α → Bool
  | closed _ => true
  | _ => false

def message : PushError α → String
  | full _ => "queue is full"
  | closed _ => "dispatcher is closed"
  | unknownQueue _ => "queue was not registered with this dispatcher"

def name : PushError α → String
  | full _ => "Full(..)"
  | closed _ => "Closed(..)"
  | unknownQueue _ => "UnknownQueue(..)"

end PushError

/-- A queue of bounded length, oldest task first. -/
structure BoundedQueue (α : Type) where
  name : String
  capacity : Nat
  items : List α := []
deriving Repr

namespace BoundedQueue

def IsFull (q : BoundedQueue α) : Prop := q.capacity ≤ q.items.length

instance (q : BoundedQueue α) : Decidable q.IsFull := inferInstanceAs (Decidable (_ ≤ _))

def push (q : BoundedQueue α) (a : α) : BoundedQueue α :=
  { q with items := q.items ++ [a] }

def tail (q : BoundedQueue α) : BoundedQueue α :=
  { q with items := q.items.tail }

def clear (q : BoundedQueue α) : BoundedQueue α :=
  { q with items := [] }

end BoundedQueue

structure QueueDepth where
  name : String
  depth : Nat
  capacity : Nat
deriving DecidableEq, Repr

namespace QueueDepth

def text (q : QueueDepth) : String :=
  s!"QueueDepth \x7b name: {Text.quoted q.name}, depth: {q.depth}, capacity: {q.capacity} \x7d"

end QueueDepth

/-- Bounded queues with many producers and one consumer. -/
structure Dispatcher (α : Type) where
  /-- Tells the ids of this dispatcher from those of others. -/
  id : Nat
  queues : List (BoundedQueue α) := []
  /-- The queue at which the next scan starts. -/
  cursor : Nat := 0
  /-- A closed dispatcher accepts and delivers nothing. -/
  closed : Bool := false
deriving Repr

namespace Dispatcher

def empty (id : Nat) : Dispatcher α where
  id := id

/-- Adds a queue. A queue holds at least one task, whatever capacity is asked for. -/
def register (d : Dispatcher α) (name : String) (capacity : Nat) : QueueId × Dispatcher α :=
  (⟨d.id, d.queues.length⟩,
    { d with queues := d.queues ++ [{ name := name, capacity := max capacity 1 }] })

def queue? (d : Dispatcher α) (q : QueueId) : Option (BoundedQueue α) :=
  if q.dispatcher = d.id then d.queues[q.index]? else none

def modifyQueue (d : Dispatcher α) (i : Nat) (f : BoundedQueue α → BoundedQueue α) : Dispatcher α :=
  { d with queues := d.queues.modify i f }

/-! ### Pushing -/

inductive Offer (α : Type) where
  | accepted (d : Dispatcher α)
  /-- The task goes back; nothing else changes. -/
  | rejected (e : PushError α)
  /-- The queue is full, and the producer waits for room. -/
  | parked

/-- One attempt of a producer that is ready to wait. -/
def offer (d : Dispatcher α) (q : QueueId) (a : α) : Offer α :=
  if d.closed then .rejected (.closed a)
  else match d.queue? q with
    | none => .rejected (.unknownQueue a)
    | some queue => if queue.IsFull then .parked else .accepted (d.modifyQueue q.index (·.push a))

def tryPush (d : Dispatcher α) (q : QueueId) (a : α) : Except (PushError α) (Dispatcher α) :=
  match d.offer q a with
  | .accepted d' => .ok d'
  | .rejected e => .error e
  | .parked => .error (.full a)

/-! ### Popping -/

/-- The places of the queues in the order of the scan. -/
def scan (d : Dispatcher α) : List Nat :=
  (List.range d.queues.length).map fun k => (d.cursor + k) % d.queues.length

def head? (d : Dispatcher α) (i : Nat) : Option α :=
  d.queues[i]?.bind (·.items.head?)

def serving? (d : Dispatcher α) : Option Nat :=
  d.scan.find? fun i => (d.head? i).isSome

/-- Takes the task that the scan meets first, and moves the cursor past its queue. -/
def popInTurn (d : Dispatcher α) : Option (α × Dispatcher α) := do
  let i ← d.serving?
  let a ← d.head? i
  return (a, { d.modifyQueue i (·.tail) with cursor := (i + 1) % d.queues.length })

inductive Next (α : Type) where
  | task (a : α) (d : Dispatcher α)
  | closed
  /-- Every queue is empty, and the consumer waits for a task. -/
  | parked

/-- One attempt of a consumer that is ready to wait. -/
def next (d : Dispatcher α) : Next α :=
  if d.closed then .closed
  else match d.popInTurn with
    | some (a, d') => .task a d'
    | none => .parked

def tryPop (d : Dispatcher α) : Option (α × Dispatcher α) :=
  if d.closed then none else d.popInTurn

def tryPops (d : Dispatcher α) : Nat → List (Option α) × Dispatcher α
  | 0 => ([], d)
  | n + 1 =>
    match d.tryPop with
    | some (a, d) => let (l, d) := d.tryPops n; (some a :: l, d)
    | none => let (l, d) := d.tryPops n; (none :: l, d)

/-! ### Closing and looking -/

def tasks (d : Dispatcher α) : List α := d.queues.flatMap (·.items)

/-- Closes the dispatcher. The tasks still waiting are its answer and are delivered to nobody. -/
def close (d : Dispatcher α) : List α × Dispatcher α :=
  (d.tasks, { d with closed := true, queues := d.queues.map (·.clear) })

/-- How many tasks wait in a queue; none in a queue of another dispatcher. -/
def depth (d : Dispatcher α) (q : QueueId) : Nat :=
  (d.queue? q).elim 0 (·.items.length)

def capacity (d : Dispatcher α) (q : QueueId) : Nat :=
  (d.queue? q).elim 0 (·.capacity)

def size (d : Dispatcher α) : Nat := d.tasks.length

def isEmpty (d : Dispatcher α) : Bool := d.size == 0

def snapshot (d : Dispatcher α) : List QueueDepth :=
  d.queues.map fun q => ⟨q.name, q.items.length, q.capacity⟩

def text (d : Dispatcher α) : String :=
  let queues := ", ".intercalate (d.snapshot.map QueueDepth.text)
  s!"TaskDispatcher \x7b queues: [{queues}], closed: {d.closed} \x7d"

end Dispatcher

end LteUe

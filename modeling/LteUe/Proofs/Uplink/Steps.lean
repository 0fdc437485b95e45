import LteUe.Proofs.Executor.Calls
import LteUe.Proofs.Lifetime.Execution
import LteUe.Stack.Requests

/-!
# Packets on their way up

Any number of threads hand packets to a stack while it lives, and while others enqueue tasks of their own. A
thread that does so offers its packet to the queue of the gateway. One that is ready to wait offers it again
until there is room, or until the dispatcher is closed. One that is not ready to wait and finds the queue full
records that in a step of its own. The executor runs the tasks that it takes, and the calls that the layers get
meanwhile are told with the run (`Uplink.Step`).
-/

namespace LteUe

open Function

variable {L κ : Type}

/-- What a thread is about that hands a packet to a stack. -/
inductive Sending where
  /-- It is to enqueue its packet, or waits for room. -/
  | offering (p : Packet)
  /-- It has found the queue full, and is to record that. -/
  | refused (p : Packet)
deriving DecidableEq

/-- A stack in its life, and the threads that hand packets to it. -/
structure Uplink (L κ : Type) extends Lifetime L κ where
  senders : Nat → Option Sending := fun _ => none

namespace Uplink

/-- A new stack. -/
def start (c : StackConfig) : Uplink L κ where
  toLifetime := .start c

/-- What happens in one step. -/
inductive Event (κ : Type) where
  | called (i : Nat) (p : Packet)
  /-- Its packet is in the queue, and the call returns `true`. -/
  | taken (i : Nat) (p : Packet)
  /-- The dispatcher is closed, and the call returns `false`. -/
  | turnedAway (i : Nat) (p : Packet)
  /-- The thread finds the queue full. -/
  | full (i : Nat) (p : Packet)
  /-- It has recorded that, and the call returns `false`. -/
  | recorded (i : Nat) (p : Packet)
  /-- The executor has run a task, in which the layers got these calls. -/
  | ran (w : Execution.Event) (calls : List (Call κ))
  /-- Anything else in the life of the stack. -/
  | other (w : Execution.Event)

section Step

variable [Layers L κ]

/-- The steps. Nobody but the threads that hand packets over enqueues a task that carries one, or touches the
count of the packets refused. -/
inductive Step : Uplink L κ → Event κ → Uplink L κ → Prop
  | call {x : Uplink L κ} {i : Nat} (p : Packet) :
      x.senders i = none →
        Step x (.called i p) { x with senders := update x.senders i (some (.offering p)) }
  | take {x : Uplink L κ} {i : Nat} {p : Packet} {d : Dispatcher Task} :
      x.senders i = some (.offering p) → x.shared.offer .gateway p.task = .accepted d →
        Step x (.taken i p)
          { x with
            shared := { x.shared with dispatcher := d }
            senders := update x.senders i none }
  | turnAway {x : Uplink L κ} {i : Nat} {p : Packet} {e : PushError Task} :
      x.senders i = some (.offering p) → x.shared.offer .gateway p.task = .rejected e →
        Step x (.turnedAway i p) { x with senders := update x.senders i none }
  -- The count is raised in a step of its own, after the push has failed.
  | refuse {x : Uplink L κ} {i : Nat} {p : Packet} :
      x.senders i = some (.offering p) → p.blocking = false →
        x.shared.offer .gateway p.task = .parked →
          Step x (.full i p) { x with senders := update x.senders i (some (.refused p)) }
  | record {x : Uplink L κ} {i : Nat} {p : Packet} :
      x.senders i = some (.refused p) →
        Step x (.recorded i p)
          { x with
            shared := { x.shared with uplinkDropped := x.shared.uplinkDropped + 1 }.report
              (Shared.uplinkDiscarded p.lcid)
            senders := update x.senders i none }
  -- What the task sees of all that threads share may be anything.
  | run {x : Uplink L κ} {e : Executor L κ} {u : Task} {seen s : Shared κ} :
      x.task = some u → x.executor = some e → x.shared.Keeps s →
        s.uplinkDropped = x.shared.uplinkDropped →
          Step x
            (.ran (.ran u (outcome (Work.perform u.command) (e, seen)).1, .missed)
              (Work.callsOf u.command (e, seen)))
            { x with shared := s, executor := some (e.run u seen).1, task := none }
  | other {x : Uplink L κ} {y : Lifetime L κ} {w : Execution.Event} :
      Execution.Step x.toLifetime w y → w.1.run? = none →
        (∀ u, w.1.posted? = some u → u.command.packet? = none) →
          y.shared.uplinkDropped = x.shared.uplinkDropped → Step x (.other w) { x with toLifetime := y }

end Step

/-! ## Histories -/

namespace Event

def taken? : Event κ → Option Packet
  | taken _ p => some p
  | _ => none

def full? : Event κ → Option (Nat × Packet)
  | full i p => some (i, p)
  | _ => none

def recorded? : Event κ → Option (Nat × Packet)
  | recorded i p => some (i, p)
  | _ => none

def written : Event κ → List Packet
  | ran _ calls => LteUe.written calls
  | _ => []

def discarded : Event κ → List Packet
  | other w => w.2.dropped.filterMap (·.command.packet?)
  | _ => []

end Event

/-- The packets of the calls that have returned `true`, in the order in which they were enqueued. -/
def taken (t : List (Event κ)) : List Packet := t.filterMap (·.taken?)

/-- The calls that have found the queue full without being ready to wait. -/
def full (t : List (Event κ)) : List (Nat × Packet) := t.filterMap (·.full?)

def recorded (t : List (Event κ)) : List (Nat × Packet) := t.filterMap (·.recorded?)

/-- The packets that packet data convergence has been handed, in order. -/
def written (t : List (Event κ)) : List Packet := t.flatMap (·.written)

/-- The packets that the closing of the dispatcher has dropped, in order. -/
def discarded (t : List (Event κ)) : List Packet := t.flatMap (·.discarded)

/-- The packets that tasks carry. -/
def packets (l : List Task) : List Packet := l.filterMap (·.command.packet?)

/-- The packets in the queue, oldest first. -/
def waiting (x : Uplink L κ) : List Packet := packets (x.shared.dispatcher.contents QueueKind.gateway.index)

/-- The packet in the hands of the executor, if it is about one. -/
def inHand (x : Uplink L κ) : List Packet := packets x.task.toList

/-- No thread has still to record that it found the queue full. -/
def AllRecorded (x : Uplink L κ) : Prop := ∀ i p, x.senders i ≠ some (.refused p)

end Uplink

end LteUe

import LteUe.Dispatcher.Basic

/-!
# Waiting producers and consumers

What happens to a producer that waits for room, and to a consumer that waits for a task, when the
other side moves.
-/

namespace LteUe.Dispatcher

variable {α : Type}

/-- A consumer pops until it has served the `i`-th queue, or nothing is left. The tasks popped come in
their order. -/
def popThrough (d : Dispatcher α) (i : Nat) : List α × Dispatcher α :=
  go d d.size
where
  go (d : Dispatcher α) : Nat → List α × Dispatcher α
    | 0 => ([], d)
    | n + 1 =>
      match d.serving?, d.tryPop with
      | some served, some (a, d) =>
        if served = i then ([a], d)
        else
          let (popped, d) := go d n
          (a :: popped, d)
      | _, _ => ([], d)

def settleOffer (d : Dispatcher α) (q : QueueId) (a : α) : Except (PushError α) Unit × Dispatcher α :=
  match d.offer q a with
  | .accepted d => (.ok (), d)
  | .rejected e => (.error e, d)
  | .parked => (.error (.full a), d)

/-- A producer waits for room in a full queue while the consumer pops until that queue is served; then
the push goes on. There is no answer if the producer need not wait. -/
def pushWhilePopping (d : Dispatcher α) (q : QueueId) (a : α) :
    Option (List α × Except (PushError α) Unit × Dispatcher α) :=
  match d.offer q a with
  | .parked =>
    let (popped, d) := d.popThrough q.index
    some (popped, d.settleOffer q a)
  | _ => none

/-- A producer waits for room while the dispatcher is closed; then the push goes on. There is no
answer if the producer need not wait. -/
def pushWhileClosing (d : Dispatcher α) (q : QueueId) (a : α) :
    Option (List α × Except (PushError α) Unit × Dispatcher α) :=
  match d.offer q a with
  | .parked =>
    let (dropped, d) := d.close
    some (dropped, d.settleOffer q a)
  | _ => none

/-- A consumer waits for a task while a producer pushes one; then the pop goes on. There is no answer
if the consumer need not wait or the queue is not of this dispatcher. -/
def popWhilePushing (d : Dispatcher α) (q : QueueId) (a : α) :
    Option (Except (PushError α) Unit × Option (α × Dispatcher α)) :=
  match d.next, d.queue? q with
  | .parked, some _ =>
    let (pushed, d) := d.settleOffer q a
    some (pushed, d.tryPop)
  | _, _ => none

/-- A consumer waits for a task while the dispatcher is closed; then the pop goes on. There is no
answer if tasks wait. -/
def popWhileClosing (d : Dispatcher α) : Option (List α × Option (α × Dispatcher α) × Dispatcher α) :=
  if d.isEmpty then
    let (dropped, d) := d.close
    some (dropped, d.tryPop, d)
  else
    none

end LteUe.Dispatcher

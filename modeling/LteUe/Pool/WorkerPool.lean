/-!
# The worker pool

A fixed number of workers share one channel of jobs: an idle worker takes the oldest job, and any
worker may be the one. A job that faults does not end its worker. Stopping a pool ends the channel;
the workers finish what is in it and leave.

The operations are the atomic steps of callers (`push`, `stop`) and of workers (`receive`,
`complete`).
-/

namespace LteUe

variable {β : Type}

/-- Workers that share a channel of jobs. -/
structure WorkerPool (β : Type) where
  /-- The number of workers, which are numbered from `0`. -/
  size : Nat
  accepting : Bool := true
  waiting : List β := []
  working : List (Nat × β) := []
deriving Repr

namespace WorkerPool

def ofSize (n : Nat) : WorkerPool β where
  size := n

/-- Hands a job to the pool. It is refused once the pool has stopped, or if there is no worker. -/
def push (p : WorkerPool β) (job : β) : Bool × WorkerPool β :=
  if p.accepting && p.size != 0 then
    (true, { p with waiting := p.waiting ++ [job] })
  else
    (false, p)

def IsIdle (p : WorkerPool β) (worker : Nat) : Prop :=
  worker < p.size ∧ worker ∉ p.working.map Prod.fst

instance (p : WorkerPool β) (worker : Nat) : Decidable (p.IsIdle worker) :=
  inferInstanceAs (Decidable (_ ∧ _))

def receive (p : WorkerPool β) (worker : Nat) : Option (β × WorkerPool β) :=
  if p.IsIdle worker then
    match p.waiting with
    | [] => none
    | job :: rest => some (job, { p with waiting := rest, working := (worker, job) :: p.working })
  else
    none

/-- A worker is done with its job, whether or not the job faulted. -/
def complete (p : WorkerPool β) (worker : Nat) : WorkerPool β :=
  { p with working := p.working.filter (·.1 ≠ worker) }

/-- Ends the channel, and says whether this call is the one that did. -/
def stop (p : WorkerPool β) : Bool × WorkerPool β :=
  (p.accepting, { p with accepting := false })

/-- A worker that has left: the channel is ended and empty, and it runs no job. -/
def HasLeft (p : WorkerPool β) (worker : Nat) : Prop :=
  p.accepting = false ∧ p.waiting = [] ∧ worker ∉ p.working.map Prod.fst

def text (p : WorkerPool β) : String :=
  s!"WorkerPool \x7b size: {p.size}, running: {p.accepting} \x7d"

end WorkerPool

end LteUe

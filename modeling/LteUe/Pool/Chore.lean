import LteUe.Pool.WorkerPool

/-!
# Chores

Small jobs for a worker pool: a chore records a number, faults, meets other chores that must run at
the same time, or stops its own pool. `ChoreBench` is a pool of chores with what they have recorded.
-/

namespace LteUe

/-- A small job. -/
inductive Chore where
  | record (n : Int)
  | fail
  /-- Waits until as many chores as take part have met. -/
  | meet
  | stopPool
deriving DecidableEq, Repr

/-- A pool of chores. -/
structure ChoreBench where
  pool : WorkerPool Chore
  /-- The numbers recorded and not yet drained, oldest first. -/
  done : List Int := []
deriving Repr

namespace ChoreBench

def ofSize (n : Nat) : ChoreBench where
  pool := .ofSize n

def push (b : ChoreBench) (c : Chore) : Bool × ChoreBench :=
  let (accepted, pool) := b.pool.push c
  (accepted, { b with pool := pool })

def stop (b : ChoreBench) : ChoreBench :=
  { b with pool := b.pool.stop.2 }

def perform (b : ChoreBench) : Chore → ChoreBench
  | .record n => { b with done := b.done ++ [n] }
  | .stopPool => b.stop
  | .fail | .meet => b

/-- Runs every waiting chore, one after the other on the first worker. -/
def settle (b : ChoreBench) : ChoreBench :=
  go b b.pool.waiting.length
where
  go (b : ChoreBench) : Nat → ChoreBench
    | 0 => b
    | n + 1 =>
      match b.pool.receive 0 with
      | none => b
      | some (chore, pool) =>
        let b := { b with pool := pool }.perform chore
        go { b with pool := b.pool.complete 0 } n

/-- Pushes `n` chores that must run at the same time. That needs as many workers, and a pool that
takes jobs. -/
def meet (b : ChoreBench) (n : Nat) : Option (List Bool × ChoreBench) :=
  if b.pool.accepting && n ≤ b.pool.size then
    some (go b n)
  else
    none
where
  go (b : ChoreBench) : Nat → List Bool × ChoreBench
    | 0 => ([], b.settle)
    | n + 1 =>
      let (accepted, b) := b.push .meet
      let (answers, b) := go b n
      (accepted :: answers, b)

/-- Pushes a chore that stops the pool from within, and waits for it. The second answer says whether
its call of stop came back. -/
def pushStop (b : ChoreBench) : (Bool × Bool) × ChoreBench :=
  let (accepted, b) := b.push .stopPool
  ((accepted, accepted), b.settle)

/-- Takes what has been recorded. With one worker the numbers come in the order of their chores; with
more the order is left open, and they are sorted. -/
def drain (b : ChoreBench) : List Int × ChoreBench :=
  let b := b.settle
  let numbers := if 1 < b.pool.size then b.done.mergeSort else b.done
  (numbers, { b with done := [] })

end ChoreBench

end LteUe

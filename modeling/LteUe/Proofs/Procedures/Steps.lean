import LteUe.Proofs.Executor.Calls
import LteUe.Proofs.Lifetime.Execution
import LteUe.Stack.Work

/-!
# Procedures of the radio

Any number of threads, the executor among them, start searches for cells and selections of cells while a stack
lives. A procedure that is started is a job in the channel of the pool. The worker that takes the job asks the
radio, and enqueues a task that reports the answer, for which it waits while the queue is full; the executor
runs the task. Meanwhile others hand jobs of their own to the workers, and enqueue tasks. What has come of a
procedure bears the number of the call that started it, wherever it is (`Procedures.Step`).
-/

namespace LteUe

variable {L κ : Type}

/-- What the radio is wanted for. -/
inductive Procedure where
  | search
  | select (cell : Cell)
deriving DecidableEq

namespace Procedure

def job : Procedure → Job
  | search => .search
  | select cell => .select cell

/-- What starts it. -/
def start (p : Procedure) (s : Surroundings κ) : Bool × Surroundings κ :=
  match p with
  | search => s.startSearch
  | select cell => s.startSelect cell

/-- The task that reports what this radio has answered. -/
def report (p : Procedure) (r : Radio) : Task :=
  match p with
  | search => { command := .searchDone r.result r.found }
  | select cell => { command := .selectDone (r.select cell) }

/-- What radio resource control is told then. -/
def told (p : Procedure) (r : Radio) : Call κ :=
  match p with
  | search => .searchDone r.result r.found
  | select cell => .selectDone (r.select cell)

end Procedure

/-- The procedure that a job is. -/
def Job.procedure? : Job → Option Procedure
  | .search => some .search
  | .select cell => some (.select cell)
  | .report _ | .fail => none

/-- How far a worker has come with a job. One who reports may have to wait for room. -/
inductive Progress where
  | taken
  | reporting (u : Task)
  | over
deriving DecidableEq

/-- A worker and its job, with the number of the call that started the job if it is a procedure. -/
structure Desk where
  worker : Nat
  caller : Option Nat
  job : Job
  progress : Progress
deriving DecidableEq

/-- A stack in its life, with the calls that procedures come from. -/
structure Procedures (L κ : Type) extends Lifetime L κ where
  started : Nat := 0
  channel : List (Option Nat × Job) := []
  desks : List Desk := []
  backlog : List (Option Nat × Task) := []
  hand : Option (Option Nat × Task) := none

namespace Procedures

/-- What happens to one procedure. -/
inductive Chapter (κ : Type) where
  /-- A thread calls for it, and is told whether it has been started. -/
  | called (p : Procedure) (started : Bool)
  | received
  /-- The worker asks the radio, which answers as `r` does. -/
  | asked (p : Procedure) (r : Radio)
  /-- The worker has enqueued the task that reports the answer. -/
  | reported (u : Task)
  /-- The worker finds the dispatcher closed. -/
  | turnedAway (u : Task)
  | begun (u : Task)
  /-- The executor has run it, and the layers have got these calls. -/
  | completed (u : Task) (calls : List (Call κ))
  /-- The task is dropped when the dispatcher is closed. -/
  | dropped (u : Task)

/-- A new stack. -/
def start (c : StackConfig) : Procedures L κ where
  toLifetime := .start c

/-- What happens in one step: to which procedures, by the numbers of their calls, and in the life of the
stack. -/
abbrev Event (κ : Type) := List (Nat × Chapter κ) × Execution.Event

/-- Something happens to what may be a procedure. -/
def mark (o : Option Nat) (c : Chapter κ) : List (Nat × Chapter κ) := o.toList.map (·, c)

section Step

variable [Layers L κ]

/-- The steps. A radio may answer differently each time it is asked, and does answer. The layers start
procedures in steps of their own while the executor is about a task, and none while they are brought up.
Nobody else touches the jobs of the workers. -/
inductive Step : Procedures L κ → Event κ → Procedures L κ → Prop
  | call {x : Procedures L κ} {b : Bool} {s : Shared κ} (p : Procedure) :
      x.shared.asLayer p.start = (b, s) →
        Step x ([(x.started, .called p b)], .worked, .missed)
          { x with
            shared := s
            started := x.started + 1
            channel := x.channel ++ if b then [(some x.started, p.job)] else [] }
  -- Others hand over jobs that are no procedures.
  | submit {x : Procedures L κ} {j : Job} {b : Bool} {s : Shared κ} :
      j.procedure? = none → x.shared.asLayer (·.submit j) = (b, s) →
        Step x ([], .worked, .missed)
          { x with shared := s, channel := x.channel ++ if b then [(none, j)] else [] }
  | receive {x : Procedures L κ} {w : Nat} {o : Option Nat} {j : Job} {rest : List (Option Nat × Job)}
      {pool : WorkerPool Job} :
      x.channel = (o, j) :: rest → x.shared.pool.receive w = some (j, pool) →
        Step x (mark o .received, .worked, .missed)
          { x with
            shared := { x.shared with pool := pool }
            channel := rest
            desks := ⟨w, o, j, .taken⟩ :: x.desks }
  -- The radio is the one of this moment.
  | ask {x : Procedures L κ} {l m : List Desk} {w : Nat} {o : Option Nat} {p : Procedure} {r : Radio}
      {c : Command} {s : Shared κ} :
      x.desks = l ++ ⟨w, o, p.job, .taken⟩ :: m →
        { x.shared with radio := some r }.consult p.job = (some c, s) →
          Step x (mark o (.asked p r), .worked, .missed)
            { x with
              shared := { s with radio := x.shared.radio }
              desks := l ++ ⟨w, o, p.job, .reporting { command := c }⟩ :: m }
  | work {x : Procedures L κ} {l m : List Desk} {w : Nat} {o : Option Nat} {j : Job} {r : Option Command}
      {s : Shared κ} :
      x.desks = l ++ ⟨w, o, j, .taken⟩ :: m → j.procedure? = none → x.shared.consult j = (r, s) →
        Step x ([], .worked, .missed)
          { x with
            shared := r.elim (s.report Shared.jobFaulted) fun _ => s
            desks := l ++ ⟨w, o, j, r.elim .over fun c => .reporting { command := c }⟩ :: m }
  | report {x : Procedures L κ} {l m : List Desk} {w : Nat} {o : Option Nat} {j : Job} {u : Task}
      {d : Dispatcher Task} :
      x.desks = l ++ ⟨w, o, j, .reporting u⟩ :: m → u.command ≠ .teardown →
        x.shared.offer .background u = .accepted d →
          Step x (mark o (.reported u), .posted u, .accepted 0 (x.shared.queueId .background) u)
            { x with
              shared := { x.shared with dispatcher := d }
              desks := l ++ ⟨w, o, j, .over⟩ :: m
              backlog := x.backlog ++ [(o, u)] }
  | turnAway {x : Procedures L κ} {l m : List Desk} {w : Nat} {o : Option Nat} {j : Job} {u : Task}
      {e : PushError Task} :
      x.desks = l ++ ⟨w, o, j, .reporting u⟩ :: m → x.shared.offer .background u = .rejected e →
        Step x (mark o (.turnedAway u), .worked, .missed) { x with desks := l ++ ⟨w, o, j, .over⟩ :: m }
  | complete {x : Procedures L κ} {l m : List Desk} {w : Nat} {o : Option Nat} {j : Job} :
      x.desks = l ++ ⟨w, o, j, .over⟩ :: m →
        Step x ([], .worked, .missed)
          { x with shared := { x.shared with pool := x.shared.pool.complete w }, desks := l ++ m }
  | begin {x : Procedures L κ} {y : Lifetime L κ} {o : Option Nat} {u : Task}
      {rest : List (Option Nat × Task)} :
      x.backlog = (o, u) :: rest →
        Execution.Step x.toLifetime (.began u, .popped QueueKind.background.index u) y →
          Step x (mark o (.begun u), .began u, .popped QueueKind.background.index u)
            { x with toLifetime := y, backlog := rest, hand := some (o, u) }
  | beginOther {x : Procedures L κ} {y : Lifetime L κ} {i : Nat} {u : Task} :
      i ≠ QueueKind.background.index → Execution.Step x.toLifetime (.began u, .popped i u) y →
        Step x ([], .began u, .popped i u) { x with toLifetime := y, hand := some (none, u) }
  | run {x : Procedures L κ} {e : Executor L κ} {o : Option Nat} {u : Task} {seen s : Shared κ} :
      x.hand = some (o, u) → x.task = some u → x.executor = some e → x.shared.Keeps s →
        s.pool = x.shared.pool →
          Step x
            (mark o (.completed u (Work.callsOf u.command (e, seen))),
              .ran u (outcome (Work.perform u.command) (e, seen)).1, .missed)
            { x with shared := s, executor := some (e.run u seen).1, task := none, hand := none }
  | close {x : Procedures L κ} {y : Lifetime L κ} {w : Execution.Event} :
      Execution.Step x.toLifetime w y → w.2.isClosed = true → y.shared.pool = x.shared.pool →
        Step x (x.backlog.flatMap fun b => mark b.1 (.dropped b.2), w)
          { x with toLifetime := y, backlog := [] }
  -- Tasks of others in the queue of background results belong to no call.
  | other {x : Procedures L κ} {y : Lifetime L κ} {w : Execution.Event} :
      Execution.Step x.toLifetime w y → w.1.run? = none → w.1.begun? = none → w.2.isClosed = false →
        (∃ b, y.shared.pool = { x.shared.pool with accepting := b }) →
          Step x ([], w)
            { x with
              toLifetime := y
              backlog := x.backlog ++
                (w.2.acceptedOn? QueueKind.background.index).toList.map (none, ·) }

end Step

/-! ## Histories -/

namespace Chapter

/-- A call that is told that its procedure has been started. -/
def isAccepted : Chapter κ → Bool
  | called _ started => started
  | _ => false

def isAsked : Chapter κ → Bool
  | asked _ _ => true
  | _ => false

def isReported : Chapter κ → Bool
  | reported _ => true
  | _ => false

def isRun : Chapter κ → Bool
  | begun _ | completed _ _ => true
  | _ => false

def isCompleted : Chapter κ → Bool
  | completed _ _ => true
  | _ => false

/-- The answer gets lost at the closed dispatcher. -/
def isLost : Chapter κ → Bool
  | turnedAway _ | dropped _ => true
  | _ => false

/-- What goes on in the life of the stack when this happens to a procedure. -/
def Within (w : Execution.Event) : Chapter κ → Prop
  | called _ _ | received | asked _ _ | turnedAway _ => w = (.worked, .missed)
  | reported u => w.1 = .posted u
  | begun u => w.1 = .began u
  | completed u _ => ∃ r, w.1 = .ran u r
  | dropped _ => w.2.isClosed = true

end Chapter

/-- What has happened to the procedure of call `n`. -/
def own (n : Nat) (m : List (Nat × Chapter κ)) : List (Chapter κ) :=
  m.filterMap fun e => if e.1 = n then some e.2 else none

/-- The calls to whose procedures something of this kind has happened. -/
def callers (f : Chapter κ → Bool) (m : List (Nat × Chapter κ)) : List Nat := (m.filter (f ·.2)).map (·.1)

/-- What has happened to procedures. -/
def marks (t : List (Event κ)) : List (Nat × Chapter κ) := t.flatMap (·.1)

/-- The ways of a procedure: it is not started, or it is completed, unless its worker finds the dispatcher closed
or the closing of the dispatcher drops its task. -/
def ways (p : Procedure) (r : Radio) : List (List (Chapter κ)) :=
  [[.called p false],
    [.called p true, .received, .asked p r, .reported (p.report r), .begun (p.report r),
      .completed (p.report r) [p.told r]],
    [.called p true, .received, .asked p r, .turnedAway (p.report r)],
    [.called p true, .received, .asked p r, .reported (p.report r), .dropped (p.report r)]]

/-- What has happened in the life of the stack. -/
def lives (t : List (Event κ)) : List Execution.Event := t.map (·.2)

/-! ## Where procedures are -/

/-- The calls whose procedures are in the channel of the pool. -/
def queued (x : Procedures L κ) : List Nat := x.channel.filterMap (·.1)

/-- The calls whose procedures are with workers, which may have to wait for room for what they report. -/
def held (x : Procedures L κ) : List Nat :=
  x.desks.filterMap fun d => if d.progress = .over then none else d.caller

/-- The calls whose procedures are in the queue of background results. -/
def waiting (x : Procedures L κ) : List Nat := x.backlog.filterMap (·.1)

/-- The call whose procedure the executor is about to complete. -/
def inHand (x : Procedures L κ) : List Nat := (x.hand.bind (·.1)).toList

end Procedures

end LteUe

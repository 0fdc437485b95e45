import LteUe.Stack.Shared

/-!
# Background work

What a worker does with a job. A job asks the radio, if it needs it, and posts a task with the answer;
a job that faults ends there, and its worker goes on with the next.
-/

namespace LteUe.Shared

variable {κ : Type}

def searchFinished (result : SearchResult) (cell : Cell) : Log.Event where
  level := .debug
  target := .rrc
  message := "cell search finished"
  fields := [("result", .text result.label), ("pci", .num cell.pci)]
  onWorker := true

def selectFinished (cell : Cell) (selected : Bool) : Log.Event where
  level := .debug
  target := .rrc
  message := "cell select finished"
  fields := [("pci", .num cell.pci), ("selected", .flag selected)]
  onWorker := true

def jobFaulted : Log.Event where
  level := .error
  target := .pool
  message := "background task panicked"
  onWorker := true

/-- What a job asks of the radio, and the task that it posts then; none if it faults. -/
def consult (s : Shared κ) : Job → Option Command × Shared κ
  | .search =>
    match s.radio with
    | some ⟨result, cell, _, none⟩ =>
      (some (.searchDone result cell), s.report (searchFinished result cell))
    | _ => (none, s)
  | .select cell =>
    match s.radio with
    | some r =>
      let selected := r.select cell
      (some (.selectDone selected), s.report (selectFinished cell selected))
    | none => (none, s)
  | .report c => (some c, s)
  | .fail => (none, s)

/-- Runs the oldest waiting job on the first worker. The answer says whether its result was posted;
there is none if the job faulted or its result waits for room. -/
def runJob (s : Shared κ) : Option (Option Bool × Shared κ) := do
  let (job, pool) ← s.pool.receive 0
  let (command, s) := { s with pool := pool }.consult job
  let finished (s : Shared κ) : Shared κ := { s with pool := s.pool.complete 0 }
  match command with
  | none => return (none, finished (s.report jobFaulted))
  | some c => match s.postResult c with
    | some (posted, s) => return (some posted, finished s)
    -- the worker keeps its job until there is room
    | none => return (none, s)

/-- Runs at most `n` waiting jobs, up to one whose result waits for room. -/
def runJobs : Nat → Shared κ → Shared κ
  | 0, s => s
  | n + 1, s =>
    match s.runJob with
    | some (_, s) => runJobs n s
    | none => s

end LteUe.Shared

import LteUe.Capture.Sink
import LteUe.Pool.WorkerPool
import LteUe.Stack.Lifecycle
import LteUe.Stack.Task

/-!
# What layers reach

The surroundings of the protocol layers: the background workers, the deferrals that wait to be armed,
the captures, and what lies around the stack. Each operation here is one atomic step of a thread that
holds a handle to the stack.
-/

namespace LteUe

/-- What layers reach of a stack. `κ` is the type of timer callbacks. -/
structure Surroundings (κ : Type) where
  state : LifecycleState := .uninitialized
  radio : Option Radio := none
  pool : WorkerPool Job
  /-- Deferrals not yet armed, oldest first, each with its ticks. -/
  deferred : List (Nat × κ) := []
  captures : Captures := {}
  world : World := {}

namespace Surroundings

variable {κ : Type}

def alone : Surroundings κ where
  pool := .ofSize 0

def turnPage (s : Surroundings κ) : Surroundings κ := { s with world := s.world.turnPage }

def note (s : Surroundings κ) (text : String) : Surroundings κ := { s with world := s.world.note text }

def report (s : Surroundings κ) (e : Log.Event) : Surroundings κ :=
  { s with world := s.world.report e }

def capture (s : Surroundings κ) (layer : CapturedLayer) (pdu : Bytes) : Surroundings κ :=
  let (captures, world) := s.captures.write layer pdu s.world
  { s with captures := captures, world := world }

/-! ### Deferrals -/

def tooLate (ticks : Nat) : Log.Event where
  level := .warn
  target := .stack
  message := "cannot defer callback: stack stopped"
  fields := [("duration_ticks", .num ticks)]

def defer (s : Surroundings κ) (ticks : Nat) (callback : κ) : Bool × Surroundings κ :=
  if s.state = .stopped then (false, s.report (tooLate ticks))
  else (true, { s with deferred := s.deferred ++ [(ticks, callback)] })

/-! ### Background work -/

def submit (s : Surroundings κ) (j : Job) : Bool × Surroundings κ :=
  let (accepted, pool) := s.pool.push j
  (accepted, { s with pool := pool })

def noRadio : Log.Event where
  level := .warn
  target := .rrc
  message := "no radio driver attached"

def submitRadio (s : Surroundings κ) (j : Job) : Bool × Surroundings κ :=
  match s.radio with
  | some _ => s.submit j
  | none => (false, s.report noRadio)

def startSearch (s : Surroundings κ) : Bool × Surroundings κ := s.submitRadio .search

def startSelect (s : Surroundings κ) (cell : Cell) : Bool × Surroundings κ :=
  s.submitRadio (.select cell)

end Surroundings

end LteUe

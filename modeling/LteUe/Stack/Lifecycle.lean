/-!
# The life of a stack

The states of a stack, and the ways in which starting it or asking it can fail.
-/

namespace LteUe

/-- Where a stack is in its life. -/
inductive LifecycleState where
  /-- Made, with queues and workers but without an executor. -/
  | uninitialized
  | running
  | stopping
  | stopped
deriving DecidableEq, Repr

namespace LifecycleState

def name : LifecycleState → String
  | uninitialized => "uninitialized"
  | running => "running"
  | stopping => "stopping"
  | stopped => "stopped"

def label : LifecycleState → String
  | uninitialized => "Uninitialized"
  | running => "Running"
  | stopping => "Stopping"
  | stopped => "Stopped"

def ofName? (s : String) : Option LifecycleState :=
  [uninitialized, running, stopping, stopped].find? (·.name == s)

end LifecycleState

/-- An error with its causes, innermost first. -/
abbrev Causes := List String

namespace Causes

/-- The error and its causes on one line, outermost first. -/
def message (c : Causes) : String := ": ".intercalate c.reverse

end Causes

inductive StackThread where
  | executor
  | worker
deriving DecidableEq, Repr

namespace StackThread

def name : StackThread → String
  | executor => "STACK"
  | worker => "WORKER"

def ofName? (s : String) : Option StackThread := [executor, worker].find? (·.name == s)

end StackThread

/-- Why a stack was not started. -/
inductive InitError where
  | config (causes : Causes)
  | invalidState (state : LifecycleState)
  | usim (causes : Causes)
  | spawn (thread : StackThread) (source : String)
deriving DecidableEq, Repr

namespace InitError

def message : InitError → String
  | config causes => s!"invalid stack configuration: {causes.message}"
  | invalidState state => s!"stack cannot be initialised in state {state.name}"
  | usim causes => s!"USIM initialisation failed: {causes.message}"
  | spawn thread _ => s!"failed to spawn thread '{thread.name}'"

end InitError

/-- Why a question to a stack was not answered. -/
inductive StackError where
  | notRunning
  /-- The question was given up. -/
  | queryAborted
deriving DecidableEq, Repr

namespace StackError

def name : StackError → String
  | notRunning => "NotRunning"
  | queryAborted => "QueryAborted"

def message : StackError → String
  | notRunning => "stack is not running"
  | queryAborted => "query aborted: stack shut down before answering"

end StackError

end LteUe

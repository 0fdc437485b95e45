/-!
# The queues of a stack

Each kind of producer has a queue of its own. The order here is that of registration, in which the
executor serves them in turn.
-/

namespace LteUe

/-- The queues of a stack: lifecycle, requests of the user's side, radio timing, uplink packets, work
handed over by medium access control, and results of background work. -/
inductive QueueKind where
  | control
  | ue
  | sync
  | gateway
  | mac
  | background
deriving DecidableEq, Repr

namespace QueueKind

def all : List QueueKind := [control, ue, sync, gateway, mac, background]

def index : QueueKind → Nat
  | control => 0
  | ue => 1
  | sync => 2
  | gateway => 3
  | mac => 4
  | background => 5

def name : QueueKind → String
  | control => "control"
  | ue => "ue"
  | sync => "sync"
  | gateway => "gw"
  | mac => "mac"
  | background => "background"

def label : QueueKind → String
  | control => "Control"
  | ue => "Ue"
  | sync => "Sync"
  | gateway => "Gateway"
  | mac => "Mac"
  | background => "Background"

def ofName? (s : String) : Option QueueKind := all.find? (·.name == s)

/-- The capacity of the queue of lifecycle tasks. -/
def controlCapacity : Nat := 4

end QueueKind

end LteUe

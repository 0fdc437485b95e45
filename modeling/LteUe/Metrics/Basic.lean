import LteUe.Dispatcher.Basic
import LteUe.Tick.Profiler

/-!
# Metrics

What a stack tells about itself: one section for each layer that counts something, and one for the
executor. All sections of a snapshot describe the same instant.
-/

namespace LteUe

/-- The state of mobility management. -/
inductive EmmState where
  | deregistered
  | registeredInitiated
  | registered
  | deregisteredInitiated
deriving DecidableEq, Repr

namespace EmmState

def name : EmmState → String
  | deregistered => "deregistered"
  | registeredInitiated => "registered_initiated"
  | registered => "registered"
  | deregisteredInitiated => "deregistered_initiated"

def all : List EmmState := [deregistered, registeredInitiated, registered, deregisteredInitiated]

def ofName? (s : String) : Option EmmState := all.find? (·.name == s)

def label : EmmState → String
  | deregistered => "Deregistered"
  | registeredInitiated => "RegisteredInitiated"
  | registered => "Registered"
  | deregisteredInitiated => "DeregisteredInitiated"

end EmmState

inductive RrcState where
  | idle
  | connected
deriving DecidableEq, Repr

namespace RrcState

def name : RrcState → String
  | idle => "idle"
  | connected => "connected"

def ofName? (s : String) : Option RrcState := [idle, connected].find? (·.name == s)

end RrcState

structure MacMetrics where
  txPackets : Nat := 0
  txErrors : Nat := 0
  rxPackets : Nat := 0
  rxErrors : Nat := 0
deriving DecidableEq, Repr

structure RlcMetrics where
  uplinkBytes : Nat := 0
  downlinkBytes : Nat := 0
deriving DecidableEq, Repr

structure NasMetrics where
  state : EmmState := .deregistered
  bearers : Nat := 0
deriving DecidableEq, Repr

structure LayerMetrics where
  mac : MacMetrics := {}
  rlc : RlcMetrics := {}
  rrc : RrcState := .idle
  nas : NasMetrics := {}
deriving DecidableEq, Repr

structure ExecutorMetrics where
  currentTti : Option UInt32 := none
  ticksProcessed : Nat := 0
  tasksExecuted : Nat := 0
  tasksFaulted : Nat := 0
  /-- Tick batches above the threshold. -/
  longTickWarnings : Nat := 0
  /-- Tick batches that left too many reports waiting. -/
  backlogWarnings : Nat := 0
  uplinkDropped : Nat := 0
  runningTimers : Nat := 0
  queues : List QueueDepth := []
  tickStats : TickStats := {}
deriving DecidableEq, Repr

/-- A snapshot of a stack. -/
structure StackMetrics extends LayerMetrics where
  executor : ExecutorMetrics := {}
deriving DecidableEq, Repr

namespace StackMetrics

/-- Whether the stack is known to the network and has a connection. -/
def isAttached (m : StackMetrics) : Bool := m.nas.state == .registered && m.rrc == .connected

end StackMetrics

end LteUe

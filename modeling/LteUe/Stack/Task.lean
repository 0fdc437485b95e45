import LteUe.Bridge.ResultSlot
import LteUe.Layers.Radio
import LteUe.Metrics.Basic
import LteUe.Storage.Files

/-!
# Tasks and jobs

A task is work for the executor, a job is work for a background worker. A task that somebody waits for
holds a ticket, under which its answer is delivered.
-/

namespace LteUe

/-- What a task does. -/
inductive Command where
  | attach
  | detach (switchOff : Bool)
  | hasData (lcid : Lcid)
  | metrics
  /-- Asks for a number, or faults. -/
  | ask (v : Int) (fault : Option String)
  | uplink (lcid : Lcid) (sdu : Bytes) (blocking : Bool)
  | sync (inSync : Bool)
  | tick (tti jump : UInt32)
  /-- Writes a note, and may then fault. -/
  | note (label : String) (faulty : Bool)
  | searchDone (result : SearchResult) (cell : Cell)
  | selectDone (selected : Bool)
  | idle
  /-- Stops the layers and ends the executor. -/
  | teardown
deriving DecidableEq, Repr

inductive Reply where
  | done
  | flag (b : Bool)
  | number (v : Int)
  | snapshot (m : StackMetrics)
deriving DecidableEq, Repr

structure Task where
  command : Command
  /-- Where the answer goes. -/
  ticket : Option Nat := none
deriving DecidableEq, Repr

/-- Work for a background worker. -/
inductive Job where
  | search
  | select (cell : Cell)
  /-- Reports a task of its own. -/
  | report (c : Command)
  | fail
deriving DecidableEq, Repr

end LteUe

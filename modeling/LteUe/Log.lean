/-!
# Log events

What the stack and its layers report while they run. An event has a level, a target, a message and
named fields; a reader asks for the events of one level and of all more severe ones.
-/

namespace LteUe.Log

/-- Levels, most severe first. -/
inductive Level where
  | error
  | warn
  | info
  | debug
  | trace
deriving DecidableEq, Repr

namespace Level

def name : Level → String
  | error => "ERROR"
  | warn => "WARN"
  | info => "INFO"
  | debug => "DEBUG"
  | trace => "TRACE"

def verbosity : Level → Nat
  | error => 0
  | warn => 1
  | info => 2
  | debug => 3
  | trace => 4

def ofName? : String → Option Level
  | "error" => some error
  | "warn" => some warn
  | "info" => some info
  | "debug" => some debug
  | "trace" => some trace
  | _ => none

end Level

/-- Where an event comes from. -/
inductive Target where
  | stack
  | pool
  | mac
  | rlc
  | pdcp
  | rrc
  | nas
  | usim
  | dispatcher
deriving DecidableEq, Repr

namespace Target

/-- The written name; the filter of the configuration selects by it. -/
def name : Target → String
  | stack => "stack"
  | pool => "pool"
  | mac => "mac"
  | rlc => "rlc"
  | pdcp => "pdcp"
  | rrc => "rrc"
  | nas => "nas"
  | usim => "usim"
  | dispatcher => "ue_stack::dispatcher"

/-- The targets that have a level of their own in the configuration. -/
def layered : List Target := [stack, pool, mac, rlc, pdcp, rrc, nas, usim]

end Target

inductive Value where
  | num (n : Nat)
  | flag (b : Bool)
  | text (s : String)
deriving DecidableEq, Repr

structure Event where
  level : Level
  target : Target
  message : String
  fields : List (String × Value) := []
  /-- Whether a background worker reported it. -/
  onWorker : Bool := false
deriving DecidableEq, Repr

/-- The events of a level and of all more severe ones. -/
def upTo (level : Level) (events : List Event) : List Event :=
  events.filter fun e => e.level.verbosity ≤ level.verbosity

end LteUe.Log

import LteUe.Log
import LteUe.Span

/-!
# Configuration of a stack

Every field has a default. `StackConfig.check` says which values a stack cannot run with, and
`LogConfig.filter` writes the log levels as one line of directives.
-/

namespace LteUe

structure TickConfig where
  timeStats : Bool := false
  /-- Batches that take longer, in milliseconds, are late. -/
  warnThresholdMillis : Nat := 5
  /-- A longer backlog of tick reports is reported. -/
  backlogThreshold : Nat := 5
  /-- Batches in one period of the statistics. -/
  statPeriod : Nat := 1000
deriving DecidableEq, Repr

namespace TickConfig

def warnThreshold (c : TickConfig) : Span := .ofMillis c.warnThresholdMillis

end TickConfig

/-- The bounded wait of a graceful detach. -/
structure DetachConfig where
  timeoutMillis : Nat := 5000
  pollIntervalMillis : Nat := 1
deriving DecidableEq, Repr

namespace DetachConfig

def timeout (c : DetachConfig) : Span := .ofMillis c.timeoutMillis

def pollInterval (c : DetachConfig) : Span := .ofMillis c.pollIntervalMillis

end DetachConfig

structure CaptureConfig where
  macEnabled : Bool := false
  macFile : String := "/tmp/ue_mac.pcap"
  nasEnabled : Bool := false
  nasFile : String := "/tmp/ue_nas.pcap"
deriving DecidableEq, Repr

/-- The log level of each part of the stack. -/
structure LogConfig where
  stack : String := "info"
  pool : String := "warn"
  mac : String := "info"
  rlc : String := "info"
  pdcp : String := "info"
  rrc : String := "info"
  nas : String := "info"
  usim : String := "info"
deriving DecidableEq, Repr

namespace LogConfig

/-- The level of a target. What has no level of its own follows the stack. -/
def level (c : LogConfig) : Log.Target → String
  | .stack | .dispatcher => c.stack
  | .pool => c.pool
  | .mac => c.mac
  | .rlc => c.rlc
  | .pdcp => c.pdcp
  | .rrc => c.rrc
  | .nas => c.nas
  | .usim => c.usim

/-- The directives of a log filter: one for the modules of the stack, then one for each target. -/
def filter (c : LogConfig) : String :=
  ",".intercalate
    (s!"ue_stack={c.stack}" :: Log.Target.layered.map fun t => s!"{t.name}={c.level t}")

end LogConfig

/-- The configuration of one stack. -/
structure StackConfig where
  queueCapacity : Nat := 512
  backgroundWorkers : Nat := 2
  /-- The number of timer slots made at the start. -/
  timerCapacity : Nat := 64
  tick : TickConfig := {}
  detach : DetachConfig := {}
  captures : CaptureConfig := {}
  log : LogConfig := {}
deriving DecidableEq, Repr

inductive ConfigError where
  | noQueueCapacity
  | noWorkers
  | noPollInterval
  | pollBeyondTimeout (interval timeout : Nat)
deriving DecidableEq, Repr

namespace ConfigError

def message : ConfigError → String
  | noQueueCapacity => "stack.queue_capacity must be at least 1"
  | noWorkers => "stack.background_workers must be at least 1"
  | noPollInterval => "detach.poll_interval_ms must be at least 1"
  | pollBeyondTimeout interval timeout =>
    s!"detach.poll_interval_ms ({interval}) exceeds detach.timeout_ms ({timeout})"

end ConfigError

namespace StackConfig

/-- The first thing that is wrong with a configuration, if any. -/
def check (c : StackConfig) : Except ConfigError Unit :=
  if c.queueCapacity = 0 then .error .noQueueCapacity
  else if c.backgroundWorkers = 0 then .error .noWorkers
  else if c.detach.pollIntervalMillis = 0 then .error .noPollInterval
  else if c.detach.timeoutMillis < c.detach.pollIntervalMillis then
    .error (.pollBeyondTimeout c.detach.pollIntervalMillis c.detach.timeoutMillis)
  else .ok ()

end StackConfig

end LteUe

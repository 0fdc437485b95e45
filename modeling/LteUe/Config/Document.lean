import LteUe.Config.Basic
import LteUe.Text.Quoted
import LteUe.Yaml.Value

/-!
# Configurations from documents

A document overlays the default configuration: it has a mapping for some of the sections, and a value
for some of their fields. A section of another name makes the document malformed, a field of another
name has no effect.
-/

namespace LteUe

open Yaml

def StackConfig.sections : List String := ["stack", "tick", "detach", "pcap", "log"]

namespace Yaml.Document

/-- The fields of the document's own record, if all their names are known. An empty document has
none. -/
def record? (d : Document) (names : List String) : Option (List (String × Node)) := do
  let fields ← d.root.elim (some []) d.fields?
  guard (fields.all fun (name, _) => names.contains name)
  return fields

def u64? (d : Document) : Node → Option Nat := d.natBelow? UInt64.size

def u32? (d : Document) : Node → Option Nat := d.natBelow? UInt32.size

end Yaml.Document

def TickConfig.overlay (c : TickConfig) (d : Document) (node : Node) : Option TickConfig := do
  let fields ← d.fields? node
  return {
    timeStats := ← field fields "time_stats" d.bool? c.timeStats
    warnThresholdMillis := ← field fields "warn_threshold_ms" d.u64? c.warnThresholdMillis
    backlogThreshold := ← field fields "sync_queue_warn_threshold" d.u64? c.backlogThreshold
    statPeriod := ← field fields "stat_period" d.u32? c.statPeriod }

def DetachConfig.overlay (c : DetachConfig) (d : Document) (node : Node) : Option DetachConfig := do
  let fields ← d.fields? node
  return {
    timeoutMillis := ← field fields "timeout_ms" d.u64? c.timeoutMillis
    pollIntervalMillis := ← field fields "poll_interval_ms" d.u64? c.pollIntervalMillis }

def CaptureConfig.overlay (c : CaptureConfig) (d : Document) (node : Node) :
    Option CaptureConfig := do
  let fields ← d.fields? node
  return {
    macEnabled := ← field fields "enable" d.bool? c.macEnabled
    macFile := ← field fields "filename" d.text? c.macFile
    nasEnabled := ← field fields "nas_enable" d.bool? c.nasEnabled
    nasFile := ← field fields "nas_filename" d.text? c.nasFile }

def LogConfig.overlay (c : LogConfig) (d : Document) (node : Node) : Option LogConfig := do
  let fields ← d.fields? node
  return {
    stack := ← field fields "stack_level" d.text? c.stack
    pool := ← field fields "pool_level" d.text? c.pool
    mac := ← field fields "mac_level" d.text? c.mac
    rlc := ← field fields "rlc_level" d.text? c.rlc
    pdcp := ← field fields "pdcp_level" d.text? c.pdcp
    rrc := ← field fields "rrc_level" d.text? c.rrc
    nas := ← field fields "nas_level" d.text? c.nas
    usim := ← field fields "usim_level" d.text? c.usim }

namespace StackConfig

def overlaySizes (c : StackConfig) (d : Document) (node : Node) : Option StackConfig := do
  let fields ← d.fields? node
  return { c with
    queueCapacity := ← field fields "queue_capacity" d.u64? c.queueCapacity
    backgroundWorkers := ← field fields "background_workers" d.u64? c.backgroundWorkers
    timerCapacity := ← field fields "timer_capacity" d.u64? c.timerCapacity }

/-- The sections of a document over a configuration. -/
def overlay (c : StackConfig) (d : Document) : Option StackConfig := do
  let fields ← d.record? sections
  let sized ← field fields "stack" (c.overlaySizes d) c
  return { sized with
    tick := ← field fields "tick" (c.tick.overlay d) c.tick
    detach := ← field fields "detach" (c.detach.overlay d) c.detach
    captures := ← field fields "pcap" (c.captures.overlay d) c.captures
    log := ← field fields "log" (c.log.overlay d) c.log }

inductive TextError where
  /-- The text is no document, or its sections or fields are wrong. -/
  | malformed
  | invalid (e : ConfigError)
deriving DecidableEq, Repr

def TextError.message : TextError → String
  | malformed => "Failed to parse YAML"
  | invalid e => e.message

def ofDocument (d : Document) : Except TextError StackConfig :=
  match ({} : StackConfig).overlay d with
  | none => .error .malformed
  | some c => match c.check with
    | .ok () => .ok c
    | .error e => .error (.invalid e)

/-- The configuration that a text describes. A blank text describes the default. -/
def ofText (text : String) : Except TextError StackConfig :=
  if Text.blank text then .ok {}
  else match Document.ofText? text with
    | none => .error .malformed
    | some d => ofDocument d

end StackConfig

end LteUe

import LteUe.Metrics.Basic
import LteUe.Report.Text

/-!
# Reported metrics

A snapshot as a report, one section for each layer and one for the executor.
-/

namespace LteUe

def MacMetrics.report (m : MacMetrics) : Report :=
  .record [("tx_pkts", .num m.txPackets), ("tx_errors", .num m.txErrors), ("rx_pkts", .num m.rxPackets),
    ("rx_errors", .num m.rxErrors)]

def RlcMetrics.report (m : RlcMetrics) : Report :=
  .record [("ul_bytes", .num m.uplinkBytes), ("dl_bytes", .num m.downlinkBytes)]

def NasMetrics.report (m : NasMetrics) : Report :=
  .record [("state", .text m.state.name), ("nof_active_eps_bearer", .num m.bearers)]

def QueueDepth.report (q : QueueDepth) : Report :=
  .record [("name", .text q.name), ("depth", .num q.depth), ("capacity", .num q.capacity)]

def TickStats.report (t : TickStats) : Report :=
  .record [("batches", .num t.batches), ("mean_us", .num t.meanMicros), ("max_us", .num t.maxMicros),
    ("late_batches", .num t.lateBatches)]

/-- The report of the executor. Queues and statistics of ticks may be told in another way. -/
def ExecutorMetrics.reportWith (e : ExecutorMetrics) (queue : QueueDepth → Report)
    (ticks : TickStats → Report) : Report :=
  .record [("current_tti", .num? (e.currentTti.map (·.toNat))),
    ("ticks_processed", .num e.ticksProcessed),
    ("tasks_executed", .num e.tasksExecuted),
    ("tasks_panicked", .num e.tasksFaulted),
    ("long_tick_warnings", .num e.longTickWarnings),
    ("sync_backlog_warnings", .num e.backlogWarnings),
    ("uplink_dropped", .num e.uplinkDropped),
    ("running_timers", .num e.runningTimers),
    ("queues", .list (e.queues.map queue)),
    ("tick_stats", ticks e.tickStats)]

namespace StackMetrics

def sections (m : StackMetrics) (executor : Report) : List (String × Report) :=
  [("mac", m.mac.report), ("rlc", m.rlc.report), ("rrc", .record [("state", .text m.rrc.name)]),
    ("nas", m.nas.report), ("executor", executor)]

def report (m : StackMetrics) : Report :=
  .record (m.sections (m.executor.reportWith QueueDepth.report TickStats.report))

/-- A short report of a snapshot: it says whether the device is attached, a queue has no keys, and of
the statistics of ticks there are the counts alone. -/
def shortReport (m : StackMetrics) : Report :=
  .record (("attached", .flag m.isAttached) :: m.sections (m.executor.reportWith
    (fun q => .list [.text q.name, .num q.depth, .num q.capacity])
    (fun t => .record [("batches", .num t.batches), ("late_batches", .num t.lateBatches)])))

end StackMetrics

end LteUe

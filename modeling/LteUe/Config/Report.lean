import LteUe.Config.Basic
import LteUe.Report.Basic

/-!
# Reported configuration

A configuration as a report, with the spans and the filter that follow from it.
-/

namespace LteUe

def StackConfig.report (c : StackConfig) : Report :=
  .record [
    ("queue_capacity", .num c.queueCapacity),
    ("background_workers", .num c.backgroundWorkers),
    ("timer_capacity", .num c.timerCapacity),
    ("tick", .record [
      ("time_stats", .flag c.tick.timeStats),
      ("warn_threshold_ms", .num c.tick.warnThresholdMillis),
      ("sync_queue_warn_threshold", .num c.tick.backlogThreshold),
      ("stat_period", .num c.tick.statPeriod),
      ("warn_threshold", .span c.tick.warnThreshold)]),
    ("detach", .record [
      ("timeout_ms", .num c.detach.timeoutMillis),
      ("timeout", .span c.detach.timeout),
      ("poll_interval_ms", .num c.detach.pollIntervalMillis),
      ("poll_interval", .span c.detach.pollInterval)]),
    ("pcap", .record [
      ("enable", .flag c.captures.macEnabled),
      ("filename", .text c.captures.macFile),
      ("nas_enable", .flag c.captures.nasEnabled),
      ("nas_filename", .text c.captures.nasFile)]),
    ("log", .record (Log.Target.layered.map fun t => (s!"{t.name}_level", .text (c.log.level t)))),
    ("filter", .text c.log.filter)]

end LteUe

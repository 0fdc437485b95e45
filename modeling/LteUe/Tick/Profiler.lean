import LteUe.Fault
import LteUe.Span

/-!
# Tick statistics

`TickProfiler` measures tick batches. Its figures cover the current period and start afresh every
`period` batches; the count of late batches is kept for the whole lifetime. Microseconds are computed
exactly and read modulo `2 ^ 64`.
-/

namespace LteUe

structure TickStats where
  batches : Nat := 0
  meanMicros : Nat := 0
  maxMicros : Nat := 0
  /-- Batches above the threshold since the start. -/
  lateBatches : Nat := 0
deriving DecidableEq, Repr

/-- Running statistics of tick batches. -/
structure TickProfiler where
  /-- Batches in a period; a period of none counts as one. -/
  period : Nat
  threshold : Span
  /-- When the measurement in progress began. -/
  started : Option Span := none
  batches : Nat := 0
  total : Span := .zero
  longest : Span := .zero
  late : Nat := 0
deriving DecidableEq, Repr

namespace TickProfiler

def ofPeriod (period : Nat) (threshold : Span) : TickProfiler where
  period := max period 1
  threshold := threshold

def stats (p : TickProfiler) : TickStats where
  batches := p.batches
  meanMicros := if p.batches = 0 then 0 else p.total.micros / p.batches % UInt64.size
  maxMicros := p.longest.micros % UInt64.size
  lateBatches := p.late

def startPeriod (p : TickProfiler) : TickProfiler :=
  { p with batches := 0, total := .zero, longest := .zero }

/-- Adds one duration. When that ends a period the answer holds its figures and the next period
begins. A total out of range is a fault, which leaves the batch counted but not measured. -/
def record (elapsed : Span) : EStateM Fault TickProfiler (Option TickStats) := do
  modify fun p => { p with batches := p.batches + 1 }
  let some total := (← get).total.add? elapsed | throw .spanOverflow
  modify fun p =>
    { p with
      total := total
      longest := max p.longest elapsed
      late := if p.threshold < elapsed then p.late + 1 else p.late }
  let p ← get
  if p.period ≤ p.batches then
    set p.startPeriod
    return some p.stats
  else
    return none

def start (now : Span) (p : TickProfiler) : TickProfiler :=
  { p with started := some now }

/-- Ends the measurement in progress at time `now`: its duration, and the figures of the period it
ended. There is no answer if none was in progress. -/
def stop (now : Span) : EStateM Fault TickProfiler (Option (Span × Option TickStats)) := do
  match (← get).started with
  | none => return none
  | some begun =>
    modify fun p => { p with started := none }
    let summary ← record (now - begun)
    return some (now - begun, summary)

end TickProfiler

end LteUe

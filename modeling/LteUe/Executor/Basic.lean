import LteUe.Layers.Interface
import LteUe.Stack.Shared
import LteUe.Timer.Table
import LteUe.Tti

/-!
# The executor

The executor owns the layers, the timers and the bookkeeping of ticks, and runs tasks on them one at a
time. Deferrals that have been posted are armed before each task and before each step of the timers.
A task that faults is reported and counted; what it has done stays.
-/

namespace LteUe

variable {L κ : Type}

/-- What the executor owns. -/
structure Executor (L κ : Type) where
  layers : L
  timers : TimerTable κ
  profiler : TickProfiler
  currentTti : Option UInt32 := none
  ticksProcessed : Nat := 0
  tasksExecuted : Nat := 0
  tasksFaulted : Nat := 0
  /-- Tick batches above the threshold. -/
  longTickWarnings : Nat := 0
  /-- Tick batches that left too many reports waiting. -/
  backlogWarnings : Nat := 0
  running : Bool := true

/-- A computation of the executor. -/
abbrev Work (L κ α : Type) := EStateM Fault (Executor L κ × Shared κ) α

namespace Executor

def ofLayers (layers : L) (c : StackConfig) : Executor L κ where
  layers := layers
  timers := .ofCapacity c.timerCapacity
  profiler := .ofPeriod c.tick.statPeriod c.tick.warnThreshold

def text (e : Executor L κ) : String :=
  let tti := e.currentTti.elim "None" fun t => s!"Some({t.toNat})"
  s!"StackContext \x7b current_tti: {tti}, ticks_processed: {e.ticksProcessed}, " ++
    s!"tasks_executed: {e.tasksExecuted}, running: {e.running}, .. \x7d"

end Executor

namespace Work

def modifyExecutor (f : Executor L κ → Executor L κ) : Work L κ Unit :=
  modify fun (e, s) => (f e, s)

def modifyShared (f : Shared κ → Shared κ) : Work L κ Unit :=
  modify fun (e, s) => (e, f s)

/-- Takes over what a hook leaves. The state of the stack and its radio are not for hooks to change. -/
def adopt (s : Shared κ) (r : Surroundings κ) : Shared κ :=
  { s with toSurroundings := { r with state := s.state, radio := s.radio } }

def hook {α : Type} (h : Hook L κ α) : Work L κ α := fun (e, s) =>
  match h (e.layers, s.toSurroundings) with
  | .ok a (l, r) => .ok a ({ e with layers := l }, adopt s r)
  | .error f (l, r) => .error f ({ e with layers := l }, adopt s r)

def onTimers {α : Type} (f : TimerTable κ → α × TimerTable κ) : Work L κ α :=
  modifyGet fun (e, s) => let (a, t) := f e.timers; (a, { e with timers := t }, s)

/-- Arms the deferrals posted since the last time, in their order. -/
def armDeferred : Work L κ Unit :=
  modify fun (e, s) =>
    let timers := s.deferred.foldl (fun t (ticks, callback) => (t.defer ticks callback).2) e.timers
    ({ e with timers := timers }, { s with deferred := [] })

variable [Layers L κ]

/-- Steps the timers once, and answers with the number of those that expired. -/
def stepTimers : Work L κ Nat := fun (e, s) =>
  match TimerTable.stepAll Layers.fire (e.timers, e.layers, s.toSurroundings) with
  | .ok n (t, l, r) => .ok n ({ e with timers := t, layers := l }, adopt s r)
  | .error f (t, l, r) => .error f ({ e with timers := t, layers := l }, adopt s r)

/-! ### Tick processing -/

/-- One tick: medium access control, then the timers. -/
def subTick (tti : UInt32) : Work L κ Unit := do
  hook (Layers.macTick tti)
  armDeferred
  let _ ← stepTimers
  modifyExecutor fun e => { e with ticksProcessed := e.ticksProcessed + 1 }

def startMeasuring : Work L κ Unit :=
  modify fun (e, s) =>
    if s.config.tick.timeStats then
      let (now, world) := s.world.readClock
      ({ e with profiler := e.profiler.start now }, { s with world := world })
    else (e, s)

def statistics (t : TickStats) : Log.Event where
  level := .debug
  target := .stack
  message := "tick processing statistics"
  fields := [("batches", .num t.batches), ("late_batches", .num t.lateBatches)]

def longTick (tti jump : UInt32) : Log.Event where
  level := .warn
  target := .mac
  message := "proc_time: detected long tick duration"
  fields := [("tti", .num tti.toNat), ("jump", .num jump.toNat)]

/-- Ends the measurement of a batch, if one is in progress: the duration. -/
def stopMeasuring : Work L κ (Option Span) := fun (e, s) =>
  -- the clock is read even if no measurement is in progress
  let (now, world) := s.world.readClock
  let s := { s with world := world }
  match TickProfiler.stop now e.profiler with
  | .ok ended p =>
    let s := (ended.bind Prod.snd).elim s fun t => s.report (statistics t)
    .ok (ended.map Prod.fst) ({ e with profiler := p }, s)
  | .error f p => .error f ({ e with profiler := p }, s)

def slowProcessing (backlog : Nat) : Log.Event where
  level := .warn
  target := .stack
  message := "detected slow task processing"
  fields := [("sync_queue_len", .num backlog)]

def checkDuration (tti jump : UInt32) (elapsed : Option Span) : Work L κ Unit :=
  modify fun (e, s) =>
    if elapsed.any fun d => decide (e.profiler.threshold < d) then
      ({ e with longTickWarnings := e.longTickWarnings + 1 }, s.report (longTick tti jump))
    else (e, s)

def checkBacklog : Work L κ Unit :=
  modify fun (e, s) =>
    if s.config.tick.backlogThreshold < s.depth .sync then
      ({ e with backlogWarnings := e.backlogWarnings + 1 }, s.report (slowProcessing (s.depth .sync)))
    else (e, s)

/-- Processes a report of the radio clock: the ticks one by one, then the other layers once. -/
def runTti (tti jump : UInt32) : Work L κ Unit := do
  startMeasuring
  modifyExecutor fun e => { e with currentTti := some (tti % Tti.wrap) }
  (Tti.subTicks tti jump).forM subTick
  hook Layers.rrcBatch
  hook Layers.nasBatch
  let elapsed ← stopMeasuring
  checkDuration tti jump elapsed
  checkBacklog

/-! ### Snapshots -/

def snapshot (e : Executor L κ) (s : Shared κ) : StackMetrics where
  toLayerMetrics := Layers.metrics e.layers
  executor := {
    currentTti := e.currentTti
    ticksProcessed := e.ticksProcessed
    tasksExecuted := e.tasksExecuted
    tasksFaulted := e.tasksFaulted
    longTickWarnings := e.longTickWarnings
    backlogWarnings := e.backlogWarnings
    uplinkDropped := s.uplinkDropped
    runningTimers := e.timers.runningCount
    queues := s.dispatcher.snapshot
    tickStats := e.profiler.stats }

/-! ### Captures -/

/-- Opens the capture of a layer, and tells the layer if that succeeds. -/
def startCapture (sinks : Sinks) (enabled : Bool) (path : String) (layer : CapturedLayer) :
    Work L κ Unit := do
  let started ← modifyGet fun (e, s) =>
    let (capture, world) := Captures.start (sinks.get layer) enabled path layer s.world
    (capture.isSome, e, { s with captures := s.captures.set layer capture, world := world })
  if started then hook (Layers.captureBegun layer)

def startCaptures (sinks : Sinks) : Work L κ Unit := do
  let c := (← get).2.config.captures
  startCapture sinks c.macEnabled c.macFile .mac
  startCapture sinks c.nasEnabled c.nasFile .nas

def closeCaptures : Work L κ Unit :=
  modifyShared fun s =>
    let (captures, world) := s.captures.close s.world
    { s with captures := captures, world := world }

/-! ### Tasks -/

/-- Stops the layers, from the subscriber module down to medium access control, and then closes the
captures. The executor ends with this task. -/
def teardown : Work L κ Unit := do
  -- first, since a layer that faults ends this task
  modifyExecutor fun e => { e with running := false }
  hook Layers.usimStop
  hook Layers.nasStop
  hook Layers.rrcStop
  hook Layers.rlcStop
  hook Layers.pdcpStop
  hook Layers.macStop
  closeCaptures

def ttiNumber (tti : Option UInt32) : Int := tti.elim (-1) fun t => t.toNat

def noteTask (label : String) (faulty : Bool) : Work L κ Unit := do
  let tti := ttiNumber (← get).1.currentTti
  modifyShared (·.onSurroundings (·.note s!"task {label} tti={tti}"))
  if faulty then throw (.raised s!"task {label}")

def perform : Command → Work L κ Reply
  | .attach => do
    hook (Layers.attach .standard)
    return .done
  | .detach switchOff => return .flag (← hook (Layers.detach switchOff))
  | .hasData lcid => return .flag (← hook (Layers.hasData lcid))
  | .metrics => do
    let (e, s) ← get
    return .snapshot (snapshot e s)
  | .ask v none => return .number v
  | .ask _ (some text) => throw (.raised text)
  | .uplink lcid sdu blocking => do
    hook (Layers.writeSdu lcid sdu blocking)
    return .done
  | .sync inSync => do
    hook (if inSync then Layers.inSync else Layers.outOfSync)
    return .done
  | .tick tti jump => do
    runTti tti jump
    return .done
  | .note label faulty => do
    noteTask label faulty
    return .done
  | .searchDone result cell => do
    hook (Layers.searchDone result cell)
    return .done
  | .selectDone selected => do
    hook (Layers.selectDone selected)
    return .done
  | .idle => return .done
  | .teardown => do
    teardown
    return .done

end Work

namespace Executor

/-- The executor takes the next task, if there is one, and arms the deferrals. -/
def begin (e : Executor L κ) (s : Shared κ) : Option (Task × Executor L κ × Shared κ) :=
  match s.dispatcher.tryPop with
  | some (t, d) =>
    match Work.armDeferred (e, { s with dispatcher := d }) with
    | .ok _ (e, s) => some (t, e, s)
    -- arming does not fail
    | .error _ (e, s) => some (t, e, s)
  | none => none

def taskFaulted : Log.Event where
  level := .error
  target := .stack
  message := "stack task panicked"

/-- Counts a task that has come to its end, and delivers its answer. -/
def conclude (t : Task) (r : Except Fault Reply) (e : Executor L κ) (s : Shared κ) :
    Executor L κ × Shared κ :=
  let e := { e with tasksExecuted := e.tasksExecuted + 1 }
  match r with
  | .ok reply => (e, s.deliver t.ticket reply)
  | .error _ =>
    ({ e with tasksFaulted := e.tasksFaulted + 1 }, (s.abandon t.ticket).report taskFaulted)

variable [Layers L κ]

def run (t : Task) (e : Executor L κ) (s : Shared κ) : Executor L κ × Shared κ :=
  let (r, e, s) := outcome (Work.perform t.command) (e, s)
  conclude t r e s

/-- One turn: the next task is taken and run. There is none if the executor has ended or no task
waits. -/
def turn (e : Executor L κ) (s : Shared κ) : Option (Executor L κ × Shared κ) := do
  guard e.running
  let (t, e, s) ← e.begin s
  return e.run t s

def turns : Nat → Executor L κ → Shared κ → Executor L κ × Shared κ
  | 0, e, s => (e, s)
  | n + 1, e, s =>
    match e.turn s with
    | some (e, s) => turns n e s
    | none => (e, s)

end Executor

end LteUe

import LteUe.Executor.Basic
import LteUe.Layers.Callback
import LteUe.Proofs.Outcome

/-!
# What a task can do

A task is made of hooks of the layers, ticks of the timers, and bookkeeping that concerns neither
(`Work.Quiet`). A relation between states that admits these three (`Work.Admits`) is one that no task
leaves, but for the end of the executor (`Work.Admits.perform_of_ne`, `Work.Admits.perform`).
-/

namespace LteUe

variable {L κ : Type}

/-- The hooks that the executor calls in the course of its tasks. -/
inductive Layers.Called [Layers L κ] : {α : Type} → Hook L κ α → Prop
  | macTick (tti : UInt32) : Called (Layers.macTick tti)
  | hasData (lcid : Lcid) : Called (Layers.hasData lcid)
  | writeSdu (lcid : Lcid) (sdu : Bytes) (blocking : Bool) : Called (Layers.writeSdu lcid sdu blocking)
  | attach (cause : EstablishmentCause) : Called (Layers.attach cause)
  | detach (switchOff : Bool) : Called (Layers.detach switchOff)
  | nasBatch : Called Layers.nasBatch
  | rrcBatch : Called Layers.rrcBatch
  | inSync : Called Layers.inSync
  | outOfSync : Called Layers.outOfSync
  | searchDone (result : SearchResult) (cell : Cell) : Called (Layers.searchDone result cell)
  | selectDone (selected : Bool) : Called (Layers.selectDone selected)
  | usimStop : Called Layers.usimStop
  | macStop : Called Layers.macStop
  | rlcStop : Called Layers.rlcStop
  | pdcpStop : Called Layers.pdcpStop
  | nasStop : Called Layers.nasStop
  | rrcStop : Called Layers.rrcStop

/-- The hooks that bring layers up, but for the one of the subscriber module. -/
inductive Layers.Raised [Layers L κ] : Hook L κ Unit → Prop
  | macInit : Raised Layers.macInit
  | rlcInit : Raised Layers.rlcInit
  | pdcpInit : Raised Layers.pdcpInit
  | nasInit : Raised Layers.nasInit
  | rrcInit : Raised Layers.rrcInit
  | captureBegun (layer : CapturedLayer) : Raised (Layers.captureBegun layer)

/-- Whatever a hook does, and whether or not it faults, `R` relates what it leaves to what it finds. -/
structure Layers.Within (L : Type) {κ : Type} [Layers L κ]
    (R : L × Surroundings κ → L × Surroundings κ → Prop) : Prop where
  usim : Moves R Layers.usimInit
  raised {h : Hook L κ Unit} : Layers.Raised h → Moves R h
  called {α : Type} {h : Hook L κ α} : Layers.Called h → Moves R h
  fire (c : κ) : Moves R (Layers.fire c)

theorem Layers.Within.mono [Layers L κ] {R S : L × Surroundings κ → L × Surroundings κ → Prop}
    (h : Layers.Within L R) (hRS : ∀ {y y'}, R y y' → S y y') : Layers.Within L S where
  usim := h.usim.mono hRS
  raised hr := (h.raised hr).mono hRS
  called hc := (h.called hc).mono hRS
  fire c := (h.fire c).mono hRS

/-- Handing a job to the workers touches neither the captures nor the deferrals. -/
theorem Surroundings.apart_submitRadio (s : Surroundings κ) (j : Job) :
    (s.submitRadio j).2.captures = s.captures ∧ (s.submitRadio j).2.deferred = s.deferred := by
  unfold Surroundings.submitRadio
  cases s.radio <;> exact ⟨rfl, rfl⟩

/-- A callback writes a note, and may then fault or post itself again. -/
theorem Callback.moves_run {R : L × Surroundings Callback → L × Surroundings Callback → Prop} (hc : Composes R)
    (hnote : ∀ text, Moves R (Hook.note text : Hook L Callback Unit))
    (hdefer : ∀ ticks c, Moves R (Hook.withHandle (·.defer ticks c) : Hook L Callback Bool)) (tx : Nat)
    (c : Callback) : Moves R (c.run tx : Hook L Callback Callback) := by
  cases c with
  | deferral label ticks chain faulty =>
    have hrest : Moves R (if chain ≠ 0 then (do
        let _ ← Hook.withHandle (·.defer ticks (.deferral label ticks (chain - 1) faulty))
        return .deferral label ticks (chain - 1) faulty) else
          return .deferral label ticks (chain - 1) faulty : Hook L Callback Callback) :=
      .ite (hc.bind (hdefer _ _) fun _ => hc.pure _) (hc.pure _)
    exact hc.bind (hnote _) fun _ => .ite (hc.bind (hc.throw _) fun _ => hrest) hrest
  | alarm name faulty =>
    exact hc.bind (hnote _) fun _ => .ite (hc.bind (hc.throw _) fun _ => hc.pure _) (hc.pure _)

namespace Work

variable {α β : Type}

/-- At most the books, the captures and what lies around the stack have changed. -/
structure Quiet (y y' : Executor L κ × Shared κ) : Prop where
  layers : y'.1.layers = y.1.layers
  timers : y'.1.timers = y.1.timers
  ticks : y'.1.ticksProcessed = y.1.ticksProcessed
  deferred : y'.2.deferred = y.2.deferred
  dispatcher : y'.2.dispatcher = y.2.dispatcher
  slots : y'.2.slots = y.2.slots
  state : y'.2.state = y.2.state
  pool : y'.2.pool = y.2.pool
  radio : y'.2.radio = y.2.radio
  config : y'.2.config = y.2.config
  uplinkDropped : y'.2.uplinkDropped = y.2.uplinkDropped
  running : y'.1.running = y.1.running
  executed : y'.1.tasksExecuted = y.1.tasksExecuted
  faulted : y'.1.tasksFaulted = y.1.tasksFaulted

/-! ## Hooks and steps of the timers -/

/-- A hook changes the layers, and the surroundings in what is theirs. -/
theorem outcome_hook_eq (h : Hook L κ α) (e : Executor L κ) (s : Shared κ) :
    (outcome (hook h) (e, s)).2 =
      ({ e with layers := (outcome h (e.layers, s.toSurroundings)).2.1 },
        adopt s (outcome h (e.layers, s.toSurroundings)).2.2) := by
  simp only [outcome, hook]
  cases h (e.layers, s.toSurroundings) <;> rfl

theorem outcome_hook (h : Hook L κ α) (e : Executor L κ) (s : Shared κ) :
    ∃ l r, (outcome (hook h) (e, s)).2 = ({ e with layers := l }, adopt s r) :=
  ⟨_, _, outcome_hook_eq h e s⟩

theorem hook_eq_ok_iff {h : Hook L κ α} {e : Executor L κ} {s : Shared κ} {a : α}
    {z : Executor L κ × Shared κ} :
    hook h (e, s) = .ok a z ↔
      ∃ l r, h (e.layers, s.toSurroundings) = .ok a (l, r) ∧ z = ({ e with layers := l }, adopt s r) := by
  unfold hook
  dsimp only
  cases h (e.layers, s.toSurroundings) with
  | ok a' y =>
    constructor
    · intro hz
      cases hz
      exact ⟨_, _, rfl, rfl⟩
    · rintro ⟨l, r, hz, rfl⟩
      cases hz
      rfl
  | error f y => simp

theorem outcome_stepTimers [Layers L κ] (e : Executor L κ) (s : Shared κ) :
    ∃ t l r, (outcome stepTimers (e, s)).2 = ({ e with timers := t, layers := l }, adopt s r) := by
  simp only [outcome, stepTimers]
  cases TimerTable.stepAll (Layers.fire : κ → Hook L κ κ) (e.timers, e.layers, s.toSurroundings) with
  | ok n y => exact ⟨y.1, y.2.1, y.2.2, rfl⟩
  | error f y => exact ⟨y.1, y.2.1, y.2.2, rfl⟩

/-- One tick of the timers: the deferrals posted are armed, the timers stepped, and the tick
counted. -/
def tickTimers [Layers L κ] : Work L κ Unit := do
  armDeferred
  let _ ← stepTimers
  modifyExecutor fun e => { e with ticksProcessed := e.ticksProcessed + 1 }

theorem subTick_eq [Layers L κ] (tti : UInt32) :
    (subTick tti : Work L κ Unit) = (do hook (Layers.macTick tti); tickTimers) := rfl

/-- A report up to the end of its hooks. What remains is to measure and check how long it took. -/
def batch [Layers L κ] (tti jump : UInt32) : Work L κ Unit := do
  startMeasuring
  modifyExecutor fun e => { e with currentTti := some (tti % Tti.wrap) }
  (Tti.subTicks tti jump).forM subTick
  hook Layers.rrcBatch
  hook Layers.nasBatch

theorem runTti_eq [Layers L κ] (tti jump : UInt32) : (runTti tti jump : Work L κ Unit) = (do
    batch tti jump
    let elapsed ← stopMeasuring
    checkDuration tti jump elapsed
    checkBacklog) := by
  simp only [runTti, batch, bind_assoc]

/-! ## Bookkeeping -/

/-- At most the clock, the log and the books of the batches have changed. -/
def Booked (y y' : Executor L κ × Shared κ) : Prop :=
  ∃ profiler long backlog now log,
    y' = ({ y.1 with profiler := profiler, longTickWarnings := long, backlogWarnings := backlog },
      { y.2 with world := { y.2.world with now := now, log := log } })

theorem Booked.quiet {y y' : Executor L κ × Shared κ} (h : Booked y y') : Quiet y y' := by
  obtain ⟨_, _, _, _, _, rfl⟩ := h
  constructor <;> rfl

/-- At most the books and what lies around the stack have changed. -/
structure Calm (y y' : Executor L κ × Shared κ) : Prop extends Quiet y y' where
  captures : y'.2.captures = y.2.captures

theorem Booked.calm {y y' : Executor L κ × Shared κ} (h : Booked y y') : Calm y y' where
  toQuiet := h.quiet
  captures := by
    obtain ⟨_, _, _, _, _, rfl⟩ := h
    rfl

theorem composes_booked : Composes (Booked (L := L) (κ := κ)) where
  refl y := ⟨y.1.profiler, y.1.longTickWarnings, y.1.backlogWarnings, y.2.world.now, y.2.world.log, rfl⟩
  trans := by
    rintro s t u ⟨p, l, b, n, g, rfl⟩ ⟨p', l', b', n', g', rfl⟩
    exact ⟨p', l', b', n', g', rfl⟩

theorem booked_startMeasuring : Moves Booked (startMeasuring : Work L κ Unit) := by
  refine moves_modify ?_
  rintro ⟨e, s⟩
  dsimp only
  split
  · exact ⟨_, _, _, _, _, rfl⟩
  · exact composes_booked.refl _

theorem booked_stopMeasuring : Moves Booked (stopMeasuring : Work L κ (Option Span)) := by
  rintro ⟨e, s⟩
  unfold outcome stopMeasuring
  dsimp only
  cases TickProfiler.stop s.world.readClock.1 e.profiler with
  | error f p => exact ⟨_, _, _, _, _, rfl⟩
  | ok ended p =>
    dsimp only
    cases ended.bind Prod.snd with
    | none => exact ⟨_, _, _, _, _, rfl⟩
    | some t => exact ⟨_, _, _, _, _, rfl⟩

theorem booked_checkDuration (tti jump : UInt32) (elapsed : Option Span) :
    Moves Booked (checkDuration tti jump elapsed : Work L κ Unit) := by
  refine moves_modify ?_
  rintro ⟨e, s⟩
  dsimp only
  split
  · exact ⟨_, _, _, _, _, rfl⟩
  · exact composes_booked.refl _

theorem booked_checkBacklog : Moves Booked (checkBacklog : Work L κ Unit) := by
  refine moves_modify ?_
  rintro ⟨e, s⟩
  dsimp only
  split
  · exact ⟨_, _, _, _, _, rfl⟩
  · exact composes_booked.refl _

/-- When the batch of a report has come to its end or to a fault, only bookkeeping is left. -/
theorem booked_runTti [Layers L κ] (tti jump : UInt32) (y : Executor L κ × Shared κ) :
    Booked (outcome (batch tti jump) y).2 (outcome (runTti tti jump) y).2 := by
  rw [runTti_eq]
  show Booked _ (outcome (EStateM.bind (batch tti jump) _) y).2
  unfold outcome EStateM.bind
  cases batch tti jump y with
  | error f z => exact composes_booked.refl z
  | ok u z =>
    exact composes_booked.bind booked_stopMeasuring
      (fun _ => composes_booked.bind (booked_checkDuration _ _ _) fun _ => booked_checkBacklog) z

/-! ## Tasks -/

/-- The layers are stopped, from the subscriber module down to medium access control. -/
def stopLayers [Layers L κ] : Work L κ Unit := do
  hook Layers.usimStop
  hook Layers.nasStop
  hook Layers.rrcStop
  hook Layers.rlcStop
  hook Layers.pdcpStop
  hook Layers.macStop

theorem teardown_eq [Layers L κ] : (teardown : Work L κ Unit) = (do
    modifyExecutor fun e => { e with running := false }
    stopLayers
    closeCaptures) := by
  simp only [teardown, stopLayers, bind_assoc]

/-- A relation that tasks do not leave, since it admits all of which they are made, but for the close of the
captures. -/
structure AdmitsTasks [Layers L κ] (R : Executor L κ × Shared κ → Executor L κ × Shared κ → Prop) : Prop
    extends Composes R where
  calm {y y' : Executor L κ × Shared κ} : Calm y y' → R y y'
  hook {α : Type} {h : Hook L κ α} : Layers.Called h → Moves R (Work.hook h)
  tick : Moves R (tickTimers : Work L κ Unit)

/-- A relation that admits the close of the captures as well. -/
structure Admits [Layers L κ] (R : Executor L κ × Shared κ → Executor L κ × Shared κ → Prop) : Prop
    extends Composes R where
  quiet {y y' : Executor L κ × Shared κ} : Quiet y y' → R y y'
  hook {α : Type} {h : Hook L κ α} : Layers.Called h → Moves R (Work.hook h)
  tick : Moves R (tickTimers : Work L κ Unit)

namespace AdmitsTasks

variable [Layers L κ] {R : Executor L κ × Shared κ → Executor L κ × Shared κ → Prop}

theorem modify (h : AdmitsTasks R) {f : Executor L κ × Shared κ → Executor L κ × Shared κ}
    (hf : ∀ y, Calm y (f y)) : Moves R (MonadState.modifyGet fun y => ((), f y) : Work L κ Unit) :=
  moves_modify fun y => h.calm (hf y)

theorem subTick (h : AdmitsTasks R) (tti : UInt32) : Moves R (Work.subTick tti : Work L κ Unit) :=
  h.bind (h.hook (.macTick tti)) fun _ => h.tick

theorem booked {x : Work L κ α} (h : AdmitsTasks R) (hx : Moves Booked x) : Moves R x :=
  hx.mono fun hb => h.calm hb.calm

theorem runTti (h : AdmitsTasks R) (tti jump : UInt32) : Moves R (Work.runTti tti jump : Work L κ Unit) :=
  h.bind (h.booked booked_startMeasuring) fun _ =>
  h.bind (h.modify fun y => ⟨by constructor <;> rfl, rfl⟩) fun _ => h.bind (h.forM h.subTick) fun _ =>
  h.bind (h.hook .rrcBatch) fun _ => h.bind (h.hook .nasBatch) fun _ =>
  h.bind (h.booked booked_stopMeasuring) fun _ => h.bind (h.booked (booked_checkDuration _ _ _)) fun _ =>
  h.booked booked_checkBacklog

/-- No task leaves a relation that admits all of which tasks are made, but for the last one. -/
theorem perform_of_ne (h : AdmitsTasks R) {c : Command} (hc : c ≠ .teardown) :
    Moves R (Work.perform c : Work L κ Reply) := by
  cases c with
  | attach => exact h.bind (h.hook (.attach _)) fun _ => h.pure _
  | detach switchOff => exact h.bind (h.hook (.detach _)) fun _ => h.pure _
  | hasData lcid => exact h.bind (h.hook (.hasData _)) fun _ => h.pure _
  | metrics => exact h.bind h.get fun _ => h.pure _
  | ask v fault =>
    cases fault with
    | none => exact h.pure _
    | some text => exact h.throw _
  | uplink lcid sdu blocking => exact h.bind (h.hook (.writeSdu ..)) fun _ => h.pure _
  | sync inSync =>
    refine h.bind ?_ fun _ => h.pure _
    cases inSync with
    | true => exact h.hook .inSync
    | false => exact h.hook .outOfSync
  | tick tti jump => exact h.bind (h.runTti tti jump) fun _ => h.pure _
  | note label faulty =>
    refine h.bind ?_ fun _ => h.pure _
    refine h.bind h.get fun _ => h.bind (h.modify fun y => ⟨by constructor <;> rfl, rfl⟩) fun _ => ?_
    cases faulty with
    | true => exact h.throw _
    | false => exact h.pure _
  | searchDone result cell => exact h.bind (h.hook (.searchDone ..)) fun _ => h.pure _
  | selectDone selected => exact h.bind (h.hook (.selectDone _)) fun _ => h.pure _
  | idle => exact h.pure _
  | teardown => exact absurd rfl hc

theorem stop (h : AdmitsTasks R) : Moves R (Work.stopLayers : Work L κ Unit) :=
  h.bind (h.hook .usimStop) fun _ => h.bind (h.hook .nasStop) fun _ => h.bind (h.hook .rrcStop) fun _ =>
    h.bind (h.hook .rlcStop) fun _ => h.bind (h.hook .pdcpStop) fun _ => h.hook .macStop

end AdmitsTasks

namespace Admits

variable [Layers L κ] {R S : Executor L κ × Shared κ → Executor L κ × Shared κ → Prop}

theorem tasks (h : Admits R) : AdmitsTasks R where
  toComposes := h.toComposes
  calm hc := h.quiet hc.toQuiet
  hook := h.hook
  tick := h.tick

/-- What follows from an admitting relation, and composes, admits as much. -/
theorem mono (h : Admits R) (hS : Composes S) (hRS : ∀ {y y'}, R y y' → S y y') : Admits S where
  toComposes := hS
  quiet hq := hRS (h.quiet hq)
  hook hc := (h.hook hc).mono hRS
  tick := h.tick.mono hRS

/-- Beside what any task is made of, the last one ends the executor. -/
theorem teardown (h : Admits R) (halt : ∀ y, R y ({ y.1 with running := false }, y.2)) :
    Moves R (Work.teardown : Work L κ Unit) := by
  rw [teardown_eq]
  refine h.bind (moves_modify halt) fun _ => h.bind h.tasks.stop fun _ => moves_modify fun y => h.quiet ?_
  constructor <;> rfl

theorem perform_of_ne (h : Admits R) {c : Command} (hc : c ≠ .teardown) :
    Moves R (Work.perform c : Work L κ Reply) := h.tasks.perform_of_ne hc

theorem perform (h : Admits R) (halt : ∀ y, R y ({ y.1 with running := false }, y.2)) (c : Command) :
    Moves R (Work.perform c : Work L κ Reply) := by
  by_cases hc : c = .teardown
  · subst hc
    exact h.bind (h.teardown halt) fun _ => h.pure _
  · exact h.perform_of_ne hc

end Admits

end Work

/-! ## Turns -/

namespace Executor

variable {e e' : Executor L κ} {s s' : Shared κ}

/-- The executor once these deferrals are armed. -/
def armed (e : Executor L κ) (l : List (Nat × κ)) : Executor L κ :=
  { e with timers := l.foldl (fun t w => (t.defer w.1 w.2).2) e.timers }

/-- The executor takes the task that the dispatcher has next, and arms what has been posted. -/
theorem begin_eq_some_iff {u : Task} : e.begin s = some (u, e', s') ↔
    ∃ d, s.dispatcher.tryPop = some (u, d) ∧ e' = e.armed s.deferred ∧
      s' = { s with dispatcher := d, deferred := [] } := by
  unfold Executor.begin
  constructor
  · intro h
    cases hp : s.dispatcher.tryPop with
    | none =>
      rw [hp] at h
      cases h
    | some p =>
      rw [hp] at h
      cases h
      exact ⟨p.2, rfl, rfl, rfl⟩
  · rintro ⟨d, hp, rfl, rfl⟩
    rw [hp]
    rfl

theorem turn_eq_some_iff [Layers L κ] : e.turn s = some (e', s') ↔
    e.running = true ∧ ∃ u e₁ s₁, e.begin s = some (u, e₁, s₁) ∧ e₁.run u s₁ = (e', s') := by
  unfold Executor.turn
  cases e.running with
  | false =>
    rw [show (guard (false = true) : Option Unit) = none from rfl]
    simp
  | true =>
    rw [show (guard (true = true) : Option Unit) = some () from rfl]
    simp [Option.bind_eq_some_iff]

end Executor

end LteUe
